import HtmlStream.Routine.Resume

/-!
Calling and handing over. A plain function is run to its end, wherever it is called. A body that
hands over to another one, or to the effects of an element, advances that body at once; what it does
then is what `advanceTarget` does with a body that has handed over before, so that a property of runs
needs a single case for all of them.
-/
namespace HtmlStream.Session

variable {library : Library} {resume : Resumption} {session : Session} {index : Nat}
  {kind : RoutineKind} {next : Reply → Routine}

/-! ## Calling -/

/-- What a plain function comes to that is run to its end. -/
def runToEnd (resume : Resumption) (name : String) (body : Routine) (session : Session) :
    Reply × Session :=
  let (body, session) := session.addRoutine .generator name body
  match resume body.index (.ok .null) session with
  | (.returned value, session) => (.ok value, session)
  | (.raised failure, session) => (.error failure, session)
  | (_, session) => (.ok .null, session)

theorem callComponent_of_find? {reference : ComponentReference} {component : Component}
    (found : library.find? reference = some component) (arguments : Entries) :
    callComponent library resume reference arguments session
      = match component.signature.bind reference.name
          (if reference.hashable then none else some (.component reference)) arguments with
        | .error fault => (.error (.fault fault), session)
        | .ok bindings =>
            match component.reference.kind with
            | some kind =>
                let (body, session) :=
                  session.addRoutine kind reference.name (component.body bindings)
                (.ok (.routine body), session)
            | none => runToEnd resume reference.name (component.body bindings) session := by
  unfold callComponent
  rw [found]
  rfl

/-! ## Handing over -/

/-- A coroutine that is awaited elsewhere is not handed over to. -/
theorem run_delegate (target : RoutineReference) :
    run library resume index kind (.suspend (.delegate target) next) session
      = if session.isAwaited target then
          run library resume index kind (next (.error (.fault .coroutineAwaitedTwice))) session
        else
          advanceTarget library resume index kind target.index next (.ok .null) session := by
  rw [run]
  unfold advanceTarget
  rfl

theorem run_delegate_of_unawaited {target : RoutineReference}
    (unawaited : session.isAwaited target = false) :
    run library resume index kind (.suspend (.delegate target) next) session
      = advanceTarget library resume index kind target.index next (.ok .null) session := by
  rw [run_delegate, unawaited]
  rfl

theorem run_iterate (node : Element) :
    run library resume index kind (.suspend (.iterate node) next) session
      = advanceTarget library resume index kind
          (session.addRoutine .generator "element" node.body).1.index next (.ok .null)
          (session.addRoutine .generator "element" node.body).2 := by
  rw [run]
  unfold advanceTarget
  rfl

end HtmlStream.Session
