import HtmlStream.Routine.Delegation
import HtmlStream.Routine.Resume

/-!
Calm bodies. A body is advanced calmly if nothing is raised in or beneath it, no body asks for the
number of live frames, and bodies that hand over are left to the renderer: while a body is at work
no other body advances or closes it or hands over to it, and a body that another one advances does
not hand over itself.

The definitions follow those of advancing bodies. `driven` says that it is the renderer who advances
a body, `busy` which bodies are at work.
-/
namespace HtmlStream

/-- What it takes to advance a body calmly. -/
abbrev Composure := (driven : Bool) → (busy : Nat → Prop) → Nat → Reply → Session → Prop

/-- What a body may come to that is advanced calmly: a failure only if it is the exit that was
raised in it. -/
def Progress.Befits : Progress → Reply → Prop
  | .raised failure, reply => failure = .exit ∧ reply = .error .exit
  | .returned _, _ => True
  | _, reply => reply ≠ .error .exit

namespace Session

section

variable (library : Library) (resume : Resumption) (calm : Composure) (busy : Nat → Prop)

/-! ## Actions -/

def CallsCalmly (callee : Value) (arguments : Entries) (session : Session) : Prop :=
  match callee with
  | .component reference => ∀ component bindings, library.find? reference = some component →
      component.reference.kind = none →
      component.signature.bind reference.name
        (if reference.hashable then none else some (.component reference)) arguments
          = .ok bindings →
      let (body, session) :=
        session.addRoutine .generator reference.name (component.body bindings)
      calm false busy body.index (.ok .null) session
  | .depthProbe => False
  | _ => True

def ExpandsCalmly (component : Value) (attributes : Entries) (children : List Value)
    (session : Session) : Prop :=
  let arguments := Component.argumentsFor (signature? library component) attributes children
  CallsCalmly library calm busy component arguments session ∧
    ∀ reference, (call library resume component arguments session).1 = .ok (.routine reference) →
      reference.kind ≠ .coroutine

def ClosesCalmly (index : Nat) (session : Session) : Prop :=
  ¬ busy index ∧ ∀ object, session.routine? index = some object → match object.state with
    | .suspended _ | .waiting .. => calm false busy index (.error .exit) session
    | .running | .delegating .. => False
    | .unstarted _ | .finished _ => True

def ReleasesCalmly (result : Value) : List Nat → Session → Prop
  | [], _ => True
  | index :: rest, session =>
      if result.holds index || session.holds index then ReleasesCalmly result rest session
      else ClosesCalmly calm busy index session ∧
        ReleasesCalmly result rest (close resume index session).2

def CarriesOutCalmly (action : Action) (session : Session) : Prop :=
  match action with
  | .call callee arguments => CallsCalmly library calm busy callee arguments session
  | .expand component attributes children =>
      ExpandsCalmly library resume calm busy component attributes children session
  | .discard index => ClosesCalmly calm busy index session
  | .release generators result => ReleasesCalmly resume calm busy result generators session
  | _ => True

/-! ## Running -/

/-- A body goes on calmly once another one that it has handed over to has returned. -/
def GoesOnCalmly (next : Value → Session → Prop) : Progress × Session → Prop
  | (.returned value, session) => next value session
  | _ => True

/-- There is such a body, and it has not handed over to another one. -/
def IsReady (session : Session) (body : RoutineReference) : Prop :=
  ∃ object, session.routine? body.index = some object ∧ object.kind = body.kind ∧
    ¬ object.HasDelegated

/-- A body hands over to another one calmly. Generators hand over to generators only where the
renderer drives them, and only to such as have not handed over themselves. -/
def HandsOverCalmly (driven : Bool) (kind : RoutineKind) (target : RoutineReference)
    (session : Session) : Prop :=
  match target.kind with
  | .generator => driven = true ∧ kind = .generator ∧ session.IsReady target ∧
      calm true busy target.index (.ok .null) session
  | .coroutine => kind ≠ .generator ∧ session.isAwaited target = false ∧
      calm false busy target.index (.ok .null) session
  | .asyncGenerator => False

def RunsCalmly (driven : Bool) (kind : RoutineKind) : Routine → Session → Prop
  | .finish _, _ => True
  | .reserve count next, session =>
      RunsCalmly driven kind (next session.nextIdentity)
        { session with nextIdentity := session.nextIdentity + count }
  | .act action next, session =>
      CarriesOutCalmly library resume calm busy action session ∧
        let (reply, session) := carryOut library resume action session
        RunsCalmly driven kind (next reply) session
  | .advance target next, session =>
      calm false busy target (.ok .null) session ∧
        let (progress, session) := resume target (.ok .null) session
        RunsCalmly driven kind (next (advancedBy progress)) session
  | .start body next, session =>
      let (task, session) := session.startTask body
      RunsCalmly driven kind (next task) session
  | .suspend (.effect _) _, _ | .suspend (.wait _) _, _ => True
  | .suspend (.delegate target) next, session =>
      HandsOverCalmly calm busy driven kind target session ∧
        GoesOnCalmly (fun value => RunsCalmly driven kind (next (.ok value)))
          (resume target.index (.ok .null) session)
  | .suspend (.iterate node) next, session =>
      driven = true ∧ kind = .generator ∧
        let (target, session) := session.addRoutine .generator "element" node.body
        calm true busy target.index (.ok .null) session ∧
          GoesOnCalmly (fun value => RunsCalmly driven kind (next (.ok value)))
            (resume target.index (.ok .null) session)

/-- A body that has handed over goes on calmly with an answer. -/
def GoesOnDelegatingCalmly (driven : Bool) (kind : RoutineKind) (target : Nat)
    (next : Reply → Routine) (reply : Reply) (session : Session) : Prop :=
  (∃ answer, reply = .ok answer) ∧ (kind = .generator → driven = true) ∧
    calm (kind == .generator) busy target reply session ∧
    GoesOnCalmly (fun value => RunsCalmly library resume calm busy driven kind (next (.ok value)))
      (resume target reply session)

def AdvancesCalmly (driven : Bool) (index : Nat) (object : RoutineObject) (reply : Reply)
    (session : Session) : Prop :=
  let within : Nat → Prop := fun other => other = index ∨ busy other
  match object.state with
  | .unstarted body =>
      reply = .ok .null ∧ RunsCalmly library resume calm within driven object.kind body
        (session.setState index .running)
  | .suspended next | .waiting _ next =>
      RunsCalmly library resume calm within driven object.kind (next reply)
        (session.setState index .running)
  | .delegating target next =>
      GoesOnDelegatingCalmly library resume calm within driven object.kind target next reply
        (session.setState index .running)
  | .running => False
  | .finished _ => True

end

/-- A body is advanced calmly with an answer, where `calls` more calls may be nested. -/
def calmWithin (library : Library) : (calls : Nat) → Composure
  | 0 => fun _ _ _ _ _ => False
  | calls + 1 => fun driven busy index reply session =>
      ¬ busy index ∧
        (resumeWithin library (calls + 1) index reply session).1.Befits reply ∧
        ∃ object, session.routine? index = some object ∧
          AdvancesCalmly library (resumeWithin library calls) (calmWithin library calls) busy
            driven index object reply session

end Session
end HtmlStream
