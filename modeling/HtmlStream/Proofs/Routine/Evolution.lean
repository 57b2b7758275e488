import HtmlStream.Proofs.Routine.Congruence
import HtmlStream.Proofs.Routine.Descent
import HtmlStream.Proofs.Routine.Yielding

/-!
How a session changes while bodies are advanced and closed. A body that has ended stays so, and no
body changes which tokens a render context resolves. A body that is not suspended when it has been
advanced or closed has ended, unless the advance itself was refused.
-/
namespace HtmlStream

namespace Session

/-- The labels of the tokens that are being resolved in a render context, outermost first. -/
def stack? (session : Session) (context : Nat) : Option (List String) :=
  (session.context? context).map RenderContext.contextStack

/-- All bodies make progress, and a render context still resolves the tokens that it resolved. -/
structure Evolves (context : Nat) (before after : Session) : Prop where
  progresses : Progresses before after
  stack : ∀ labels, before.stack? context = some labels → after.stack? context = some labels

variable {context : Nat} {before between after session : Session}

namespace Evolves

theorem refl (context : Nat) (session : Session) : Evolves context session session :=
  ⟨.refl session, fun _ => id⟩

theorem trans (earlier : Evolves context before between) (later : Evolves context between after) :
    Evolves context before after :=
  ⟨earlier.progresses.trans later.progresses,
    fun labels found => later.stack labels (earlier.stack labels found)⟩

/-- What neither the table of bodies nor the contexts change with. -/
theorem of_eq (routines : after.routines = before.routines)
    (contexts : after.contexts = before.contexts) : Evolves context before after :=
  ⟨.of_routines_eq routines, fun labels found => by
    simpa only [stack?, context?, contexts] using found⟩

theorem withLiveFrames (session : Session) (count : Nat) :
    Evolves context session (session.withLiveFrames count) :=
  .of_eq rfl rfl

theorem diagnose (session : Session) (source : LogSource) (message : String) :
    Evolves context session (session.diagnose source message) :=
  .of_eq rfl rfl

theorem addRoutine (session : Session) (kind : RoutineKind) (name : String) (body : Routine) :
    Evolves context session (session.addRoutine kind name body).2 :=
  ⟨.addRoutine session kind name body, fun _ => id⟩

end Evolves

/-! ## Render contexts -/

theorem stack?_modifyContext (session : Session) (index context : Nat)
    (change : RenderContext → RenderContext) :
    (session.modifyContext index change).stack? context
      = if index = context
        then (session.context? context).map fun current => (change current).contextStack
        else session.stack? context := by
  simp only [stack?, context?, modifyContext, Array.getElem?_modify]
  split
  · simp only [Option.map_map]
    rfl
  · rfl

/-- A change that is not about the tokens that are being resolved. -/
theorem stack?_modifyContext_of_keeps {session : Session} {index context : Nat}
    {change : RenderContext → RenderContext}
    (keeps : ∀ current, (change current).contextStack = current.contextStack) :
    (session.modifyContext index change).stack? context = session.stack? context := by
  rw [stack?_modifyContext]
  split
  · simp only [keeps]
    rfl
  · rfl

theorem stack?_enterFrame {labels : List String} (found : session.stack? context = some labels)
    (frame : Frame) :
    (session.enterFrame context frame).stack? context
      = some (labels ++ (frame.token?.map Token.label).toList) := by
  unfold enterFrame
  cases frame.token? with
  | none => simpa using found
  | some token =>
      rcases Option.map_eq_some_iff.mp found with ⟨current, present, rfl⟩
      dsimp only
      rw [stack?_modifyContext, if_pos rfl, present]
      rfl

theorem stack?_leaveFrame {labels : List String} {frame : Frame}
    (found : session.stack? context = some (labels ++ (frame.token?.map Token.label).toList)) :
    (session.leaveFrame context frame).stack? context = some labels := by
  unfold leaveFrame
  cases provided : frame.token? with
  | none => simpa [provided] using found
  | some token =>
      rw [provided] at found
      rcases Option.map_eq_some_iff.mp found with ⟨current, present, stacked⟩
      dsimp only
      rw [stack?_modifyContext, if_pos rfl, present, Option.map_some, stacked]
      simp

/-! ## What bodies do to a render context -/

/-- Two sessions are one and the same, in which a render context resolves certain tokens. -/
def IsSameWith (context : Nat) (labels : List String) (left right : Session) : Prop :=
  left = right ∧ left.stack? context = some labels

theorem keptByBodies_stack (context : Nat) (labels : List String) :
    KeptByBodies fun session => session.stack? context = some labels where
  blind found _ _ _ _ := found
  enroll found _ := found
  withMeta found _ _ _ := by
    refine Eq.trans (stack?_modifyContext_of_keeps ?_) found
    exact fun _ => rfl

theorem congruence_isSameWith (context : Nat) (labels : List String) :
    Congruence (fun _ => True) (IsSameWith context labels) :=
  (keptByBodies_stack context labels).congruence

variable (library : Library)

theorem progresses_resume (index : Nat) (reply : Reply) (session : Session) :
    Progresses session (session.resume library index reply).2 :=
  (advancing_resume library index reply session).1

theorem evolves_resume (context index : Nat) (reply : Reply) (session : Session) :
    Evolves context session (session.resume library index reply).2 where
  progresses := progresses_resume library index reply session
  stack labels found := (keptByBodies_stack context labels).resume library found index reply

theorem evolves_call (context : Nat) (callee : Value) (arguments : Entries) (session : Session) :
    Evolves context session (session.call library (resume library) callee arguments).2 where
  progresses := progresses_call (progresses_resume library) callee arguments session
  stack labels found := (keptByBodies_stack context labels).call library found callee arguments

theorem evolves_closeRoutine (context index : Nat) (session : Session) :
    Evolves context session (session.closeRoutine library index).2 where
  progresses := progresses_close (progresses_resume library) index session
  stack labels found := (keptByBodies_stack context labels).closeRoutine library found index

theorem evolves_closeFrame (context : Nat) (frame : Frame) (session : Session) :
    Evolves context session (session.closeFrame library frame).2 := by
  unfold closeFrame
  split
  · exact .refl context session
  · exact evolves_closeRoutine library context frame.routine.index session

/-! ## Bodies that have ended -/

theorem hasEnded_iff (index : Nat) :
    session.hasEnded index = true ↔
      ∃ kind outcome, session.routine? index = some ⟨kind, .finished outcome⟩ := by
  unfold hasEnded
  split
  · next kind outcome found => exact ⟨fun _ => ⟨kind, outcome, found⟩, fun _ => rfl⟩
  · next unfinished =>
      refine ⟨fun impossible => absurd impossible Bool.false_ne_true, ?_⟩
      rintro ⟨kind, outcome, found⟩
      exact absurd found (unfinished kind outcome)

theorem hasEnded_setState {index : Nat} {object : RoutineObject}
    (found : session.routine? index = some object) (outcome : Reply) :
    (session.setState index (.finished outcome)).hasEnded index = true :=
  (hasEnded_iff index).mpr ⟨object.kind, outcome, routine?_setState_self found _⟩

namespace Progresses

theorem hasEnded {index : Nat} (progress : Progresses before after)
    (ended : before.hasEnded index = true) : after.hasEnded index = true := by
  rcases (hasEnded_iff index).mp ended with ⟨kind, outcome, found⟩
  have stays := progress.routine?_eq (remaining_of_routine? found)
  exact (hasEnded_iff index).mpr ⟨kind, outcome, stays.trans found⟩

/-- No body is taken out of the table. -/
theorem exists_routine? {index : Nat} {object : RoutineObject} (progress : Progresses before after)
    (found : before.routine? index = some object) :
    ∃ later, after.routine? index = some later := by
  cases there : after.routine? index with
  | some later => exact ⟨later, rfl⟩
  | none =>
      rcases progress index with same | lower
      · rw [there, found] at same
        cases same
      · simp [Session.remaining, there] at lower

end Progresses

section Ending

variable {library} {resume : Resumption} {index : Nat}

/-- A body has ended if it is not suspended. -/
def EndsUnlessSuspended (index : Nat) (advanced : Progress × Session) : Prop :=
  ¬ advanced.1.IsSuspension → advanced.2.hasEnded index = true

/-- A body that has handed over stays suspended, or goes on with what the other one came to. -/
theorem endsUnlessSuspended_advanceTarget
    (progresses : ∀ index reply before, Progresses before (resume index reply before).2)
    (kind : RoutineKind) (target : Nat) (next : Reply → Routine) (reply : Reply)
    {opened : Session} (progress : Progresses session opened)
    (goesOn : ∀ answer after, Progresses session after →
      EndsUnlessSuspended index (run library resume index kind (next answer) after)) :
    EndsUnlessSuspended index
      (advanceTarget library resume index kind target next reply opened) := by
  have progress := progress.trans (progresses target reply opened)
  unfold advanceTarget
  generalize resume target reply opened = advanced at progress
  rcases advanced with ⟨step, after⟩
  cases step with
  | returned value | raised failure => exact goesOn _ after progress
  | produced effect | waiting pending => exact absurd trivial

/-- A body that ran and is not suspended has ended. The induction is on what it still has to do. -/
theorem endsUnlessSuspended_run
    (progresses : ∀ index reply before, Progresses before (resume index reply before).2)
    (kind : RoutineKind) (routine : Routine) (running : session.IsRunning index) :
    EndsUnlessSuspended index (run library resume index kind routine session) := by
  induction routine generalizing session with
  | finish result =>
      rcases running with ⟨_, found⟩
      exact fun _ => hasEnded_setState found _
  | reserve count next induction =>
      have progress : Progresses session
          { session with nextIdentity := session.nextIdentity + count } := .of_routines_eq rfl
      exact induction _ (running.mono progress)
  | act action next induction =>
      have progress : Progresses session (carryOut library resume action session).2 :=
        progresses_carryOut progresses action session
      exact induction _ (running.mono progress)
  | advance target next induction =>
      exact induction _ (running.mono (progresses target (.ok .null) session))
  | start body next _ induction =>
      exact induction _ (running.mono (progresses_startTask session body))
  | suspend suspension next induction =>
      have goesOn (answer : Reply) (after : Session) (progress : Progresses session after) :
          EndsUnlessSuspended index (run library resume index kind (next answer) after) :=
        induction answer (running.mono progress)
      cases suspension with
      | effect value | wait pending => exact absurd trivial
      | delegate target =>
          rw [run_delegate]
          split
          · exact goesOn _ session (.refl session)
          · exact endsUnlessSuspended_advanceTarget progresses kind target.index next (.ok .null)
              (.refl session) goesOn
      | iterate node =>
          rw [run_iterate]
          exact endsUnlessSuspended_advanceTarget progresses kind _ next (.ok .null)
            (.addRoutine session .generator "element" node.body) goesOn

/-- A body has ended, or it was refused to advance it. -/
def EndedOrRefused (index : Nat) (advanced : Progress × Session) : Prop :=
  ¬ advanced.1.IsSuspension →
    advanced.2.hasEnded index = true ∨ ∃ fault, advanced.1 = .raised (.fault fault)

theorem EndsUnlessSuspended.endedOrRefused {advanced : Progress × Session}
    (ends : EndsUnlessSuspended index advanced) : EndedOrRefused index advanced :=
  fun notSuspended => .inl (ends notSuspended)

theorem endsUnlessSuspended_resumeDelegating
    (progresses : ∀ index reply before, Progresses before (resume index reply before).2)
    (kind : RoutineKind) (target : Nat) (next : Reply → Routine) (reply : Reply)
    (running : session.IsRunning index) :
    EndsUnlessSuspended index
      (resumeDelegating library resume index kind target next reply session) := by
  have goesOn (answer : Reply) (after : Session) (progress : Progresses session after) :
      EndsUnlessSuspended index (run library resume index kind (next answer) after) :=
    endsUnlessSuspended_run progresses kind (next answer) (running.mono progress)
  unfold resumeDelegating
  split
  · have closed := progresses_close progresses target session
    generalize close resume target session = closing at closed ⊢
    rcases closing with ⟨failure?, between⟩
    cases failure? <;> exact goesOn _ between closed
  · exact endsUnlessSuspended_advanceTarget progresses kind target next reply (.refl session) goesOn

end Ending

/-- A body that is there has ended when it was advanced and is not suspended, unless that was
refused. -/
theorem endedOrRefused_resume {index : Nat} {object : RoutineObject}
    (found : session.routine? index = some object) (reply : Reply) :
    EndedOrRefused index (session.resume library index reply) := by
  have progresses := fun index reply before =>
    (advancing_resumeWithin library 999 index reply before).1
  have running := IsRunning.setState found
  have ran : ∀ routine, EndedOrRefused index (run library (resumeWithin library 999) index
      object.kind routine (session.setState index .running)) :=
    fun routine => (endsUnlessSuspended_run progresses _ routine running).endedOrRefused
  rw [resume_of_routine? library found]
  unfold resumeObject
  cases state : object.state with
  | unstarted body =>
      dsimp only
      unfold startBody
      split
      · exact ran body
      · exact fun _ => .inr ⟨_, rfl⟩
      · exact fun _ => .inl (hasEnded_setState found _)
  | suspended next | waiting _ next => exact ran (next reply)
  | delegating target next =>
      exact (endsUnlessSuspended_resumeDelegating progresses object.kind target next reply
        running).endedOrRefused
  | running => exact fun _ => .inr ⟨_, rfl⟩
  | finished outcome =>
      refine fun _ => .inl ((hasEnded_iff index).mpr ⟨object.kind, outcome, ?_⟩)
      rw [found, ← state]

/-- A body is closed: it is over already, it is never started, or it ends by the exit that is raised
in it. -/
inductive Closes (library : Library) (index : Nat) (before : Session) : Session → Prop
  | ended (hasEnded : ∀ object, before.routine? index = some object →
      before.hasEnded index = true) : Closes library index before before
  | unstarted (kind : RoutineKind) (body : Routine)
      (found : before.routine? index = some ⟨kind, .unstarted body⟩) :
      Closes library index before (before.setState index (.finished (.ok .null)))
  | exited (progress : Progress) (after : Session)
      (raised : before.resume library index (.error .exit) = (progress, after))
      (complied : progress = .raised .exit ∨ ∃ value, progress = .returned value)
      (ended : after.hasEnded index = true) : Closes library index before after

/-- What closing a body comes to unless it raises something. -/
theorem closes_of_closeRoutine {index : Nat}
    (closed : before.closeRoutine library index = (none, after)) :
    Closes library index before after := by
  unfold closeRoutine close at closed
  cases found : before.routine? index with
  | none =>
      rw [found] at closed
      cases closed
      exact .ended fun _ equal => by cases found.symm.trans equal
  | some object =>
      have exited := endedOrRefused_resume library found (.error .exit)
      rcases raised : before.resume library index (.error .exit) with ⟨progress, between⟩
      rw [raised] at exited
      have ends : (progress = .raised .exit ∨ ∃ value, progress = .returned value) →
          Closes library index before between := by
        intro complied
        refine .exited progress between raised complied ?_
        rcases complied with rfl | ⟨value, rfl⟩
        all_goals
          rcases exited id with ended | ⟨_, refused⟩
          · exact ended
          · cases refused
      rw [found] at closed
      rcases object with ⟨kind, state⟩
      cases state with
      | unstarted body =>
          cases closed
          exact .unstarted kind body found
      | finished outcome =>
          cases closed
          exact .ended fun _ _ => (hasEnded_iff index).mpr ⟨kind, outcome, found⟩
      | running => cases closed
      | suspended | waiting | delegating =>
          dsimp only at closed
          rw [raised] at closed
          cases progress with
          | returned value =>
              cases closed
              exact ends (.inr ⟨value, rfl⟩)
          | raised failure =>
              cases failure with
              | exit =>
                  cases closed
                  exact ends (.inl rfl)
              | _ => cases closed
          | _ => cases closed

theorem Closes.hasEnded {index : Nat} {object : RoutineObject} {library : Library}
    (closes : Closes library index before after) (found : before.routine? index = some object) :
    after.hasEnded index = true := by
  cases closes with
  | ended hasEnded => exact hasEnded object found
  | unstarted kind body found => exact hasEnded_setState found _
  | exited progress after raised complied ended => exact ended

end Session
end HtmlStream
