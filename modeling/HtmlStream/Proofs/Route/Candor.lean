import HtmlStream.Proofs.Routine.Candor
import HtmlStream.Proofs.Route.Keeping

/-!
Candid bodies while the event loop runs. Tasks and async generators only come to plain failures, and
so does whatever a render is answered after a wait; meanwhile bodies only go on, and the context of
the render still resolves the same tokens. The main statements are `candidly_await`,
`plainly_continueRunWait` and `evolves_continueRunWait`.
-/
namespace HtmlStream

/-- A wait that is over with a reply is over with a plain one. -/
def WaitProgress.IsPlain : WaitProgress → Prop
  | .over reply => Reply.IsPlain reply
  | .pending _ => True

namespace Session

/-! ## Answers -/

section Answers

variable {library : Library} {session : Session} (candid : session.IsCandid)

include candid

theorem IsCandid.beginWait (worker : Worker) (wait : LoopWait) :
    (session.beginWait worker wait).IsCandid := by
  have noted : ∀ awaited, (session.withLoop fun loop => loop.beginWait worker awaited).IsCandid :=
    fun awaited => candid.withLoop candid.due
  unfold Session.beginWait
  split
  · exact candid.schedule trivial
  · exact candid.schedule trivial
  · exact noted _
  · split
    · exact noted _
    · split
      · apply (noted _).withLoop
        apply (noted _).due.schedule
        nofun
      · exact candid.schedule trivial

theorem IsCandid.cancelPending (pending : Pending) : (session.cancelPending pending).IsCandid := by
  unfold Session.cancelPending
  split
  · exact candid.withLoop (candid.due.cancel _)
  · exact candid

variable (candidLibrary : library.IsCandid)

include candidLibrary

theorem IsCandid.stepTask (index : Nat) {reply : Reply} (plain : Reply.IsPlain reply) :
    (session.stepTask library index reply).IsCandid := by
  have switched : (session.switchTo (.task index)).IsCandid := candid.of_eq rfl rfl
  obtain ⟨_, after⟩ := keepsCandor_resume candidLibrary index plain switched
  unfold Session.stepTask
  generalize resume library index reply (session.switchTo (.task index)) = stepped at after
  rcases stepped with ⟨progress, later⟩
  cases progress with
  | waiting pending => exact after.beginWait _ _
  | _ => exact after.withLoop (after.due.wake index)

/-- The induction is on the steps that may still be taken. -/
theorem candidly_runUntilConsumer (steps : Nat) :
    Candidly ((runUntilConsumer library (fun _ _ renders session => (renders, session)) steps ()
        session).1,
      (runUntilConsumer library (fun _ _ renders session => (renders, session)) steps ()
        session).2.2) := by
  induction steps generalizing session with
  | zero => exact ⟨trivial, candid⟩
  | succ steps induction =>
      unfold runUntilConsumer
      split
      · exact induction (candid.withLoop (candid.due.cancel .consumer))
      · next step rest due =>
          have plain : ∀ worker reply, .resume worker reply ∈ step :: rest → Reply.IsPlain reply :=
            due ▸ candid.due
          have taken : (session.withLoop fun loop => { loop with due := rest }).IsCandid :=
            candid.withLoop fun worker reply later => plain worker reply (.tail step later)
          dsimp only
          cases step with
          | tell worker => exact induction (taken.withLoop (taken.due.tell worker))
          | resume worker reply =>
              have answer := plain worker reply List.mem_cons_self
              cases worker with
              | consumer => exact ⟨answer, taken⟩
              | task index => exact induction (taken.stepTask candidLibrary index answer)
              | render index => exact induction taken

theorem candidly_await (wait : LoopWait) : Candidly (session.await library wait) := by
  obtain ⟨plain, waited⟩ := candidly_runUntilConsumer (candid.beginWait .consumer wait)
    candidLibrary stepsPerWait
  exact ⟨plain, waited.of_eq rfl rfl⟩

theorem plainly_stepAsyncGenerator (index : Nat) {reply : Reply} (plain : Reply.IsPlain reply) :
    (session.stepAsyncGenerator library index reply).1.IsPlain ∧
      (session.stepAsyncGenerator library index reply).2.IsCandid := by
  obtain ⟨came, after⟩ := keepsCandor_resume candidLibrary index plain candid
  unfold stepAsyncGenerator
  generalize resume library index reply session = stepped at came after
  rcases stepped with ⟨progress, later⟩
  cases progress with
  | raised failure => exact ⟨came, after⟩
  | _ => exact ⟨trivial, after⟩

omit candid candidLibrary in
theorem isPlain_unknownWait (value : Value) : (unknownWait value).IsPlain := by
  unfold unknownWait
  split
  · exact fun _ => .unknownWait value
  · trivial

theorem plainly_beginRunWait (wait : Wait) :
    (session.beginRunWait library wait).1.IsPlain ∧
      (session.beginRunWait library wait).2.IsCandid := by
  unfold beginRunWait
  split
  · split
    · exact ⟨trivial, candid⟩
    · exact plainly_stepAsyncGenerator candid candidLibrary _ trivial
  · exact ⟨trivial, candid⟩
  · exact ⟨isPlain_unknownWait _, candid⟩
  · exact ⟨trivial, candid⟩

theorem plainly_continueRunWait (wait : Wait) {reply : Reply} (plain : Reply.IsPlain reply) :
    (session.continueRunWait library wait reply).1.IsPlain ∧
      (session.continueRunWait library wait reply).2.IsCandid := by
  unfold continueRunWait
  split
  · exact plainly_stepAsyncGenerator candid candidLibrary _ plain
  · exact ⟨trivial, candid⟩
  · exact ⟨plain, candid.cancelPending _⟩

theorem candidly_root (route : Route) : Candidly (route.root library session) := by
  obtain ⟨plain, called⟩ := candidly_call candidLibrary (keepsCandor_resume candidLibrary) candid
    route.application []
  unfold Route.root
  split
  · exact ⟨trivial, candid⟩
  · generalize session.call library (resume library) route.application [] = result at plain called
    rcases result with ⟨reply, after⟩
    cases reply with
    | error failure => exact ⟨plain, called⟩
    | ok value =>
        have refused : Reply.IsPlain (.error (.engine (.invalidComponent route.application value))) :=
          nofun
        cases value with
        | element => exact ⟨trivial, called⟩
        | routine reference =>
            dsimp only
            cases reference.kind with
            | generator | asyncGenerator => exact ⟨trivial, called⟩
            | coroutine =>
                obtain ⟨raised, closed⟩ := candid_close (keepsCandor_resume candidLibrary) called
                  reference.index
                dsimp only
                unfold closeRoutine
                generalize close (resume library) reference.index after = closing at raised closed
                rcases closing with ⟨failure?, later⟩
                cases failure? with
                | none => exact ⟨refused, closed⟩
                | some failure => exact ⟨raised failure rfl, closed⟩
        | _ => exact ⟨refused, called⟩

end Answers

/-! ## Contexts -/

theorem keptByLoop_stack (context : Nat) (labels : List String) :
    KeptByLoop fun session => session.stack? context = some labels where
  toKeptByBodies := keptByBodies_stack context labels
  withCurrent found _ := found

variable (library : Library) (context : Nat) (session : Session)

theorem evolves_await (wait : LoopWait) : Evolves context session (session.await library wait).2 where
  progresses := progresses_await library wait session
  stack labels found := (keptByLoop_stack context labels).await library found wait

theorem evolves_stepAsyncGenerator (index : Nat) (reply : Reply) :
    Evolves context session (session.stepAsyncGenerator library index reply).2 := by
  have advanced := evolves_resume library context index reply session
  unfold stepAsyncGenerator
  generalize resume library index reply session = stepped at advanced
  rcases stepped with ⟨progress, after⟩
  cases progress <;> exact advanced

theorem evolves_beginRunWait (wait : Wait) :
    Evolves context session (session.beginRunWait library wait).2 := by
  unfold beginRunWait
  split
  · split
    · exact .refl context session
    · exact evolves_stepAsyncGenerator ..
  all_goals exact .refl context session

theorem evolves_continueRunWait (wait : Wait) (reply : Reply) :
    Evolves context session (session.continueRunWait library wait reply).2 := by
  unfold continueRunWait
  split
  · exact evolves_stepAsyncGenerator ..
  · exact .refl context session
  · next pending _ => cases pending <;> exact .of_eq rfl rfl

end Session
end HtmlStream
