import HtmlStream.Proofs.Renderer.Continuation
import HtmlStream.Proofs.Renderer.Movement

/-!
A run without an event loop is one with an event loop that refuses every wait. Both give the same
texts and end in the same way. The main statement is `streamed_of_transcript`.
-/
namespace HtmlStream

/-- An event loop that refuses to wait. The failure names the tokens that are being resolved in a
render context. -/
def refusing (context : Nat) : LoopAnswers := fun _ session =>
  let labels := ((session.context? context).map RenderContext.contextStack).getD []
  (.error (.engine (.runtime .waitInSyncRender labels)), session)

namespace Renderer

variable (library : Library) {renderer : Renderer}

/-- A turn changes nothing that the renderer was given. -/
theorem given_turn (ready : AreReady renderer.frames) (session : Session) :
    (renderer.turn library session).2.1.given = renderer.given := by
  generalize frames : renderer.frames = live at ready
  cases ready with
  | empty => rw [turn_of_empty library frames]
  | receiving frame reply outer idle rest =>
      exact (moves_turn library idle reply frames session).given_eq

/-- Wherever turns pause, the render is the same one, and it is ready to go on after a text. -/
theorem takeTurns_pauses (ready : AreReady renderer.frames) (session : Session) :
    (renderer.takeTurns library session).2.1.given = renderer.given ∧
      ∀ text, (renderer.takeTurns library session).1 = .chunk text →
        AreReady (renderer.takeTurns library session).2.1.frames := by
  have proceeds := acc_proceeds library ready session
  generalize position : (renderer, session) = before at proceeds
  induction proceeds generalizing renderer session with
  | intro _ _ induction =>
      subst position
      have readyNext : ∀ {turn next}, renderer.turn library session = (turn, next) →
          turn.GoesOn → AreReady next.1.frames := by
        intro turn next taken goesOn
        have leads : LeadsTo library cancelling next (renderer, session) :=
          leadsTo_of_turn library taken goesOn
        exact leads.areReady library ready
      have same := given_turn library ready session
      rw [takeTurns.eq_1]
      cases taken : renderer.turn library session with
      | mk turn next =>
          rw [taken] at same
          cases turn with
          | proceed =>
              rcases induction next taken (readyNext taken trivial) next.2 rfl with
                ⟨sameNext, readyAfter⟩
              exact ⟨sameNext.trans same, readyAfter⟩
          | chunk text =>
              exact ⟨same, fun _ _ => readyNext taken trivial⟩
          | _ => exact ⟨same, fun _ chunk => by cases chunk⟩

end Renderer

/-! ## Streaming -/

namespace Run

open Renderer

variable (library : Library)

/-- A run in a render context that can be driven on without an answer. -/
inductive CanStream (context : Nat) : Run → Prop
  | start (renderer : Renderer) (root : Value) (empty : renderer.frames = [])
      (same : renderer.context = context) : CanStream context ⟨renderer, .unstarted root⟩
  | resume (renderer : Renderer) (ready : AreReady renderer.frames)
      (same : renderer.context = context) : CanStream context ⟨renderer, .atChunk⟩

/-- Where a run in a render context pauses, it can be driven on or waits. -/
def Pauses (context : Nat) : Stepped → Prop
  | (.chunk _, run, _) => CanStream context run
  | (.wait wait, run, _) =>
      ∃ renderer : Renderer, run = ⟨renderer, .atWait wait⟩ ∧ renderer.context = context
  | _ => True

theorem pauses_proceed {context : Nat} {turned : Turned} (same : turned.2.1.context = context)
    (ready : turned.1.GoesOn → AreReady turned.2.1.frames) :
    Pauses context (proceed library turned) := by
  rcases turned with ⟨turn, renderer, session⟩
  cases turn with
  | proceed =>
      rcases takeTurns_pauses library (ready trivial) session with ⟨sameAfter, readyAfter⟩
      have sameContext : (renderer.takeTurns library session).2.1.context = context :=
        (congrArg (fun given => given.2.2) sameAfter).trans same
      unfold proceed
      dsimp only
      generalize renderer.takeTurns library session = turned at readyAfter sameContext ⊢
      rcases turned with ⟨turn, next, after⟩
      cases turn with
      | chunk text => exact .resume next (readyAfter text rfl) sameContext
      | wait wait => exact ⟨next, rfl, sameContext⟩
      | _ => trivial
  | chunk text => exact .resume renderer (ready trivial) same
  | wait wait => exact ⟨renderer, rfl, same⟩
  | _ => trivial

theorem pauses_resume {context : Nat} {run : Run} (can : CanStream context run)
    (session : Session) : Pauses context (run.resume library (.ok .null) session) := by
  cases can with
  | start renderer root empty same =>
      show Pauses context (begin library root renderer session)
      unfold begin
      cases framed : frameOf? root session with
      | none => trivial
      | some found =>
          rcases found with ⟨frame, after⟩
          have pushed : (renderer.push library frame after).2.1.context = renderer.context := by
            unfold push
            split
            · split <;> rfl
            · rfl
          exact pauses_proceed library (pushed.trans same)
            (areReady_push library empty (isIdle_frameOf framed))
  | resume renderer ready same =>
      have paused : Pauses context (proceed library (.proceed, renderer, session)) :=
        pauses_proceed library same fun _ => ready
      exact paused

/-- What a run gives without an event loop from one of its steps on. -/
def streamedFrom : Stepped → Option Transcript
  | (.chunk text, run, session) => (run.streamed library session).map (Transcript.after · [text])
  | (.wait _, run, session) =>
      let refusal := Failure.engine (.runtime .waitInSyncRender (run.renderer.labels session))
      let (closing, _, session) := run.close library session
      some ⟨[], some (closing.getD refusal), session⟩
  | (.finished, _, session) => some ⟨[], none, session⟩
  | (.failed failure, _, session) => some ⟨[], some failure, session⟩

theorem streamed_eq_streamedFrom (run : Run) (session : Session) :
    run.streamed library session
      = streamedFrom library (run.resume library (.ok .null) session) := by
  rw [streamed.eq_1]
  unfold nextTextSync streamedFrom
  generalize run.resume library (.ok .null) session = stepped
  rcases stepped with ⟨step, run, session⟩
  cases step with
  | chunk text =>
      dsimp only
      cases run.streamed library session <;> rfl
  | _ => rfl

/-- A wait that is refused ends a run. -/
theorem resume_refused (renderer : Renderer) (wait : Wait) (error : EngineError)
    (session : Session) :
    resume library (.error (.engine error)) ⟨renderer, .atWait wait⟩ session
      = abort library (.engine error) renderer session := by
  cases wait <;> rfl

/-- With a loop that refuses to wait, a run gives what it gives without one. -/
theorem streamed_of_transcript {context : Nat} {run : Run} (can : CanStream context run)
    {session : Session} {transcript : Transcript}
    (given : run.transcript library (refusing context) (.ok .null) session = some transcript) :
    run.streamed library session = some transcript := by
  refine (Run.transcript.partial_correctness library (refusing context)
    (fun reply run session transcript =>
      (reply = .ok .null → CanStream context run → run.streamed library session = some transcript) ∧
      ∀ renderer wait error, run = ⟨renderer, .atWait wait⟩ → reply = .error (.engine error) →
        transcribed library (refusing context) (abort library (.engine error) renderer session)
          = some transcript) ?_ _ _ _ _ given).1 rfl can
  intro resumed induction reply run session transcript equal
  constructor
  · rintro rfl can
    have pauses := pauses_resume library can session
    rw [streamed_eq_streamedFrom]
    generalize run.resume library (.ok .null) session = stepped at equal pauses
    rcases stepped with ⟨step, next, after⟩
    cases step with
    | chunk text =>
        rcases Option.bind_eq_some_iff.mp equal with ⟨rest, found, equal⟩
        cases equal
        rw [streamedFrom, (induction _ _ _ _ found).1 rfl pauses]
        rfl
    | wait wait =>
        rcases pauses with ⟨renderer, rfl, rfl⟩
        exact (induction _ _ _ _ equal).2 renderer wait _ rfl rfl
    | finished | failed => exact equal
  · rintro renderer wait error rfl rfl
    rw [resume_refused] at equal
    exact equal

end Run
end HtmlStream
