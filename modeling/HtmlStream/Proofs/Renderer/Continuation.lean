import HtmlStream.Proofs.Renderer.Termination

/-!
What a run gives from a turn on. A run that goes on after a turn takes the next one, a wait that is
answered is a turn of its own, and text stands before everything that comes later. The main
statements are `continued_proceed` and `acc_of_continued`.
-/
namespace HtmlStream

namespace Transcript

theorem after_texts (failure? : Option Failure) (session : Session) (texts : List String) :
    (Transcript.mk [] failure? session).after texts = ⟨texts, failure?, session⟩ := by
  simp [after]

theorem after_after (transcript : Transcript) (first second : List String) :
    (transcript.after second).after first = transcript.after (first ++ second) := by
  simp [after, List.append_assoc]

end Transcript

namespace Run

variable (library : Library) (answers : LoopAnswers)

/-- What a run gives from one of its steps on. -/
def transcribed : Stepped → Option Transcript
  | (.chunk text, run, session) =>
      (run.transcript library answers (.ok .null) session).map (Transcript.after · [text])
  | (.wait wait, run, session) =>
      run.transcript library answers (answers wait session).1 (answers wait session).2
  | (.finished, _, session) => some ⟨[], none, session⟩
  | (.failed failure, _, session) => some ⟨[], some failure, session⟩

theorem transcript_eq_transcribed (reply : Reply) (run : Run) (session : Session) :
    run.transcript library answers reply session
      = transcribed library answers (run.resume library reply session) := by
  rw [transcript.eq_1]
  unfold transcribed
  generalize run.resume library reply session = stepped
  rcases stepped with ⟨step, run, session⟩
  cases step with
  | chunk text =>
      dsimp only
      cases run.transcript library answers (.ok .null) session <;> rfl
  | _ => rfl

end Run

namespace Renderer

variable (library : Library) (answers : LoopAnswers) {renderer : Renderer}

/-- What a run gives from a turn on. -/
def continued (turned : Turned) : Option Transcript :=
  Run.transcribed library answers (Run.proceed library turned)

theorem proceed_turn (renderer : Renderer) (session : Session) :
    Run.proceed library (.proceed, renderer, session)
      = Run.proceed library (renderer.turn library session) := by
  have taken := takeTurns.eq_1 library renderer session
  generalize renderer.turn library session = turned at taken
  rcases turned with ⟨turn, next, after⟩
  unfold Run.proceed
  dsimp only
  rw [taken]
  cases turn <;> rfl

theorem continued_chunk (text : String) (renderer : Renderer) (session : Session) :
    continued library answers (.chunk text, renderer, session)
      = (continued library answers (.proceed, renderer, session)).map
          (Transcript.after · [text]) := by
  unfold continued
  exact congrArg (Option.map _) (Run.transcript_eq_transcribed library answers _ _ session)

theorem continued_answering (turned : Turned) :
    continued library answers (answering library answers turned)
      = continued library answers turned := by
  rcases turned with ⟨turn, renderer, session⟩
  cases turn with
  | wait wait =>
      exact (Run.transcript_eq_transcribed library answers (answers wait session).1
        ⟨renderer, .atWait wait⟩ (answers wait session).2).symm
  | _ => rfl

theorem continued_proceed (renderer : Renderer) (session : Session) :
    continued library answers (.proceed, renderer, session)
      = continued library answers (answering library answers (renderer.turn library session)) := by
  rw [continued_answering]
  exact congrArg (Run.transcribed library answers) (proceed_turn library renderer session)

theorem continued_ofText (text : String) (renderer : Renderer) (session : Session) :
    continued library answers (.ofText text, renderer, session)
      = (continued library answers (.proceed, renderer, session)).map
          (Transcript.after · (piecesOf text)) := by
  unfold Turn.ofText piecesOf
  by_cases empty : text.isEmpty
  · rw [if_pos empty, if_pos empty]
    exact Option.map_id'.symm
  · rw [if_neg empty, if_neg empty]
    exact continued_chunk library answers text renderer session

/-- A failure closes the frames that are still live. -/
theorem continued_failed (failure : Failure) (renderer : Renderer) (session : Session) :
    continued library answers (.failed failure, renderer, session) =
      let closed := session.closeFrames library renderer.context renderer.frames
      some ⟨[], some (closed.1.getD failure), closed.2.2⟩ := rfl

theorem continued_of_empty (empty : renderer.frames = []) (session : Session) :
    continued library answers (.proceed, renderer, session) = some ⟨[], none, session⟩ := by
  rw [continued_proceed, turn_of_empty library empty]
  rfl

theorem continued_writing_of_empty (empty : renderer.frames = []) (text : Except Fault String)
    (session : Session) :
    continued library answers (renderer.writing text session) = some (match text with
      | .ok text => ⟨piecesOf text, none, session⟩
      | .error fault => ⟨[], some (.fault fault), session⟩) := by
  cases text with
  | ok text =>
      refine (continued_ofText library answers text renderer session).trans ?_
      rw [continued_of_empty library answers empty]
      simp [Transcript.after]
  | error fault =>
      refine (continued_failed library answers (.fault fault) renderer session).trans ?_
      rw [empty]
      rfl

/-! ## The end -/

/-- A turn that the next one follows without a pause. -/
def Proceeds (library : Library) (next before : Renderer × Session) : Prop :=
  before.1.turn library before.2 = (.proceed, next)

/-- An event loop that cancels whatever is waited for. -/
def cancelling : LoopAnswers := fun _ session => (.error (.raised .cancelled none), session)

theorem isFaithful_cancelling : cancelling.IsFaithful where
  progresses _ session := .refl session
  descends _ _ _ _ equal := nomatch equal

theorem acc_proceeds (ready : AreReady renderer.frames) (session : Session) :
    Acc (Proceeds library) (renderer, session) := by
  refine Subrelation.accessible ?_ (acc_leadsTo library isFaithful_cancelling ready session)
  intro next before proceeds
  exact leadsTo_of_turn library proceeds trivial

/-- A render ends that goes on after a turn. -/
def EndsFrom (turned : Turned) : Prop :=
  turned.1.GoesOn → AreReady turned.2.1.frames → Acc (LeadsTo library answers) turned.2

/-- A render ends that is resumed where its run has paused. -/
def EndsResumed (reply : Reply) (run : Run) (session : Session) : Prop :=
  match run.position, reply with
  | .atChunk, .ok _ => EndsFrom library answers (.proceed, run.renderer, session)
  | .atWait wait, reply =>
      EndsFrom library answers (run.renderer.afterWait library wait reply session)
  | _, _ => True

/-- A render ends that is resumed after a step of its run. -/
def EndsAfterStep : Stepped → Prop
  | (.chunk _, run, session) => EndsResumed library answers (.ok .null) run session
  | (.wait wait, run, session) =>
      EndsResumed library answers (answers wait session).1 run (answers wait session).2
  | _ => True

variable {answers}

/-- Between two pauses there are only so many turns. -/
theorem acc_of_endsAfterStep (ready : AreReady renderer.frames) (session : Session)
    (ends : EndsAfterStep library answers (Run.proceed library (.proceed, renderer, session))) :
    Acc (LeadsTo library answers) (renderer, session) := by
  have proceeds := acc_proceeds library ready session
  generalize position : (renderer, session) = before at proceeds
  induction proceeds generalizing renderer session with
  | intro _ _ induction =>
      subst position
      refine Acc.intro _ fun next leads => ?_
      have nextReady := leads.areReady library ready
      rcases leads with ⟨goesOn, rfl⟩
      rw [proceed_turn] at ends
      generalize turned : renderer.turn library session = after at goesOn nextReady ends ⊢
      rcases after with ⟨turn, next, after⟩
      cases turn with
      | proceed => exact induction (next, after) turned nextReady after ends rfl
      | chunk text => exact ends trivial nextReady
      | wait wait => exact ends goesOn nextReady
      | finished | failed => exact goesOn.elim

theorem endsFrom_of_endsAfterStep (turned : Turned)
    (ends : EndsAfterStep library answers (Run.proceed library turned)) :
    EndsFrom library answers turned := by
  rcases turned with ⟨turn, renderer, session⟩
  intro goesOn ready
  cases turn with
  | proceed => exact acc_of_endsAfterStep library ready session ends
  | chunk text => exact ends trivial ready
  | wait | finished | failed => exact goesOn.elim

theorem endsResumed_of_transcript {reply : Reply} {run : Run} {session : Session}
    {transcript : Transcript} (given : run.transcript library answers reply session = some transcript) :
    EndsResumed library answers reply run session := by
  refine Run.transcript.partial_correctness library answers
    (fun reply run session _ => EndsResumed library answers reply run session) ?_ _ _ _ _ given
  intro resumed induction reply run session transcript equal
  have ends : EndsAfterStep library answers (run.resume library reply session) := by
    generalize run.resume library reply session = stepped at equal
    rcases stepped with ⟨step, run, session⟩
    cases step with
    | chunk text =>
        rcases Option.bind_eq_some_iff.mp equal with ⟨rest, found, _⟩
        exact induction _ _ _ _ found
    | wait wait => exact induction _ _ _ _ equal
    | finished | failed => trivial
  rcases run with ⟨renderer, position⟩
  cases position with
  | unstarted root => trivial
  | atChunk =>
      cases reply with
      | ok answer => exact endsFrom_of_endsAfterStep library _ ends
      | error failure => trivial
  | atWait wait => exact endsFrom_of_endsAfterStep library _ ends
  | _ => trivial

/-- A render ends that has a transcript. -/
theorem acc_of_continued {session : Session} {transcript : Transcript}
    (ready : AreReady renderer.frames)
    (given : continued library answers (.proceed, renderer, session) = some transcript) :
    Acc (LeadsTo library answers) (renderer, session) := by
  have resumed := Run.transcript_eq_transcribed library answers (.ok .null) ⟨renderer, .atChunk⟩
    session
  exact endsResumed_of_transcript library (resumed.trans given) trivial ready

end Renderer
end HtmlStream
