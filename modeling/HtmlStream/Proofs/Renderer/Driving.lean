import HtmlStream.Proofs.Renderer.Continuation
import HtmlStream.Proofs.Renderer.Course

/-!
A run as its consumer sees it. The consumer resumes the run, collects its texts and answers its waits;
every step that it gets this way is where a course of the render pauses. The main statement is
`exists_course_of_driven`.
-/
namespace HtmlStream

namespace Run

/-- How a consumer drives a run: the texts that it has been given, and the step it was given last.
Between two steps bodies may go on elsewhere, and a wait may be answered in any way. -/
inductive Driven (library : Library) (run : Run) (session : Session) :
    List String → Stepped → Prop
  | begun : Driven library run session [] (run.resume library (.ok .null) session)
  | afterChunk {texts : List String} {text : String} {next : Run} {paused later : Session}
      (driven : Driven library run session texts (.chunk text, next, paused))
      (evolves : paused.Evolves next.renderer.context later) (answer : Value) :
      Driven library run session (texts ++ [text]) (next.resume library (.ok answer) later)
  | afterWait {texts : List String} {wait : Wait} {next : Run} {paused later : Session}
      (driven : Driven library run session texts (.wait wait, next, paused))
      (evolves : paused.Evolves next.renderer.context later) (reply : Reply) :
      Driven library run session texts (next.resume library reply later)

end Run

namespace Renderer

/-! ## Turns without a pause -/

/-- Turns of frames above the outermost `depth` ones, without a pause. -/
inductive ProceedsTo (library : Library) (depth : Nat) : Turned → Turned → Prop
  | here (turned : Turned) : ProceedsTo library depth turned turned
  | turns {renderer : Renderer} {session : Session} {last : Turned}
      (nested : depth < renderer.frames.length)
      (rest : ProceedsTo library depth (renderer.turn library session) last) :
      ProceedsTo library depth (.proceed, renderer, session) last

namespace ProceedsTo

variable {library : Library} {depth : Nat} {first between last : Turned}

theorem trans (earlier : ProceedsTo library depth first between)
    (later : ProceedsTo library depth between last) : ProceedsTo library depth first last := by
  induction earlier with
  | here => exact later
  | turns nested _ induction => exact .turns nested (induction later)

theorem mono {deeper : Nat} (proceeds : ProceedsTo library deeper first last)
    (within : depth ≤ deeper) : ProceedsTo library depth first last := by
  induction proceeds with
  | here => exact .here _
  | turns nested _ induction => exact .turns (within.trans_lt nested) induction

/-- Where such turns come to an end is determined by where they begin. -/
theorem unique {other : Turned} (proceeds : ProceedsTo library depth first last)
    (alike : ProceedsTo library depth first other)
    (stops : last.1 = .proceed → last.2.1.frames.length ≤ depth)
    (stopsToo : other.1 = .proceed → other.2.1.frames.length ≤ depth) : last = other := by
  induction proceeds with
  | here =>
      cases alike with
      | here => rfl
      | turns nested _ => exact absurd (stops rfl) (Nat.not_le.mpr nested)
  | turns nested _ induction =>
      cases alike with
      | here => exact absurd (stopsToo rfl) (Nat.not_le.mpr nested)
      | turns _ rest => exact induction rest stops

theorem proceed_eq (proceeds : ProceedsTo library depth first last) :
    Run.proceed library first = Run.proceed library last := by
  induction proceeds with
  | here => rfl
  | turns _ _ induction => exact (proceed_turn library _ _).trans induction

end ProceedsTo

/-! ## Courses and steps -/

open Run

variable (library : Library) {start : Renderer} {labels texts : List String} {root : Value}
  {session : Session}

theorem begin_eq_proceed (empty : start.frames = []) :
    Run.begin library root start session
      = Run.proceed library (start.opening library root session) := by
  unfold Run.begin opening
  cases frameOf? root session with
  | some found => rfl
  | none =>
      unfold Run.proceed abort Run.closeFrames
      dsimp only
      rw [empty]
      simp only [Session.closeFrames, Option.getD_none, ← empty]

/-- A run gives what its first turn leads to. -/
theorem transcript_eq_continued (answers : LoopAnswers) (empty : start.frames = []) (root : Value)
    (session : Session) :
    (Run.start start root).transcript library answers (.ok .null) session
      = continued library answers (start.opening library root session) := by
  rw [transcript_eq_transcribed]
  exact congrArg (transcribed library answers) (begin_eq_proceed library empty)

/-- What a run gives after a turn it gives after the next one that is a pause. -/
theorem Course.exists_pause {first turned : Turned} (sound : IsSound start labels turned)
    (course : Course library first texts turned) :
    ∃ last, Course library first texts last ∧ last.1 ≠ .proceed ∧
      Run.proceed library turned = Run.proceed library last := by
  rcases turned with ⟨turn, renderer, session⟩
  by_cases goesOn : turn = .proceed
  · subst goesOn
    have proceeds := acc_proceeds library sound.ready session
    generalize position : (renderer, session) = before at proceeds
    induction proceeds generalizing renderer session with
    | intro _ _ induction =>
        subst position
        rw [proceed_turn]
        cases taken : renderer.turn library session with
        | mk turn next =>
            have later := course.turns
            have soundNext := sound.turn library
            rw [taken] at later soundNext
            by_cases goesOn : turn = .proceed
            · subst goesOn
              exact induction next taken next.1 next.2 soundNext later rfl
            · exact ⟨_, later, goesOn, rfl⟩
  · exact ⟨_, course, goesOn, rfl⟩

/-- Every step of a run that starts with no frames is where a course of its render pauses. -/
theorem exists_course_of_driven (empty : start.frames = [])
    (stacked : session.stack? start.context = some labels) {stepped : Stepped}
    (driven : Driven library (.start start root) session texts stepped) :
    ∃ last, Course library (start.opening library root session) texts last ∧
      last.1 ≠ .proceed ∧ stepped = Run.proceed library last := by
  have opened := isSound_opening library root empty stacked
  induction driven with
  | begun =>
      have begun : (Run.start start root).resume library (.ok .null) session
          = Run.proceed library (start.opening library root session) :=
        begin_eq_proceed library empty
      rw [begun]
      exact Course.exists_pause library opened .here
  | @afterChunk _ text next paused later _ evolves answer induction =>
      rcases induction with ⟨⟨turn, renderer, before⟩, course, pauses, stepped⟩
      cases turn with
      | chunk shown =>
          cases stepped
          have goesOn := course.handsOut evolves
          have sound := isSound_course library opened goesOn
          exact Course.exists_pause library sound goesOn
      | proceed => exact absurd rfl pauses
      | _ => cases stepped
  | @afterWait _ wait next paused later _ evolves reply induction =>
      rcases induction with ⟨⟨turn, renderer, before⟩, course, pauses, stepped⟩
      cases turn with
      | wait waited =>
          cases stepped
          have goesOn := course.isAnswered evolves reply
          have sound := isSound_course library opened goesOn
          exact Course.exists_pause library sound goesOn
      | proceed => exact absurd rfl pauses
      | _ => cases stepped

end Renderer
end HtmlStream
