import HtmlStream.Renderer.TextStream

/-!
Transcripts: everything that a run gives to whoever drives it to its end. A run that never ends has
none.
-/
namespace HtmlStream

/-- The pieces that a text is handed out as; empty text is none. -/
def piecesOf (text : String) : List String :=
  if text.isEmpty then [] else [text]

/-- The texts of a run in order, the failure that ended it if one did, and the session after it. -/
structure Transcript where
  texts : List String
  failure? : Option Failure
  session : Session

namespace Transcript

def after (transcript : Transcript) (texts : List String) : Transcript :=
  { transcript with texts := texts ++ transcript.texts }

end Transcript

/-- What the event loop answers to the waits of a run. -/
abbrev LoopAnswers := Wait → Session → Reply × Session

namespace Run

-- The calls below stand in tactic blocks so that the fixed points do not record source positions.

/-- Drive a run to its end, whose waits are answered. -/
def transcript (library : Library) (answers : LoopAnswers) (reply : Reply) (run : Run)
    (session : Session) : Option Transcript :=
  match run.resume library reply session with
  | (.chunk text, run, session) => do
      let rest ← (by exact transcript library answers : Reply → Run → Session → Option Transcript)
        (.ok .null) run session
      return rest.after [text]
  | (.wait wait, run, session) =>
      let (reply, session) := answers wait session
      (by exact transcript library answers : Reply → Run → Session → Option Transcript)
        reply run session
  | (.finished, _, session) => some ⟨[], none, session⟩
  | (.failed failure, _, session) => some ⟨[], some failure, session⟩
partial_fixpoint

/-- Drive a run to its end without an event loop. -/
def streamed (library : Library) (run : Run) (session : Session) : Option Transcript :=
  match run.nextTextSync library session with
  | (.chunk text, run, session) => do
      let rest ← (by exact streamed library : Run → Session → Option Transcript) run session
      return rest.after [text]
  | (.finished, _, session) | (.waiting _, _, session) => some ⟨[], none, session⟩
  | (.failed failure, _, session) => some ⟨[], some failure, session⟩
partial_fixpoint

end Run
end HtmlStream
