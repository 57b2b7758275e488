import HtmlStream.Renderer.Turn

/-!
Runs: one render from its root to its end, advanced by whoever drives it. A run hands out text and
what it waits for; a wait is answered with what was waited for. However a run ends, the frames that
are still live are closed.
-/
namespace HtmlStream

inductive RunStep where
  | chunk (text : String)
  | wait (wait : Wait)
  | finished
  | failed (failure : Failure)

inductive RunPosition where
  | unstarted (root : Value)
  | atChunk
  | atWait (wait : Wait)
  | over

structure Run where
  renderer : Renderer
  position : RunPosition

namespace Renderer

/-- Take turns until one comes to more than going on. -/
def takeTurns (library : Library) (renderer : Renderer) (session : Session) : Turned :=
  match renderer.turn library session with
  -- The call stands in a tactic block so that the fixed point does not record its source position.
  | (.proceed, renderer, session) =>
      (by exact takeTurns library : Renderer → Session → Turned) renderer session
  | turned => turned
partial_fixpoint

end Renderer

abbrev Stepped := RunStep × Run × Session

namespace Run

def start (renderer : Renderer) (root : Value) : Run := ⟨renderer, .unstarted root⟩

/-- Close the frames of a run; it is over then. -/
def closeFrames (library : Library) (renderer : Renderer) (session : Session) :
    Option Failure × Run × Session :=
  let (failure?, frames, session) :=
    session.closeFrames library renderer.context renderer.frames
  (failure?, ⟨{ renderer with frames }, .over⟩, session)

/-- End a run with a failure. A failure of closing the frames takes its place. -/
def abort (library : Library) (failure : Failure) (renderer : Renderer) (session : Session) :
    Stepped :=
  let (closing, run, session) := closeFrames library renderer session
  (.failed (closing.getD failure), run, session)

def proceed (library : Library) : Turned → Stepped
  | (turn, renderer, session) =>
      let (turn, renderer, session) := match turn with
        | .proceed => renderer.takeTurns library session
        | _ => (turn, renderer, session)
      match turn with
      | .proceed | .finished => (.finished, ⟨renderer, .over⟩, session)
      | .chunk text => (.chunk text, ⟨renderer, .atChunk⟩, session)
      | .wait wait => (.wait wait, ⟨renderer, .atWait wait⟩, session)
      | .failed failure => abort library failure renderer session

/-- Begin with the root, which has to be something that can be driven. -/
def begin (library : Library) (root : Value) (renderer : Renderer) (session : Session) : Stepped :=
  match Renderer.frameOf? root session with
  | some (frame, session) => proceed library (renderer.push library frame session)
  | none => (.failed (.engine (.invalidComponent root root)), ⟨renderer, .over⟩, session)

/-- Advance a run with an answer, or with a failure that is raised in it. -/
def resume (library : Library) (reply : Reply) (run : Run) (session : Session) : Stepped :=
  match run.position, reply with
  | .unstarted root, .ok .null => begin library root run.renderer session
  | .unstarted _, .ok _ => (.failed (.fault (.answerBeforeStart .generator)), run, session)
  | .unstarted _, .error failure => (.failed failure, ⟨run.renderer, .over⟩, session)
  | .atChunk, .ok _ => proceed library (.proceed, run.renderer, session)
  | .atChunk, .error failure => abort library failure run.renderer session
  | .atWait wait, reply => proceed library (run.renderer.afterWait library wait reply session)
  | .over, .ok _ => (.finished, run, session)
  | .over, .error failure => (.failed failure, run, session)

def close (library : Library) (run : Run) (session : Session) : Option Failure × Run × Session :=
  closeFrames library run.renderer session

end Run
end HtmlStream
