import HtmlStream.Renderer.Run
import HtmlStream.EventLoop.Await

/-!
Text streams: a run that is driven to its next piece of text, with an event loop or without one.
Without one, whatever would have to wait fails the render. With one, a run that waits says so, and
its consumer lets the loop run; nothing here runs the loop itself.
-/
namespace HtmlStream

inductive RenderMode where
  | sync
  | async
  deriving DecidableEq

abbrev TextDelivered := Delivery String × Run × Session

/-- What an async generator signals when it has ended. -/
def endOfAsyncIteration : Failure := .raised .endOfAsyncIteration none

/-- How far a wait of a run got: it is over, or the event loop has to run. -/
inductive WaitProgress where
  | over (reply : Reply)
  | pending (wait : LoopWait)

namespace Session

/-! ## The waits of a run -/

/-- Advance an async generator. What it waits for, the run waits for. -/
def stepAsyncGenerator (library : Library) (index : Nat) (reply : Reply) (session : Session) :
    WaitProgress × Session :=
  match resume library index reply session with
  | (.produced effect, session) => (.over (.ok effect), session)
  | (.waiting pending, session) => (.pending ⟨pending, false⟩, session)
  | (.returned _, session) => (.over (.error endOfAsyncIteration), session)
  | (.raised failure, session) => (.over (.error failure), session)

/-- The failure of a body that waits for a value. The value is shown in it, so one that cannot be
written fails by that. -/
def unknownWait (value : Value) : Failure :=
  if value.isWritable then .engine (.runtime (.unknownWait value) []) else .fault .integerTooLong

/-- Begin to wait for what a run waits for. An async generator is advanced, unless somebody else
waits in it. What a coroutine waits for, the run waits beside. -/
def beginRunWait (library : Library) (wait : Wait) (session : Session) : WaitProgress × Session :=
  match wait with
  | .step generator answer =>
      if session.isWaiting generator.index then
        (.over (.error (.fault (.alreadyRunning generator.kind))), session)
      else session.stepAsyncGenerator library generator.index (.ok answer)
  | .settle (.value .null) => (.pending ⟨.value .null, false⟩, session)
  | .settle (.value value) => (.over (.error (unknownWait value)), session)
  | .settle pending => (.pending ⟨pending, true⟩, session)

/-- Go on waiting with what the event loop answered: an async generator goes on with it; a failure,
which can only be a cancellation, also cancels what is waited for beside the run. -/
def continueRunWait (library : Library) (wait : Wait) (reply : Reply) (session : Session) :
    WaitProgress × Session :=
  match wait, reply with
  | .step generator _, reply => session.stepAsyncGenerator library generator.index reply
  | .settle _, .ok answer => (.over (.ok answer), session)
  | .settle pending, .error failure => (.over (.error failure), session.cancelPending pending)

end Session

namespace Run

/-- Refuse to wait. The context stack is that of the moment, before the frames are closed. -/
def refuseWait (library : Library) (run : Run) (session : Session) : TextDelivered :=
  let refusal := Failure.engine (.runtime .waitInSyncRender (run.renderer.labels session))
  let (closing, run, session) := run.close library session
  (.failed (closing.getD refusal), run, session)

/-- Drive a run to its next text without an event loop. -/
def nextTextSync (library : Library) (run : Run) (session : Session) : TextDelivered :=
  match run.resume library (.ok .null) session with
  | (.chunk text, run, session) => (.chunk text, run, session)
  | (.finished, run, session) => (.finished, run, session)
  | (.failed failure, run, session) => (.failed failure, run, session)
  | (.wait _, run, session) => refuseWait library run session

/-- Drive a run with an answer to its next text, or until the event loop has to run. -/
def nextTextAsync (library : Library) (reply : Reply) (run : Run) (session : Session) :
    TextDelivered :=
  match run.resume library reply session with
  | (.chunk text, run, session) => (.chunk text, run, session)
  | (.finished, run, session) => (.finished, run, session)
  | (.failed failure, run, session) => (.failed failure, run, session)
  | (.wait wait, run, session) =>
      match session.beginRunWait library wait with
      -- The call stands in a tactic block so that the fixed point does not record its source position.
      | (.over reply, session) =>
          (by exact nextTextAsync library : Reply → Run → Session → TextDelivered)
            reply run session
      | (.pending wait, session) => (.waiting wait, run, session)
partial_fixpoint

/-- A failure as it leaves an async stream, which signals its own end by a failure and so must not
raise that one. -/
def leavingAsync : Failure → Failure
  | .raised .endOfAsyncIteration _ => .fault .endOfIterationEscaped
  | failure => failure

/-- A failure as it leaves a stream. -/
def leaving (mode : RenderMode) (failure : Failure) : Failure :=
  match mode with
  | .sync => failure
  | .async => leavingAsync failure

/-- What is delivered as it leaves a stream. -/
def leavingWith (mode : RenderMode) : TextDelivered → TextDelivered
  | (.failed failure, run, session) => (.failed (leaving mode failure), run, session)
  | delivered => delivered

/-- Drive a run to its next text, or until the event loop has to run. A run that waits for the loop
goes on with its answer. -/
def nextText (library : Library) (mode : RenderMode) (reply : Reply) (run : Run)
    (session : Session) : TextDelivered :=
  leavingWith mode <| match mode, run.position with
    | .sync, _ => run.nextTextSync library session
    | .async, .atWait wait =>
        match session.continueRunWait library wait reply with
        | (.over reply, session) => nextTextAsync library reply run session
        | (.pending wait, session) => (.waiting wait, run, session)
    | .async, _ => nextTextAsync library reply run session

def closeText (library : Library) (mode : RenderMode) (run : Run) (session : Session) :
    Option Failure × Run × Session :=
  let (failure?, run, session) := run.close library session
  (failure?.map (leaving mode), run, session)

end Run
end HtmlStream
