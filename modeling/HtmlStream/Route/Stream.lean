import HtmlStream.Route.Basic
import HtmlStream.Route.Buffer

/-!
Byte streams: one render of a route, chunk by chunk. The render's context is current from the first
chunk that is asked for to the end of the stream, however it ends.
-/
namespace HtmlStream

structure Rendering where
  run : Run
  buffer : TextBuffer
  context : Nat
  outer : Option Nat

inductive StreamState where
  | unstarted
  | rendering (rendering : Rendering)
  | exhausted (context : Nat) (outer : Option Nat)
  | closed

structure ByteStream where
  route : Route
  mode : RenderMode
  state : StreamState

abbrev Bytes := List UInt8

abbrev BytesDelivered := Delivery Bytes × ByteStream × Session

namespace ByteStream

def ofRoute (route : Route) (mode : RenderMode) : ByteStream := ⟨route, mode, .unstarted⟩

def inState (stream : ByteStream) (state : StreamState) : ByteStream :=
  { stream with state }

/-- Leave the render context; the stream is closed then. -/
def leave (stream : ByteStream) (outer : Option Nat) (session : Session) :
    ByteStream × Session :=
  (stream.inState .closed, session.leaveContext outer)

/-- Fail. A failure that is meant to end its surroundings as well is not recorded. -/
def fail (stream : ByteStream) (outer : Option Nat) (failure : Failure) (session : Session) :
    BytesDelivered :=
  let session :=
    if failure.kind.isOrdinary then
      session.diagnose .route ("Render of route " ++ stream.route.name ++ " aborted: "
        ++ failure.kind.name)
    else session
  (.failed (Run.leaving stream.mode failure), stream.leave outer session)

def conclude (stream : ByteStream) (context : Nat) (outer : Option Nat) (session : Session) :
    BytesDelivered :=
  let count := ((session.context? context).map RenderContext.stylesEmitted).getD 0
  let session := session.diagnose .route
    ("Rendered route " ++ stream.route.name ++ " (" ++ toString count ++ " style blocks)")
  (.finished, stream.leave outer session)

def encode (stream : ByteStream) (text : String) : Except Failure Bytes :=
  (stream.route.settings.codec.encode text.toList).mapError fun fault => .fault (.encode fault)

/-- Fail while frames may be live. With an event loop they are closed first, and a failure of
closing them counts; without one they are closed once the failure has been handed on. -/
def failRendering (library : Library) (stream : ByteStream) (rendering : Rendering)
    (failure : Failure) (session : Session) : BytesDelivered :=
  match stream.mode with
  | .sync =>
      let (delivery, stream, session) := stream.fail rendering.outer failure session
      let (_, _, session) := rendering.run.closeText library .sync session
      (delivery, stream, session)
  | .async =>
      let (closing, _, session) := rendering.run.closeText library .async session
      stream.fail rendering.outer (closing.getD failure) session

def release (library : Library) (stream : ByteStream) (rendering : Rendering) (text : String)
    (session : Session) : BytesDelivered :=
  match stream.encode text with
  | .ok bytes => (.chunk bytes, stream.inState (.rendering rendering), session)
  | .error failure => stream.failRendering library rendering failure session

/-- The run has ended: hand out what is still pending, or end. -/
def drain (stream : ByteStream) (rendering : Rendering) (session : Session) : BytesDelivered :=
  match rendering.buffer.remainder? with
  | none => stream.conclude rendering.context rendering.outer session
  | some text =>
      match stream.encode text with
      | .ok bytes =>
          (.chunk bytes, stream.inState (.exhausted rendering.context rendering.outer), session)
      | .error failure => stream.fail rendering.outer failure session

/-- Drive a render with an answer until its buffer releases text or the event loop has to run. -/
def gather (library : Library) (stream : ByteStream) (reply : Reply) (rendering : Rendering)
    (session : Session) : BytesDelivered :=
  match rendering.run.nextText library stream.mode reply session with
  | (.chunk text, run, session) =>
      match rendering.buffer.accept text with
      | (some released, buffer) =>
          stream.release library { rendering with run, buffer } released session
      -- The call stands in a tactic block so that the fixed point does not record its source position.
      | (none, buffer) =>
          (by exact gather library stream : Reply → Rendering → Session → BytesDelivered)
            (.ok .null) { rendering with run, buffer } session
  | (.waiting wait, run, session) =>
      (.waiting wait, stream.inState (.rendering { rendering with run }), session)
  | (.finished, run, session) => stream.drain { rendering with run } session
  | (.failed failure, _, session) => stream.fail rendering.outer failure session
partial_fixpoint

/-- How a stream names its mode in its first record. -/
def modeRemark : RenderMode → String
  | .sync => ""
  | .async => " (async)"

/-- Enter a context, take the providers as they are, and get the route's root; the result is the
render that drives it. -/
def enter (library : Library) (stream : ByteStream) (session : Session) :
    Except Failure Rendering × Session :=
  let settings := stream.route.settings
  let ((context, outer), session) :=
    session.enterContext (some stream.route.name) settings.maxDepth none
  let renderer := Renderer.start session.registry settings context
  let session := session.diagnose .route
    ("Rendering route " ++ stream.route.name ++ modeRemark stream.mode)
  match stream.route.root library session with
  | (.error failure, session) => (.error failure, session)
  | (.ok root, session) =>
      (.ok ⟨.start renderer root, .empty settings.bufferSize, context, outer⟩, session)

def begin (library : Library) (stream : ByteStream) (session : Session) : BytesDelivered :=
  match stream.enter library session with
  | (.error failure, entered) => stream.fail session.current failure entered
  | (.ok rendering, entered) => stream.gather library (.ok .null) rendering entered

/-- The next chunk. Whoever had to wait for it asks again with what the event loop answered. -/
def next (library : Library) (reply : Reply) (stream : ByteStream) (session : Session) :
    BytesDelivered :=
  match stream.state with
  | .unstarted => stream.begin library session
  | .rendering rendering => stream.gather library reply rendering session
  | .exhausted context outer => stream.conclude context outer session
  | .closed => (.finished, stream, session)

/-- Close a stream before its end. Without an event loop, a failure of closing the frames is
dropped. -/
def close (library : Library) (stream : ByteStream) (session : Session) :
    Option Failure × ByteStream × Session :=
  match stream.state with
  | .unstarted | .closed => (none, stream.inState .closed, session)
  | .exhausted _ outer => (none, stream.leave outer session)
  | .rendering rendering =>
      match stream.mode, rendering.run.closeText library stream.mode session with
      | .async, (some failure, _, session) =>
          let (_, stream, session) := stream.fail rendering.outer failure session
          (some failure, stream, session)
      | _, (_, _, session) => (none, stream.leave rendering.outer session)

end ByteStream
end HtmlStream
