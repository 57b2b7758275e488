import HtmlStream.Routine.Resume
import HtmlStream.Serializer

/-!
Renderers: the state of one render. Bodies that are being driven lie on a stack of frames of its
own, so how deep a page may nest is a setting and not a matter of recursion.
-/
namespace HtmlStream

/-- A body on the stack of a render. -/
structure Frame where
  routine : RoutineReference
  /-- What the body goes on with when it is advanced next. -/
  answer : Value
  /-- A failure to raise in the body instead. -/
  failure? : Option Failure
  /-- The token that the body provides a value for. -/
  token? : Option Token

namespace Frame

/-- A frame whose body has not been advanced by the renderer yet. -/
def of (routine : RoutineReference) (token? : Option Token) : Frame where
  routine
  answer := .null
  failure? := none
  token?

/-- What the body is advanced with. -/
def reply (frame : Frame) : Reply :=
  match frame.failure? with
  | some failure => .error failure
  | none => .ok frame.answer

/-- The frame once its reply has been delivered. -/
def delivered (frame : Frame) : Frame :=
  { frame with answer := .null, failure? := none }

/-- Async generators are advanced and closed by the event loop only. -/
def isAsyncGenerator (frame : Frame) : Bool :=
  frame.routine.kind == .asyncGenerator

end Frame

structure Renderer where
  /-- The providers as they were registered when the render began. -/
  providers : Registry
  settings : Settings
  context : Nat
  styles : StyleSet
  /-- The live frames, innermost first. -/
  frames : List Frame

namespace Renderer

def start (providers : Registry) (settings : Settings) (context : Nat) : Renderer where
  providers
  settings
  context
  styles := []
  frames := []

/-- The labels of the tokens that are being resolved, outermost first. -/
def labels (renderer : Renderer) (session : Session) : List String :=
  ((session.context? renderer.context).map RenderContext.contextStack).getD []

def isProviding (renderer : Renderer) (token : Token) : Bool :=
  renderer.frames.any fun frame => frame.token? == some token

end Renderer

namespace Session

def withLiveFrames (session : Session) (count : Nat) : Session :=
  { session with liveFrames := count }

/-- Note in a render context that a frame begins to provide its token. -/
def enterFrame (session : Session) (context : Nat) (frame : Frame) : Session :=
  match frame.token? with
  | some token => session.modifyContext context fun current =>
      { current with contextStack := current.contextStack ++ [token.label] }
  | none => session

/-- Note in a render context that a frame no longer provides its token. -/
def leaveFrame (session : Session) (context : Nat) (frame : Frame) : Session :=
  match frame.token? with
  | some _ => session.modifyContext context fun current =>
      { current with contextStack := current.contextStack.dropLast }
  | none => session

/-- Count a style block in a render context. -/
def countStyle (session : Session) (context : Nat) : Session :=
  session.modifyContext context fun current =>
    { current with stylesEmitted := current.stylesEmitted + 1 }

/-- Close the body of a frame, unless only the event loop can. -/
def closeFrame (library : Library) (frame : Frame) (session : Session) :
    Option Failure × Session :=
  if frame.isAsyncGenerator then (none, session)
  else session.closeRoutine library frame.routine.index

/-- Close frames, innermost first. A failure of closing one leaves the others as they are; the
frames that are left are the second result. -/
def closeFrames (library : Library) (context : Nat) :
    List Frame → Session → Option Failure × List Frame × Session
  | [], session => (none, [], session)
  | frame :: outer, session =>
      let session := (session.leaveFrame context frame).withLiveFrames outer.length
      match session.closeFrame library frame with
      | (none, session) => closeFrames library context outer session
      | (some failure, session) => (some failure, outer, session)

end Session
end HtmlStream
