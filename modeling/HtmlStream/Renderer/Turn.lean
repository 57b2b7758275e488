import HtmlStream.Element.Effects
import HtmlStream.Renderer.Basic

/-!
Turns: the renderer advances the innermost frame once and acts on what it came to. Effects that
stand for text are written, elements and bodies become frames, tokens are resolved; what a frame
ends with answers the frame around it.
-/
namespace HtmlStream

/-- What a renderer cannot do itself, because it may take the event loop. -/
inductive Wait where
  /-- Advance an async generator to its next effect. -/
  | step (generator : RoutineReference) (answer : Value)
  /-- Wait for what a coroutine waits for. -/
  | settle (pending : Pending)

inductive Turn where
  | proceed
  | chunk (text : String)
  | wait (wait : Wait)
  | finished
  | failed (failure : Failure)
  deriving Inhabited

namespace Turn

/-- Text for the page; empty text is no chunk. -/
def ofText (text : String) : Turn :=
  if text.isEmpty then .proceed else .chunk text

end Turn

abbrev Turned := Turn × Renderer × Session

/-- Note that a provider's factory is asked for what a token stands for. -/
def Session.noteRequest (session : Session) (token : Token) (provider : Provider) : Session :=
  session.diagnose .renderer
    ("Resolving " ++ token.label ++ " with " ++ provider.kind.name ++ " provider "
      ++ provider.source.describe)

namespace Renderer

/-- Put a frame on the stack. Beyond the largest depth the frame is closed at once, and a failure
of closing it counts. -/
def push (library : Library) (frame : Frame) (renderer : Renderer) (session : Session) : Turned :=
  if renderer.settings.maxDepth ≤ renderer.frames.length then
    match session.closeFrame library frame with
    | (some failure, session) => (.failed failure, renderer, session)
    | (none, session) =>
        (.failed (.engine (.depthExceeded renderer.settings.maxDepth none
          (renderer.labels session))), renderer, session)
  else
    (.proceed, { renderer with frames := frame :: renderer.frames },
      session.enterFrame renderer.context frame)

def frameOf? (value : Value) (session : Session) : Option (Frame × Session) :=
  match value with
  | .element identity type attributes children =>
      let node : Element := ⟨identity, type, attributes, children⟩
      let (routine, session) := session.addRoutine .generator "element" node.body
      some (.of routine none, session)
  | .routine routine => some (.of routine none, session)
  | _ => none

def answer (value : Value) (renderer : Renderer) : Renderer :=
  match renderer.frames with
  | frame :: outer => { renderer with frames := { frame with answer := value } :: outer }
  | [] => renderer

/-- Raise a failure in the innermost frame when it is advanced next. -/
def interrupt (failure : Failure) (renderer : Renderer) : Renderer :=
  match renderer.frames with
  | frame :: outer =>
      { renderer with frames := { frame with failure? := some failure } :: outer }
  | [] => renderer

/-- The turn that writes a text, or fails because it cannot be written. -/
def writing (text : Except Fault String) (renderer : Renderer) (session : Session) : Turned :=
  match text with
  | .ok text => (.ofText text, renderer, session)
  | .error fault => (.failed (.fault fault), renderer, session)

def writeText (value : Value) (renderer : Renderer) (session : Session) : Turned :=
  renderer.writing (Serializer.text renderer.settings.autoescape value) session

def writeStyle (style : Style) (renderer : Renderer) (session : Session) : Turned :=
  match Serializer.styleBlock renderer.styles style with
  | (some block, styles) =>
      (.ofText block, { renderer with styles }, session.countStyle renderer.context)
  | (none, styles) => (.proceed, { renderer with styles }, session)

/-- Run a provider's factory for a token in a frame of its own. -/
def runProvider (library : Library) (token : Token) (provider : Provider) (renderer : Renderer)
    (session : Session) : Turned :=
  let session := session.noteRequest token provider
  match session.call library (Session.resume library) provider.source [] with
  | (.error failure, session) => (.failed failure, renderer, session)
  | (.ok result, session) =>
      match result with
      | .routine routine => renderer.push library (.of routine (some token)) session
      | _ => (.failed (.engine (.invalidComponent provider.source result)), renderer, session)

/-- Resolve a token for the innermost frame: a value answers it at once, a factory is run. -/
def resolve (library : Library) (token : Token) (renderer : Renderer) (session : Session) :
    Turned :=
  match renderer.providers.get? token with
  | none =>
      (.failed (.engine (.missingContext (.token token)
        (renderer.labels session ++ [token.label]))), renderer, session)
  | some provider =>
      match provider.kind with
      | .value => (.proceed, renderer.answer provider.source, session)
      | .sync | .async =>
          if renderer.isProviding token then
            (.failed (.engine (.contextCycle (.token token) (renderer.labels session))),
              renderer, session)
          else renderer.runProvider library token provider session

/-- The failure of an effect that stands for nothing. The effect is shown in it, so one that cannot
be written fails by that. -/
def unsupportedEffect (producer : RoutineReference) (effect : Value) (renderer : Renderer)
    (session : Session) : Failure :=
  if effect.isWritable then
    .engine (.runtime (.unsupportedEffect (Value.routine producer).describe effect)
      (renderer.labels session))
  else .fault .integerTooLong

/-- Act on an effect of the body that `producer` refers to. -/
def handle (library : Library) (producer : RoutineReference) (effect : Value)
    (renderer : Renderer) (session : Session) : Turned :=
  match effect with
  | .token token => renderer.resolve library token session
  | .style style => renderer.writeStyle style session
  | .marker .opening type attributes _ =>
      if type.isText then
        renderer.writing (Serializer.openingTag renderer.settings.autoescape ⟨type, attributes⟩)
          session
      else (.proceed, renderer, session)
  | .marker .closing type attributes _ =>
      if type.isText then renderer.writing (Serializer.closingTag ⟨type, attributes⟩) session
      else (.proceed, renderer, session)
  | .null => (.proceed, renderer, session)
  | .text _ | .markup _ | .integer _ | .float _ | .notANumber _ =>
      renderer.writeText effect session
  | other =>
      match frameOf? other session with
      | some (frame, session) => renderer.push library frame session
      | none =>
          (.failed (renderer.unsupportedEffect producer other session), renderer, session)

/-- Hand on the result of a frame that has ended: it answers the frame around it, or is written as
the end of the page. -/
def deliver (result : Value) (renderer : Renderer) (session : Session) : Turned :=
  match renderer.frames with
  | _ :: _ => (.proceed, renderer.answer result, session)
  | [] =>
      renderer.writing (Serializer.resultText renderer.settings.autoescape result) session

def finish (result : Value) (renderer : Renderer) (session : Session) : Turned :=
  match renderer.frames with
  | [] => (.finished, renderer, session)
  | frame :: outer =>
      { renderer with frames := outer }.deliver result (session.leaveFrame renderer.context frame)

/-- What the failure of a body comes to: the signal for the end of an async iteration is an end,
every other failure fails the render. -/
def finishFailing (failure : Failure) (renderer : Renderer) (session : Session) : Turned :=
  match failure with
  | .raised .endOfAsyncIteration _ => renderer.finish .null session
  | _ => (.failed failure, renderer, session)

/-- Act on what the body that `producer` refers to waits for. A token is resolved; everything else
a coroutine hands on to the event loop. Other bodies cannot wait. -/
def handleWait (library : Library) (producer : RoutineReference) (pending : Pending)
    (renderer : Renderer) (session : Session) : Turned :=
  match pending with
  | .value (.token token) => renderer.resolve library token session
  | pending =>
      if producer.kind = .coroutine then (.wait (.settle pending), renderer, session)
      else (.failed (.fault .coroutineInGenerator), renderer, session)

/-- Act on what advancing the body that `producer` refers to came to. -/
def react (library : Library) (producer : RoutineReference) (progress : Progress)
    (renderer : Renderer) (session : Session) : Turned :=
  match progress with
  | .produced effect => renderer.handle library producer effect session
  | .waiting pending => renderer.handleWait library producer pending session
  | .returned result => renderer.finish result session
  | .raised failure => renderer.finishFailing failure session

def turn (library : Library) (renderer : Renderer) (session : Session) : Turned :=
  match renderer.frames with
  | [] => (.finished, renderer, session)
  | frame :: outer =>
      let renderer := { renderer with frames := frame.delivered :: outer }
      let session := session.withLiveFrames renderer.frames.length
      if frame.isAsyncGenerator then
        (.wait (.step frame.routine frame.answer), renderer, session)
      else
        let (progress, session) :=
          Session.resume library frame.routine.index frame.reply session
        renderer.react library frame.routine progress session

/-- Act on what was waited for. The next effect of an async generator is acted on, or its end. A
coroutine reads for itself what it waited for, which fails if that is not over; it only receives its
cancellation. -/
def afterWait (library : Library) (wait : Wait) (reply : Reply) (renderer : Renderer)
    (session : Session) : Turned :=
  match wait, reply with
  | .step generator _, .ok effect => renderer.handle library generator effect session
  | .step _ _, .error failure => renderer.finishFailing failure session
  | .settle pending, .ok _ =>
      let renderer :=
        if session.isOver pending then renderer else renderer.interrupt (.fault .waitNotOver)
      (.proceed, renderer, session)
  | .settle _, .error (.raised .cancelled message) =>
      (.proceed, renderer.interrupt (.raised .cancelled message), session)
  | .settle _, .error failure => (.failed failure, renderer, session)

end Renderer
end HtmlStream
