import HtmlStream.Renderer.Transcript
import HtmlStream.Routine.Calm

/-!
Calm renders. A render is calm if nothing is raised in it, there is room for every frame, bodies are
advanced calmly, and no body is put on the stack that is at work already.
-/
namespace HtmlStream

namespace Session

/-- A body is at work that is on the stack, or that another one at work has handed over to. -/
inductive IsAtWork (session : Session) (frames : List Frame) : Nat → Prop
  | frame {frame : Frame} (member : frame ∈ frames) : IsAtWork session frames frame.routine.index
  | target {index target : Nat} {next : Reply → Routine} (working : IsAtWork session frames index)
      (found : session.routine? index = some ⟨.generator, .delegating target next⟩) :
      IsAtWork session frames target

/-- A body that can be put on the stack. -/
structure IsFree (session : Session) (frames : List Frame) (body : RoutineReference) : Prop where
  idle : ¬ session.IsAtWork frames body.index
  ready : session.IsReady body

/-- The renderer advances a body calmly, around which there are other frames. -/
def Calm (library : Library) (outer : List Frame) (body : RoutineReference) (answer : Value)
    (session : Session) : Prop :=
  (∃ object, session.routine? body.index = some object ∧ object.kind = body.kind) ∧
    calmWithin library callLimit true (session.IsAtWork outer) body.index (.ok answer) session

/-- The event loop answers a wait in the same way if bodies yield what they would hand over to. It
leaves alone what is at work around the body that waits. -/
def AnswersAlike (loop : Library → LoopAnswers) (library : Library) (wait : Wait)
    (outer : List Frame) (session : Session) : Prop :=
  ∀ twins other, Mirrors twins session other →
    (∀ index ∈ twins.map Twin.index, session.IsAtWork outer index) →
    (loop library.yielding wait other).1 = (loop library wait session).1 ∧
      Mirrors twins (loop library wait session).2 (loop library.yielding wait other).2

end Session

namespace Renderer

/-! ## Turns -/

/-- A token is resolved calmly: its factory is called calmly, and the body that it gives is free. -/
def ResolvesCalmly (library : Library) (renderer : Renderer) (token : Token) (session : Session) :
    Prop :=
  ∀ provider, renderer.providers.get? token = some provider → provider.kind ≠ .value →
    let noted := session.noteRequest token provider
    Session.CallsCalmly library (Session.calmWithin library callLimit)
        (session.IsAtWork renderer.frames) provider.source [] noted ∧
      ∀ body after, noted.call library (Session.resume library) provider.source []
        = (.ok (.routine body), after) → after.IsFree renderer.frames body

def GrantsCalmly (library : Library) (renderer : Renderer) (effect : Value) (session : Session) :
    Prop :=
  match effect with
  | .token token => renderer.ResolvesCalmly library token session
  | .routine body => session.IsFree renderer.frames body
  | _ => True

def ReactsCalmly (library : Library) (renderer : Renderer) : Progress × Session → Prop
  | (.produced effect, session) => renderer.GrantsCalmly library effect session
  | (.waiting (.value (.token token)), session) => renderer.ResolvesCalmly library token session
  | _ => True

/-- A turn is calm: nothing is raised in the innermost body, and it is advanced calmly. -/
def TurnsCalmly (library : Library) (renderer : Renderer) (session : Session) : Prop :=
  match renderer.frames with
  | [] => True
  | frame :: outer =>
      frame.failure? = none ∧ (frame.isAsyncGenerator = false →
        let session := session.withLiveFrames (outer.length + 1)
        session.Calm library outer frame.routine frame.answer ∧
          { renderer with frames := frame.delivered :: outer }.ReactsCalmly library
            (session.resume library frame.routine.index (.ok frame.answer)))

/-- What a wait was answered is acted on calmly. -/
def GoesOnCalmly (library : Library) (renderer : Renderer) (wait : Wait) :
    Reply × Session → Prop
  | (.ok effect, session) => match wait with
      | .step .. => renderer.GrantsCalmly library effect session
      | .settle _ => True
  | _ => True

/-! ## Whole renders -/

/-- From a turn on, a render comes calmly to its end. -/
inductive ComesCalmly (library : Library) (loop : Library → LoopAnswers) : Turned → Prop
  | turns {renderer : Renderer} {session : Session} (calm : renderer.TurnsCalmly library session)
      (rest : ComesCalmly library loop (renderer.turn library session)) :
      ComesCalmly library loop (.proceed, renderer, session)
  | handsOut {renderer : Renderer} {session : Session} {text : String}
      (rest : ComesCalmly library loop (.proceed, renderer, session)) :
      ComesCalmly library loop (.chunk text, renderer, session)
  | waits {renderer : Renderer} {session : Session} {wait : Wait}
      (alike : session.AnswersAlike loop library wait renderer.frames.tail)
      (calm : renderer.GoesOnCalmly library wait (loop library wait session))
      (rest : ComesCalmly library loop (renderer.afterWait library wait
        (loop library wait session).1 (loop library wait session).2)) :
      ComesCalmly library loop (.wait wait, renderer, session)
  | ends {renderer : Renderer} {session : Session} :
      ComesCalmly library loop (.finished, renderer, session)

/-- The render of a root is calm. -/
def IsCalm (library : Library) (loop : Library → LoopAnswers) (start : Renderer) (root : Value)
    (session : Session) : Prop :=
  ∃ frame opened, frameOf? root session = some (frame, opened) ∧
    opened.IsFree [] frame.routine ∧ ComesCalmly library loop (start.push library frame opened)

end Renderer
end HtmlStream
