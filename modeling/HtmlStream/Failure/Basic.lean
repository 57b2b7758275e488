import HtmlStream.Failure.Fault

/-!
Failures: what ends a body, a render or a reading of a template before its time.
-/
namespace HtmlStream

/-- Why the engine could not go on, apart from the causes that have their own constructor in
`EngineError`. -/
inductive RuntimeCause where
  /-- A child of an element that stands for nothing on a page. -/
  | unsupportedChild (child : Value)
  /-- A value that a body yielded and that stands for nothing on a page. -/
  | unsupportedEffect (producer : String) (effect : Value)
  /-- A body waits, but the render takes place without an event loop. -/
  | waitInSyncRender
  /-- A provider waits for something that no event loop knows. -/
  | unknownWait (pending : Value)
  | stated (code : Option ErrorCode) (message : String) (suggestion : Option String)

namespace RuntimeCause

def code : RuntimeCause → ErrorCode
  | .unsupportedChild _ | .unsupportedEffect .. | .unknownWait _ => .unsupportedEffect
  | .waitInSyncRender => .asyncInSyncRender
  | .stated code .. => code.getD .runtimeError

def text : RuntimeCause → String
  | .unsupportedChild child =>
      "Cannot render child of type " ++ child.typeName ++ ": " ++ child.inspect
  | .unsupportedEffect producer effect =>
      "Unsupported value yielded by " ++ producer ++ ": " ++ effect.inspect
  | .waitInSyncRender => "A component or provider awaits on the event loop"
  | .unknownWait pending =>
      "Async provider yielded " ++ pending.inspect ++ ", which is not an asyncio awaitable"
  | .stated _ message _ => message

def suggestion : RuntimeCause → Option String
  | .unsupportedChild _ =>
      some "Children must be text, numbers, elements, generators or lists of them"
  | .unsupportedEffect .. => some "Yield css fragments, text, elements or context tokens"
  | .waitInSyncRender => some "Use render_stream_async() instead of render_stream()"
  | .unknownWait _ => none
  | .stated _ _ suggestion => suggestion

end RuntimeCause

/-- Failures of the engine's own contracts. A context stack holds the labels of the tokens whose
providers were at work, outermost first. -/
inductive EngineError where
  | stated (message : String)
  | templateSyntax (text : String) (source : Option String) (line column : Option Int)
  | missingContext (context : Value) (contextStack : List String)
  | contextCycle (context : Value) (contextStack : List String)
  | invalidComponent (component result : Value)
  | runtime (cause : RuntimeCause) (contextStack : List String)
  | depthExceeded (limit : Int) (code : Option ErrorCode) (contextStack : List String)

inductive Failure where
  /-- Raised in a suspended body that is closed. -/
  | exit
  /-- Raised by a body in its own words. -/
  | raised (kind : FailureKind) (message : Option String)
  | fault (fault : Fault)
  | engine (error : EngineError)

namespace Failure

/-- What a waiting body receives when the wait is cancelled. -/
def cancellation : Failure := .raised .cancelled none

end Failure

namespace EngineError

def kind : EngineError → FailureKind
  | .stated _ => .engine
  | .templateSyntax .. => .templateSyntax
  | .missingContext .. => .missingContext
  | .contextCycle .. => .contextCycle
  | .invalidComponent .. => .invalidComponent
  | .runtime .. => .renderRuntime
  | .depthExceeded .. => .renderDepth

def code? : EngineError → Option ErrorCode
  | .stated _ => none
  | .templateSyntax .. => some .syntaxError
  | .missingContext .. => some .missingContext
  | .contextCycle .. => some .contextCycle
  | .invalidComponent .. => some .invalidComponent
  | .runtime cause _ => some cause.code
  | .depthExceeded _ code _ => some (code.getD .depthExceeded)

/-- The context stack, for the errors that have one. -/
def contextStack? : EngineError → Option (List String)
  | .missingContext _ stack | .contextCycle _ stack | .runtime _ stack
  | .depthExceeded _ _ stack => some stack
  | _ => none

/-- The message without decoration, for the errors that keep it apart. -/
def text? : EngineError → Option String
  | .templateSyntax text .. => some text
  | .runtime cause _ => some cause.text
  | .depthExceeded limit .. => some ("Maximum render depth exceeded (" ++ toString limit ++ ")")
  | _ => none

/-- What could be done about the error, for the errors that may say so. -/
def suggestion? : EngineError → Option (Option String)
  | .runtime cause _ => some cause.suggestion
  | .depthExceeded .. =>
      some (some "Check for components that render themselves unconditionally")
  | _ => none

end EngineError

namespace Failure

def kind : Failure → FailureKind
  | .exit => .exit
  | .raised kind _ => kind
  | .fault cause => cause.kind
  | .engine cause => cause.kind

/-- Whether a handler for failures called `name` takes this one. -/
def isHandledBy (failure : Failure) (name : String) : Bool :=
  failure.kind.lineage.any fun kind => kind.name == name

end Failure
end HtmlStream
