/-!
The kinds of failures, as components can name them in a handler. A kind belongs to every kind in
its lineage, so a handler for a general kind also takes the special ones.
-/
namespace HtmlStream

inductive FailureKind where
  | any
  | ordinary
  | exit
  | cancelled
  | endOfAsyncIteration
  | arithmetic
  | zeroDivision
  | overflow
  | attribute
  | lookup
  | index
  | key
  | memory
  | undefinedName
  | runtime
  | recursion
  | type
  | value
  | unicode
  | unicodeEncode
  | engine
  | templateSyntax
  | missingContext
  | contextCycle
  | invalidComponent
  | renderRuntime
  | renderDepth
  deriving DecidableEq

namespace FailureKind

def name : FailureKind → String
  | .any => "BaseException"
  | .ordinary => "Exception"
  | .exit => "GeneratorExit"
  | .cancelled => "CancelledError"
  | .endOfAsyncIteration => "StopAsyncIteration"
  | .arithmetic => "ArithmeticError"
  | .zeroDivision => "ZeroDivisionError"
  | .overflow => "OverflowError"
  | .attribute => "AttributeError"
  | .lookup => "LookupError"
  | .index => "IndexError"
  | .key => "KeyError"
  | .memory => "MemoryError"
  | .undefinedName => "NameError"
  | .runtime => "RuntimeError"
  | .recursion => "RecursionError"
  | .type => "TypeError"
  | .value => "ValueError"
  | .unicode => "UnicodeError"
  | .unicodeEncode => "UnicodeEncodeError"
  | .engine => "WeaverError"
  | .templateSyntax => "TemplateSyntaxError"
  | .missingContext => "MissingContextError"
  | .contextCycle => "ContextCycleError"
  | .invalidComponent => "InvalidComponentError"
  | .renderRuntime => "RenderRuntimeError"
  | .renderDepth => "RenderDepthError"

/-- The kind and all more general ones, special before general. -/
def lineage (kind : FailureKind) : List FailureKind :=
  match kind with
  | .any => [.any]
  | .ordinary | .exit | .cancelled => [kind, .any]
  | .endOfAsyncIteration | .arithmetic | .attribute | .lookup | .memory | .undefinedName | .runtime
  | .type | .value | .engine => [kind, .ordinary, .any]
  | .zeroDivision | .overflow => [kind, .arithmetic, .ordinary, .any]
  | .index | .key => [kind, .lookup, .ordinary, .any]
  | .recursion => [kind, .runtime, .ordinary, .any]
  | .unicode => [kind, .value, .ordinary, .any]
  | .unicodeEncode => [kind, .unicode, .value, .ordinary, .any]
  | .templateSyntax | .missingContext | .contextCycle | .invalidComponent | .renderRuntime =>
      [kind, .engine, .ordinary, .any]
  | .renderDepth => [kind, .renderRuntime, .engine, .ordinary, .any]

/-- Whether failures of this kind end a render with a report: all but a close or a cancellation,
which somebody asked for. -/
def isOrdinary (kind : FailureKind) : Bool :=
  kind.lineage.contains .ordinary

def raisable : List FailureKind :=
  [.value, .key, .runtime, .lookup, .type, .zeroDivision, .endOfAsyncIteration, .cancelled]

def ofName? (name : String) : Option FailureKind :=
  raisable.find? fun kind => kind.name == name

def ofEngine : List FailureKind :=
  [.engine, .templateSyntax, .missingContext, .contextCycle, .invalidComponent, .renderRuntime,
    .renderDepth]

def ofEngineName? (name : String) : Option FailureKind :=
  ofEngine.find? fun kind => kind.name == name

end FailureKind

/-- The codes by which a failure of the engine can be looked up. -/
inductive ErrorCode where
  | missingContext
  | contextCycle
  | invalidComponent
  | runtimeError
  | depthExceeded
  | asyncInSyncRender
  | unsupportedEffect
  | syntaxError
  deriving DecidableEq

namespace ErrorCode

def all : List ErrorCode :=
  [.missingContext, .contextCycle, .invalidComponent, .runtimeError, .depthExceeded,
    .asyncInSyncRender, .unsupportedEffect, .syntaxError]

def identifier : ErrorCode → String
  | .missingContext => "MISSING_CONTEXT"
  | .contextCycle => "CONTEXT_CYCLE"
  | .invalidComponent => "INVALID_COMPONENT"
  | .runtimeError => "RUNTIME_ERROR"
  | .depthExceeded => "DEPTH_EXCEEDED"
  | .asyncInSyncRender => "ASYNC_IN_SYNC_RENDER"
  | .unsupportedEffect => "UNSUPPORTED_EFFECT"
  | .syntaxError => "SYNTAX_ERROR"

def text : ErrorCode → String
  | .missingContext => "W-CTX-001"
  | .contextCycle => "W-CTX-002"
  | .invalidComponent => "W-CMP-001"
  | .runtimeError => "W-RUN-001"
  | .depthExceeded => "W-RUN-002"
  | .asyncInSyncRender => "W-RUN-003"
  | .unsupportedEffect => "W-RUN-004"
  | .syntaxError => "W-TPL-001"

def category : ErrorCode → String
  | .missingContext | .contextCycle => "context"
  | .invalidComponent => "component"
  | .runtimeError | .depthExceeded | .asyncInSyncRender | .unsupportedEffect => "runtime"
  | .syntaxError => "template"

def ofIdentifier? (identifier : String) : Option ErrorCode :=
  all.find? fun code => code.identifier == identifier

end ErrorCode
end HtmlStream
