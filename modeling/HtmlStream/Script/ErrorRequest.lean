import HtmlStream.Component.Signature
import HtmlStream.Failure.Message
import HtmlStream.Script.Iteration

/-!
Errors of the engine that are asked for by name. Each kind takes its own arguments, by position or
by name, and refuses others.
-/
namespace HtmlStream.Script

structure ErrorRequest where
  kind : FailureKind
  positional : List Value
  named : Bindings

namespace ErrorRequest

/-! ## Parameters -/

def required (name : String) : Parameter := ⟨name, none⟩

def optional (name : String) : Parameter := ⟨name, some .null⟩

/-- What makes an error receives the error itself first. -/
def constructor (positional keywordOnly : List Parameter) (rest : Option String) : Signature :=
  ⟨[], required Signature.receiverName :: positional, keywordOnly, rest⟩

def runtimeConstructor : Signature :=
  constructor [required "message"] [optional "code", optional "suggestion", optional "context_stack"]
    none

/-- The parameters for an error of each kind; an error with nothing but a message has none. -/
def constructorOf? : FailureKind → Option Signature
  | .templateSyntax =>
      some (constructor [required "message", optional "source", optional "lineno",
        optional "col_offset"] [] none)
  | .missingContext =>
      some (constructor [required "context", optional "context_stack"] [] none)
  | .contextCycle => some (constructor [required "context", required "context_stack"] [] none)
  | .invalidComponent => some (constructor [required "component", optional "result"] [] none)
  | .renderRuntime => some runtimeConstructor
  | .renderDepth => some (constructor [required "max_depth"] [] (some "kwargs"))
  | _ => none

def constructorName (kind : FailureKind) : String :=
  kind.name ++ ".__init__"

/-! ## Arguments -/

def argument (bindings : Bindings) (name : String) : Value :=
  ((bindings.find? fun entry => entry.1 == name).map Prod.snd).getD .null

def textOf? : Value → Option String
  | .null => none
  | value => some value.toText

def codeOf? (value : Value) : Except Fault (Option ErrorCode) :=
  match value with
  | .null => .ok none
  | value =>
      match ErrorCode.ofIdentifier? value.toText with
      | some code => .ok (some code)
      | none => .error (.missingKey value)

/-- The labels of a context stack, which may be left out; `refuse` is the fault of what has no
items. -/
def labelsOf (refuse : String → Fault) (value : Value) : Except Fault (List String) :=
  if !value.truth then .ok []
  else match itemsOf? value with
    | some items => .ok (items.map Value.toText)
    | none => .error (refuse value.typeName)

/-- Labels that are put in one line, from the one at `position` on: each has to be a text. -/
def joinableLabels (position : Nat) : List Value → Except Fault (List String)
  | [] => .ok []
  | .text label :: rest | .markup label :: rest => do
      return label :: (← joinableLabels (position + 1) rest)
  | other :: _ => .error (.joinedNotText position other.typeName)

/-! ## Errors -/

/-- The error that has nothing but a message; several arguments make one message together. -/
def statedError (request : ErrorRequest) : Except Fault EngineError := do
  if !request.named.isEmpty then throw (.noKeywords request.kind.name)
  return .stated (match request.positional with
    | [] => ""
    | [only] => only.toText
    | several => (Value.tuple several).toText)

def runtimeError (bindings : Bindings) (message : String) : Except Fault EngineError := do
  let code ← codeOf? (argument bindings "code")
  return .runtime (.stated code message (textOf? (argument bindings "suggestion")))
    (← labelsOf .notIterable (argument bindings "context_stack"))

/-- The error of a render that is too deep says itself what could be done, and hands on the other
arguments. -/
def depthError (bindings : Bindings) : Except Fault EngineError := do
  let entries := ((argument bindings "kwargs").asMapping?).getD []
  let handedOn := entries.map fun (key, value) => (key.toText, value)
  let callee := constructorName .renderRuntime
  if handedOn.any fun entry => entry.1 == "suggestion" then
    throw (.repeatedKeyword ("weaver.exceptions." ++ callee) "suggestion")
  let bindings ← (runtimeConstructor.bindBoth callee [.null, .null] handedOn).map fun further =>
    further ++ bindings
  return .depthExceeded ((argument bindings "max_depth").integer?.getD 0)
    (← codeOf? (argument bindings "code")) (← labelsOf .notIterable (argument bindings "context_stack"))

def boundError (kind : FailureKind) (bindings : Bindings) : Except Fault EngineError := do
  let argument := argument bindings
  match kind with
  | .templateSyntax =>
      return .templateSyntax (argument "message").toText (textOf? (argument "source"))
        (argument "lineno").integer? (argument "col_offset").integer?
  | .missingContext =>
      return .missingContext (argument "context") (← labelsOf .noLength (argument "context_stack"))
  | .contextCycle =>
      match itemsOf? (argument "context_stack") with
      | some items => return .contextCycle (argument "context") (← joinableLabels 0 items)
      | none => throw (.spreadNotIterable (argument "context_stack").typeName)
  | .invalidComponent => return .invalidComponent (argument "component") (argument "result")
  | .renderDepth => depthError bindings
  | _ => runtimeError bindings (argument "message").toText

/-- Make the error. Its code is looked up before anything else, so that an unknown one is reported
for every kind. -/
def make (request : ErrorRequest) : Except Fault EngineError := do
  let _ ← codeOf? (argument request.named "code")
  match constructorOf? request.kind with
  | none => request.statedError
  | some signature =>
      let bindings ←
        signature.bindBoth (constructorName request.kind) (.null :: request.positional) request.named
      boundError request.kind bindings

end ErrorRequest
end HtmlStream.Script
