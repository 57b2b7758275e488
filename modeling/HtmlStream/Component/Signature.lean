import HtmlStream.Failure.Fault

/-!
Signatures of components: which names a component declares, and how arguments given by name are
bound to them.
-/
namespace HtmlStream

structure Parameter where
  name : String
  default : Option Value

/-- The parameters of a component. Arguments are always given by name, so a positional-only
parameter never gets one; `rest` takes the names that are not declared. -/
structure Signature where
  positionalOnly : List Parameter
  positional : List Parameter
  keywordOnly : List Parameter
  rest : Option String

abbrev Bindings := List (String × Value)

namespace Signature

def byName (signature : Signature) : List Parameter :=
  signature.positional ++ signature.keywordOnly

def declares (signature : Signature) (name : String) : Bool :=
  signature.byName.any fun parameter => parameter.name == name

/-- Whether an attribute reaches a component: undeclared ones are dropped, unless the component
takes the rest. -/
def accepts (signature : Signature) (key : Value) : Bool :=
  signature.rest.isSome || match key with
    | .text name | .markup name => signature.declares name
    | _ => false

/-- An argument given by name. The key keeps its own kind of text. -/
structure Argument where
  key : Value
  name : String
  value : Value

/-- The arguments with their names, if every key is a text. -/
def namedArguments : Entries → Except Fault (List Argument)
  | [] => .ok []
  | (key, value) :: rest =>
      match key with
      | .text name | .markup name => do return ⟨key, name, value⟩ :: (← namedArguments rest)
      | _ => .error .keywordNotText

/-- The value of a parameter: what was given for it, else its default. -/
def valueOf? (arguments : List Argument) (parameter : Parameter) : Option Value :=
  match arguments.find? fun argument => argument.name == parameter.name with
  | some argument => some argument.value
  | none => parameter.default

def missing (arguments : List Argument) (parameters : List Parameter) : List String :=
  (parameters.filter fun parameter => (valueOf? arguments parameter).isNone).map Parameter.name

def bound (arguments : List Argument) (parameters : List Parameter) : Bindings :=
  parameters.filterMap fun parameter =>
    (valueOf? arguments parameter).map fun value => (parameter.name, value)

def surplus (signature : Signature) (arguments : List Argument) : List Argument :=
  arguments.filter fun argument => !signature.declares argument.name

/-! ## Receivers

A component that is an object of its own receives itself as its first parameter, which stands
before the declared ones and is positional-only if the first of those is. -/

/-- The name under which a component finds itself. -/
def receiverName : String := "self"

/-- Whether the receiver could be given by name. -/
def namesReceiver (signature : Signature) (receiver : Option Value) : Bool :=
  receiver.isSome && signature.positionalOnly.isEmpty

def positionalOnlyNames (signature : Signature) (receiver : Option Value) : List String :=
  (if receiver.isSome && !signature.positionalOnly.isEmpty then [receiverName] else [])
    ++ signature.positionalOnly.map Parameter.name

/-- The first fault among the arguments: one for the receiver, which is there already, or one that
no parameter takes where nothing takes the rest. -/
def argumentFault? (signature : Signature) (component : String) (receiver : Option Value)
    (arguments : List Argument) : Option Fault :=
  arguments.findSome? fun argument =>
    if signature.namesReceiver receiver && argument.name == receiverName then
      some (.repeatedArgument component receiverName)
    else if signature.declares argument.name || signature.rest.isSome then none
    else
      let byPosition := (signature.positionalOnlyNames receiver).filter fun name =>
        arguments.any fun argument => argument.name == name
      if byPosition.isEmpty then some (.unexpectedArgument component argument.name)
      else some (.positionalOnlyByName component byPosition)

/-- Bind arguments to the parameters of `component`. Faults of the arguments are reported first,
then missing positional ones, then missing keyword-only ones. -/
def bind (signature : Signature) (component : String) (receiver : Option Value)
    (arguments : Entries) : Except Fault Bindings := do
  let arguments ← namedArguments arguments
  if let some fault := signature.argumentFault? component receiver arguments then throw fault
  let positional := missing [] signature.positionalOnly ++ missing arguments signature.positional
  if !positional.isEmpty then throw (.missingPositional component positional)
  let keywords := missing arguments signature.keywordOnly
  if !keywords.isEmpty then throw (.missingKeywordOnly component keywords)
  let itself := receiver.toList.map fun value => (receiverName, value)
  let rest := match signature.rest with
    | some name =>
        [(name, Value.mapping ((signature.surplus arguments).map fun argument =>
          (argument.key, argument.value)))]
    | none => []
  return itself ++ bound [] signature.positionalOnly ++ bound arguments signature.byName ++ rest

/-! ## Arguments by position

What is no component may also take arguments by position. -/

/-- The first fault among the arguments given by name beside some given by position. -/
def namedFault? (signature : Signature) (callee : String) (positions : Nat)
    (named : Bindings) : Option Fault :=
  let taken := (signature.positional.take positions).map Parameter.name
  named.findSome? fun (name, _) =>
    if taken.contains name then some (.repeatedArgument callee name)
    else if signature.declares name || signature.rest.isSome then none
    else some (.unexpectedArgument callee name)

/-- How many arguments by position there may be, and how many there have to be. -/
def positionRange (signature : Signature) : Nat × Nat :=
  let required := signature.positional.filter fun parameter => parameter.default.isNone
  (required.length, signature.positional.length)

/-- Bind arguments given by position, then arguments given by name. -/
def bindBoth (signature : Signature) (callee : String) (positional : List Value)
    (named : Bindings) : Except Fault Bindings := do
  if let some fault := signature.namedFault? callee positional.length named then throw fault
  let (least, most) := signature.positionRange
  if most < positional.length then
    let keywords := named.filter fun (name, _) =>
      signature.keywordOnly.any fun parameter => parameter.name == name
    throw (.tooManyPositional callee least most positional.length keywords.length)
  let names := signature.positional.map Parameter.name
  let arguments := names.zip positional ++ named
  signature.bind callee none (arguments.map fun (name, value) => (.text name, value))

end Signature
end HtmlStream
