import HtmlStream.Context.Registry
import HtmlStream.Component.Signature
import HtmlStream.Script.Iteration

/-!
Expressions of scripted components. Evaluating one is a piece of work: it may make objects, call
components and read the render context, and it may fail.
-/
namespace HtmlStream.Script

mutual
inductive Expression where
  | constant (value : Value)
  | integerNumeral (text : String)
  | floatNumeral (text : String)
  | named (name : String)
  | list (items : List Expression)
  | tuple (items : List Expression)
  | mapping (entries : List (Expression × Expression))
  /-- The value inside `depth` lists of one item each. -/
  | nested (item : Expression) (depth : Nat)
  | repeated (text : String) (count : Int)
  | safe (content : String)
  | object (name : String)
  | newToken (name : Option String)
  | style (operand : TemplateExpression)
  | markup (operand : TemplateExpression)
  | element (type : Expression) (attributes : Option Expression) (children : List Expression)
  | marker (role : MarkerRole) (type : Expression) (attributes children : Option Expression)
  | call (callee : Expression) (arguments : List (String × Expression))
  | joined (parts : List Expression)
  | difference (left right : Expression)
  | equality (left right : Expression)
  | item (container key : Expression)
  | range (bound : Expression)
  | each (name : String) (items body : Expression)
  | contextField (field : ContextField)
  | metadata (key : String) (default : Option Expression)
  | provider (source : Expression)
  | settings (request : SettingsRequest)

inductive InterpolationExpression where
  | mk (value : Expression) (conversion specification : Value)

inductive TemplateExpression where
  | template (strings : List String) (interpolations : List InterpolationExpression)
  | other (operand : Expression)
end

/-- Whether an expression makes what it gives, so that nobody else holds it. -/
def Expression.isTemporary : Expression → Bool
  | .call .. => true
  | _ => false

/-- The names that a body has bound, last one first. -/
abbrev Scope := Bindings

namespace Scope

def assign (scope : Scope) (name : String) (value : Value) : Scope :=
  (name, value) :: scope.filter fun entry => entry.1 != name

def get? (scope : Scope) (name : String) : Option Value :=
  (scope.find? fun entry => entry.1 == name).map Prod.snd

end Scope

/-! ## Operations on values -/

/-- A mapping from entries; a key that cannot be one is reported. -/
def mappingOf (entries : Entries) : Except Fault Value := do
  let mut result : Entries := []
  for (key, value) in entries do
    if let some part := key.unhashablePart? then throw (.unhashable part.typeName)
    result := result.insert key value
  return .mapping result

/-- A number as a float; `none` for what is no number. Not every integer has a nearest float. -/
def asFloat (value : Value) : Except Fault (Option Float) :=
  match value.integer? with
  | none => .ok value.float?
  | some whole =>
      match Format.floatOfInteger? whole with
      | some nearest => .ok (some nearest)
      | none => .error .integerTooLarge

/-- The difference of two numbers: whole for integers, else a float. -/
def subtract (left right : Value) : Except Fault (Int ⊕ Float) :=
  match left.integer?, right.integer? with
  | some left, some right => .ok (.inl (left - right))
  | _, _ =>
      if (left.integer?.isSome || left.float?.isSome)
          && (right.integer?.isSome || right.float?.isSome) then do
        match ← asFloat left, ← asFloat right with
        | some left, some right => return .inr (left - right)
        | _, _ => throw (.unsupportedSubtraction left.typeName right.typeName)
      else .error (.unsupportedSubtraction left.typeName right.typeName)

def isPosition (value : Int) : Bool :=
  -0x8000000000000000 ≤ value && value < 0x8000000000000000

/-- The item at a position; negative positions count from the end. -/
def itemAt (typeName : String) (items : List Value) (key : Value) : Except Fault Value := do
  match key.integer? with
  | none => throw (.indexNotInteger typeName key.typeName)
  | some position =>
      if !isPosition position then throw (.indexTooLarge key.typeName)
      let position := if position < 0 then position + items.length else position
      if position < 0 then throw (.indexOutOfRange typeName)
      match items[position.toNat]? with
      | some item => return item
      | none => throw (.indexOutOfRange typeName)

def lookUp (container key : Value) : Except Fault Value :=
  match container.asMapping? with
  | some entries =>
      match key.unhashablePart? with
      | some part => .error (.unhashable part.typeName)
      | none =>
          match entries.get? key with
          | some value => .ok value
          | none => .error (.missingKey key)
  | none =>
      match container with
      | .list items => itemAt "list" items key
      | .tuple items => itemAt "tuple" items key
      | .text content | .markup content =>
          itemAt "str" (content.toList.map fun character => .text (String.singleton character))
            key
      | other => .error (.notSubscriptable other.typeName)

def largestSize : Int := 1 <<< 36

def rangeOf (bound : Value) : Except Fault Value := do
  match bound.integer? with
  | some bound =>
      if 0 < bound && !isPosition bound then throw .rangeTooLarge
      if largestSize < bound then throw .outOfMemory
      return .list ((List.range bound.toNat).map fun (index : Nat) => .integer index)
  | none => throw (.notAnInteger bound.typeName)

def nest (value : Value) : Nat → Value
  | 0 => value
  | depth + 1 => .list [nest value depth]

def repeatText (text : String) (count : Int) : Except Fault String := do
  if !isPosition count then throw .countTooLarge
  if 0 < count && !isPosition (count * text.length) then throw .repeatedTextTooLong
  if largestSize < count * text.length then throw .outOfMemory
  if text.isEmpty then return ""
  return String.join (List.replicate count.toNat text)

/-! ## Objects with an identity -/

/-- A float. One that is no number has an identity. -/
def makeFloat (number : Float) : Work Value := do
  if number.isNaN then return .notANumber (← Work.reserve 1) else return .float number

def makeDifference (left right : Value) : Work Value := do
  match ← Work.ofFault (subtract left right) with
  | .inl whole => return .integer whole
  | .inr number => makeFloat number

def makeToken (name : Option String) : Work Value := do
  return .token ⟨← Work.reserve 1, name⟩

def makeStyle (operand : TemplateOperand) : Work Value := do
  let content ← Work.ofFault (Template.styleContent operand)
  return .style ⟨← Work.reserve 1, content⟩

def makeMarkup (operand : TemplateOperand) : Work Value := do
  let markup ← Work.ofExcept (Template.readMarkup operand)
  let start ← Work.reserve (Template.identitiesNeeded markup.nodes)
  Work.ofExcept (markup.toElement start)

/-- The entry at a position among those of a mapping: a collection of a key and a value. -/
def entryFrom (position : Nat) (item : Value) : Work (Value × Value) := do
  match Iteration.of item with
  | .error _ => Work.fail (.fault (.entryNotCollection position))
  | .ok parts =>
      match ← parts.mapItems false pure with
      | [key, value] =>
          match key.unhashablePart? with
          | some part => Work.fail (.fault (.unhashable part.typeName))
          | none => return (key, value)
      | parts => Work.fail (.fault (.entryLength position parts.length))

/-- Entries of a mapping, from the one at `position` on. -/
def entriesFrom (position : Nat) : List Value → Work Entries
  | [] => pure []
  | item :: rest => do
      let entry ← entryFrom position item
      return entry :: (← entriesFrom (position + 1) rest)

/-- The attributes of a new element: a copy of a mapping, a mapping of the entries that something
else holds, or none where nothing is given. -/
def attributesOf (given : Value) : Work Entries := do
  if !given.truth then return []
  match given.asMapping? with
  | some entries => return entries
  | none =>
      let iteration ← Work.ofFault (Iteration.of given)
      let entries ← entriesFrom 0 (← iteration.mapItems false pure)
      return Entries.merge [] entries

def makeElement (type : Value) (attributes : Value) (children : List Value) : Work Value := do
  let identity ← Work.reserve 1
  if !Element.isElementType type then Work.fail (.fault (Element.typeFault type))
  let attributes ← attributesOf attributes
  return .element identity type attributes children

def makeSettings (request : SettingsRequest) : Work Value :=
  Work.ofFault ((Settings.check request).mapError .settings |>.map .settings)

/-! ## Evaluation -/

mutual
def Expression.evaluate (scope : Scope) : Expression → Work Value
  | .constant value => pure value
  | .integerNumeral text => do
      return .integer (← Work.ofFault ((Decimal.readInteger text).mapError .numeral))
  | .floatNumeral text => do
      makeFloat (← Work.ofFault ((Decimal.readFloat text).mapError .numeral))
  | .named name =>
      match scope.get? name with
      | some value => pure value
      | none => Work.act (.lookup name)
  | .list items => do return .list (← evaluateAll scope items)
  | .tuple items => do return .tuple (← evaluateAll scope items)
  | .mapping entries => do Work.ofFault (mappingOf (← evaluateEntries scope entries))
  | .nested item depth => do return nest (← item.evaluate scope) depth
  | .repeated text count => do return .text (← Work.ofFault (repeatText text count))
  | .safe content => do return .safe (← Work.reserve 1) content
  | .object name => do return .object (← Work.reserve 1) name
  | .newToken name => makeToken name
  | .style operand => do makeStyle (← operand.evaluate scope)
  | .markup operand => do makeMarkup (← operand.evaluate scope)
  | .element type attributes children => do
      let type ← type.evaluate scope
      let attributes ← evaluateOr scope .null attributes
      makeElement type attributes (← evaluateAll scope children)
  | .marker role type attributes children => do
      let type ← type.evaluate scope
      let attributes ← evaluateOr scope (.mapping []) attributes
      let children ← evaluateOr scope (.tuple []) children
      return .marker role type attributes children
  | .call callee arguments => do
      let callee ← callee.evaluate scope
      Work.act (.call callee (← evaluateArguments scope arguments))
  | .joined parts => do
      let parts ← evaluateAll scope parts
      return .text (String.join (← Work.ofFault (parts.mapM Value.written)))
  | .difference left right => do
      let left ← left.evaluate scope
      makeDifference left (← right.evaluate scope)
  | .equality left right => do
      let left ← left.evaluate scope
      return .boolean (left.equals (← right.evaluate scope))
  | .item container key => do
      let container ← container.evaluate scope
      Work.ofFault (lookUp container (← key.evaluate scope))
  | .range bound => do Work.ofFault (rangeOf (← bound.evaluate scope))
  | .each name items body => do
      let iteration ← Work.ofFault (Iteration.of (← items.evaluate scope))
      return .list (← iteration.mapItems items.isTemporary fun item =>
        body.evaluate (scope.assign name item))
  | .contextField field => Work.act (.readContext field)
  | .metadata key default => do
      Work.act (.readMeta key (← evaluateOr scope .null default))
  | .provider source => do
      return (← Work.ofFault (Provider.classify (← source.evaluate scope))).toValue
  | .settings request => makeSettings request

def evaluateOr (scope : Scope) (default : Value) : Option Expression → Work Value
  | some expression => expression.evaluate scope
  | none => pure default

def evaluateAll (scope : Scope) : List Expression → Work (List Value)
  | [] => pure []
  | head :: tail => do
      let value ← head.evaluate scope
      return value :: (← evaluateAll scope tail)

def evaluateEntries (scope : Scope) : List (Expression × Expression) → Work Entries
  | [] => pure []
  | (key, value) :: rest => do
      let key ← key.evaluate scope
      let value ← value.evaluate scope
      return (key, value) :: (← evaluateEntries scope rest)

def evaluateArguments (scope : Scope) : List (String × Expression) → Work Entries
  | [] => pure []
  | (name, value) :: rest => do
      let value ← value.evaluate scope
      return (.text name, value) :: (← evaluateArguments scope rest)

def InterpolationExpression.evaluate (scope : Scope) :
    InterpolationExpression → Work Interpolation
  | .mk value conversion specification => do
      return ⟨← value.evaluate scope, conversion, specification⟩

def evaluateInterpolations (scope : Scope) :
    List InterpolationExpression → Work (List Interpolation)
  | [] => pure []
  | head :: tail => do
      let interpolation ← head.evaluate scope
      return interpolation :: (← evaluateInterpolations scope tail)

def TemplateExpression.evaluate (scope : Scope) : TemplateExpression → Work TemplateOperand
  | .template strings interpolations => do
      return .template ⟨strings, ← evaluateInterpolations scope interpolations⟩
  | .other operand => do return .other (← operand.evaluate scope)
end

end HtmlStream.Script
