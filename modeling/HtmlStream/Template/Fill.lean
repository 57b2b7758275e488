import HtmlStream.Template.Forest

/-!
Filling the holes of a template with values: nodes become elements, attributes are merged in the
order of their mention, and a single root stands for itself.
-/
namespace HtmlStream

namespace Element

/-- An element's type is a tag name, the fragment or something to call. -/
def isElementType (type : Value) : Bool :=
  type.isText || type.isCallable || match type with
    | .fragment => true
    | _ => false

/-- The fault of a type that is none. The type is shown in it, so one that cannot be written is at
fault for that. -/
def typeFault (given : Value) : Fault :=
  if given.isWritable then .elementType given else .integerTooLong

/-- Make an element, provided that its type is one. -/
def make (identity : Nat) (type : Value) (attributes : Entries) (children : List Value) :
    Except Fault Element :=
  if isElementType type then .ok ⟨identity, type, attributes, children⟩
  else .error (typeFault type)

end Element

namespace Template

/-- The value in a hole. -/
def valueAt (values : List Value) (index : Nat) : Value :=
  values[index]?.getD .null

def Piece.fill (values : List Value) : Piece → Except Fault String
  | .text content => .ok content
  | .hole index => (valueAt values index).written

def AttributeValue.fill (values : List Value) : AttributeValue → Except Fault Value
  | .bare => .ok (.boolean true)
  | .text content => .ok (.text content)
  | .hole index => .ok (valueAt values index)
  | .mixed pieces => do return .text (String.join (← pieces.mapM (Piece.fill values)))

/-- What one attribute adds to the attributes before it. -/
def Attribute.fill (values : List Value) (before : Entries) : Attribute → Except Fault Entries
  | .named name value => do return before.insert (.text name) (← value.fill values)
  | .spread index =>
      let spread := valueAt values index
      match spread.asMapping? with
      | some additions => .ok (before.merge additions)
      | none => .error (.spreadNotMapping spread.typeName)

def fillAttributes (values : List Value) (attributes : List Attribute) : Except Fault Entries :=
  attributes.foldlM (Attribute.fill values) []

def TagName.fill (values : List Value) : TagName → Value
  | .literal name => .text name
  | .hole index => valueAt values index

mutual
/-- The value of a node. Elements are numbered from `start` on, each after its children; the
next free number is returned with the value. Attributes are filled before children, and the type
is checked last. -/
def Node.fill (values : List Value) (start : Nat) : Node → Except Fault (Value × Nat)
  | .text content => .ok (.text content, start)
  | .markup content => .ok (.markup content, start)
  | .hole index => .ok (valueAt values index, start)
  | .element tag children => do
      let attributes ← fillAttributes values tag.attributes
      let (children, next) ← fillNodes values start children
      let element ← Element.make next (tag.name.fill values) attributes children
      return (element.toValue, next + 1)

def fillNodes (values : List Value) (start : Nat) :
    List Node → Except Fault (List Value × Nat)
  | [] => .ok ([], start)
  | head :: tail => do
      let (value, next) ← Node.fill values start head
      let (rest, next) ← fillNodes values next tail
      return (value :: rest, next)
end

/-- The value of a whole template: its only root if that is an element, else a fragment of all
roots. -/
def fillForest (values : List Value) (start : Nat) (nodes : List Node) :
    Except Fault Value := do
  match nodes with
  | [.element tag children] => return (← Node.fill values start (.element tag children)).1
  | _ =>
      let (children, next) ← fillNodes values start nodes
      return .element next .fragment [] children

/-- How many numbers filling a forest needs. -/
def identitiesNeeded (nodes : List Node) : Nat :=
  Node.elementCounts nodes + 1

/-! ## The two tags of templates -/

/-- A template read as markup: its nodes and its values. -/
structure Markup where
  nodes : List Node
  values : List Value

/-- Read a template as markup. The markup is read before the values are looked at. -/
def readMarkup (operand : TemplateOperand) : Except Failure Markup := do
  let template ← (check operand "html").mapError .fault
  let nodes ← (readStrings template.strings).mapError
    fun fault => .engine (fault.toError template.strings)
  let values ← template.values.mapError .fault
  return ⟨nodes, values⟩

/-- The element of a template, with its elements numbered from `start` on. -/
def Markup.toElement (markup : Markup) (start : Nat) : Except Failure Value :=
  (fillForest markup.values start markup.nodes).mapError .fault

/-- The content of a style fragment: plain text as it is, or a template whose values are joined as
texts, leaving out those that count as false. -/
def styleContent (operand : TemplateOperand) : Except Fault String := do
  match operand with
  | .other (.text content) | .other (.markup content) => return content
  | _ =>
      let template ← check operand "css"
      let values ← template.values
      let shown ← values.mapM fun value => if value.truth then value.written else .ok ""
      let joined := (template.strings.zip (shown ++ [""])).map fun part => part.1 ++ part.2
      return String.join joined

end Template
end HtmlStream
