import HtmlStream.Template.Progress

/-!
The holes of a template in document order: for each node those of its type, then those of its
attributes, then those of its children. Some holes of a template are not in its nodes: they are passed
over.
-/
namespace HtmlStream.Template

def Piece.hole? : Piece → Option Nat
  | .text _ => none
  | .hole index => some index

def holesOfPieces (pieces : List Piece) : List Nat :=
  pieces.filterMap Piece.hole?

def AttributeValue.holes : AttributeValue → List Nat
  | .bare | .text _ => []
  | .hole index => [index]
  | .mixed pieces => holesOfPieces pieces

def Attribute.holes : Attribute → List Nat
  | .named _ value => value.holes
  | .spread index => [index]

def TagName.holes : TagName → List Nat
  | .literal _ => []
  | .hole index => [index]

def Tag.holes (tag : Tag) : List Nat :=
  tag.name.holes ++ tag.attributes.flatMap Attribute.holes

mutual
def Node.holes : Node → List Nat
  | .text _ | .markup _ => []
  | .hole index => [index]
  | .element tag children => tag.holes ++ holesOfNodes children

def holesOfNodes : List Node → List Nat
  | [] => []
  | head :: tail => head.holes ++ holesOfNodes tail
end

def Symbol.holes : Symbol → List Nat
  | .character _ => []
  | .hole index => [index]

def Event.holes : Event → List Nat
  | .text _ | .markup _ | .closing _ => []
  | .hole index => [index]
  | .empty tag | .opening tag => tag.holes

/-- The holes of the tag that is being read. -/
def Reading.holes : Reading → List Nat
  | .text _ | .closingTag _ | .comment _ | .declaration _ => []
  | .tagName _ hole => hole.toList
  | .attributes tag | .attributeName tag _ | .attributeValue tag _ | .selfClosing tag =>
      (finished tag).holes
  | .quotedValue tag _ _ pieces | .unquotedValue tag _ pieces =>
      (finished tag).holes ++ holesOfPieces pieces.reverse

def OpenElement.holes (element : OpenElement) : List Nat :=
  element.tag.holes ++ holesOfNodes element.children.reverse

/-- The holes of all nodes that a builder has, the open ones included. -/
def Builder.holes (builder : Builder) : List Nat :=
  holesOfNodes builder.finished.reverse ++ builder.stack.reverse.flatMap OpenElement.holes

/-! ## Holes that are types -/

/-- The value in the hole is the type of an element. -/
inductive Node.HasType (index : Nat) : Node → Prop
  | own (attributes : List Attribute) (children : List Node) :
      HasType index (.element ⟨.hole index, attributes⟩ children)
  | inside {tag : Tag} {children : List Node} {child : Node} (member : child ∈ children)
      (typed : HasType index child) : HasType index (.element tag children)

def HaveType (index : Nat) (nodes : List Node) : Prop :=
  ∃ node ∈ nodes, node.HasType index

def Builder.HasType (index : Nat) (builder : Builder) : Prop :=
  HaveType index builder.finished ∨
    ∃ element ∈ builder.stack, element.tag.name = .hole index ∨ HaveType index element.children

def Event.HasType (index : Nat) : Event → Prop
  | .empty tag | .opening tag => tag.name = .hole index
  | .text _ | .markup _ | .hole _ | .closing _ => False

/-- The value in the hole is the type of the element whose attributes are being read. -/
def Reading.HasType (index : Nat) : Reading → Prop
  | .attributes tag | .attributeName tag _ | .attributeValue tag _ | .quotedValue tag _ _ _
  | .unquotedValue tag _ _ | .selfClosing tag => tag.name = .hole index
  | .text _ | .tagName _ _ | .closingTag _ | .comment _ | .declaration _ => False

/-! ## Holes that are passed over -/

/-- A character that a tag name goes on with. -/
def IsNameCharacter (character : Char) : Prop :=
  Text.isBlank character = false ∧ character ≠ '/' ∧ character ≠ '>'

/-- What makes a comment or a declaration of the beginning of a tag. -/
def IsOpener (opener : List Char) : Prop :=
  String.ofList opener = "!--" ∨ Text.lowercase (String.ofList opener) = "!doctype"

/-- The hole is met in a comment or in a closing tag, or between a bracket and an opener. -/
inductive IsPassedOver (symbols : List Symbol) (index : Nat) : Prop
  | inComment {read rest : List Symbol} {tail : List Char} {builder : Builder}
      (reached : ReadsTo symbols read (.comment tail) builder (.hole index :: rest))
  | inClosingTag {read rest : List Symbol} {name : List Char} {builder : Builder}
      (reached : ReadsTo symbols read (.closingTag name) builder (.hole index :: rest))
  | beforeOpener {read rest : List Symbol} {run opener : List Char} {builder : Builder}
      (opens : IsOpener opener)
      (reached : ReadsTo symbols read (.text run) builder
        (.character '<' :: .hole index :: (opener.map .character ++ rest)))

end HtmlStream.Template
