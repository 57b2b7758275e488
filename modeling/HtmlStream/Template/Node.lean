/-!
What a template says, before its values are known: a forest of nodes in which holes stand for the
interpolated values.
-/
namespace HtmlStream.Template

inductive Piece where
  | text (content : String)
  | hole (index : Nat)
  deriving DecidableEq

inductive AttributeValue where
  /-- An attribute without a value; it is just set. -/
  | bare
  | text (content : String)
  /-- A single hole, which keeps its value as it is. -/
  | hole (index : Nat)
  | mixed (pieces : List Piece)
  deriving DecidableEq

namespace AttributeValue

def ofPieces : List Piece → AttributeValue
  | [] => .text ""
  | [.text content] => .text content
  | [.hole index] => .hole index
  | pieces => .mixed pieces

end AttributeValue

inductive Attribute where
  | named (name : String) (value : AttributeValue)
  /-- A hole whose value is a mapping of attributes. -/
  | spread (index : Nat)
  deriving DecidableEq

inductive TagName where
  | literal (name : String)
  | hole (index : Nat)
  deriving DecidableEq

/-- What is known about an element before its children. -/
structure Tag where
  name : TagName
  attributes : List Attribute
  deriving DecidableEq

inductive Node where
  | text (content : String)
  /-- Markup that is passed on as it is. -/
  | markup (content : String)
  | hole (index : Nat)
  | element (tag : Tag) (children : List Node)

namespace Node

mutual
def elementCount : Node → Nat
  | .element _ children => elementCounts children + 1
  | _ => 0

def elementCounts : List Node → Nat
  | [] => 0
  | head :: tail => elementCount head + elementCounts tail
end

end Node
end HtmlStream.Template
