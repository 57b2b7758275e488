import HtmlStream.Element.Effects
import HtmlStream.Serializer

/-!
The page of an element: what its tree amounts to, as a recursion over the tree. Nothing is driven
here. A tree has pieces in document order; a style among them is written where it stands first.
-/
namespace HtmlStream

inductive PagePiece where
  | text (content : String)
  | style (sheet : Style)

namespace PagePiece

/-- The text of pieces, where some styles have been written before. -/
def textOf (written : List Nat) : List PagePiece → String
  | [] => ""
  | .text content :: rest => content ++ textOf written rest
  | .style sheet :: rest =>
      if sheet.identity ∈ written then textOf written rest
      else "<style>" ++ sheet.content ++ "</style>" ++ textOf (sheet.identity :: written) rest

def inOrder (first second : Except Fault (List PagePiece)) : Except Fault (List PagePiece) := do
  return (← first) ++ (← second)

end PagePiece

namespace Value

/-- Whether a value is a literal tag name or the type of fragments. -/
def isTagType : Value → Bool
  | .text _ | .markup _ | .fragment => true
  | _ => false

mutual
/-- Whether a value is a tree of literal tags and fragments, or can be a child in one. -/
def isTree : Value → Bool
  | .null | .boolean _ | .integer _ | .float _ | .notANumber _ | .text _ | .markup _
  | .style _ | .safe .. => true
  | .list items | .tuple items => areTrees items
  | .element _ type _ children => type.isTagType && areTrees children
  | _ => false

def areTrees : List Value → Bool
  | [] => true
  | head :: tail => isTree head && areTrees tail
end

mutual
/-- How many bodies a tree needs to be live at once. -/
def framesNeeded : Value → Nat
  | .list items | .tuple items => framesNeededByAll items
  | .element _ _ _ children => framesNeededByAll children + 1
  | _ => 0

def framesNeededByAll : List Value → Nat
  | [] => 0
  | head :: tail => max (framesNeeded head) (framesNeededByAll tail)
end

def pageText (autoescape : Bool) (text : String) : String :=
  if autoescape then escapeHtml text else text

/-- The value of an attribute; what knows its own markup is not escaped. -/
def attributeValue (autoescape : Bool) : Value → Except Fault String
  | .markup content | .safe _ content => .ok content
  | other => other.written.map (pageText autoescape)

/-- Whether a key is the name under which children are declared. -/
def isChildrenName : Value → Bool
  | .text name | .markup name => name == "children"
  | _ => false

def pageAttribute (autoescape : Bool) (key value : Value) : Except Fault String :=
  if key.isChildrenName then .ok ""
  else match value with
    | .null | .boolean false => .ok ""
    | .boolean true => do return " " ++ (← key.written)
    | value => do
        return " " ++ (← key.written) ++ "=\"" ++ (← attributeValue autoescape value) ++ "\""

def pageAttributes (autoescape : Bool) : Entries → Except Fault String
  | [] => .ok ""
  | (key, value) :: rest => do
      return (← pageAttribute autoescape key value) ++ (← pageAttributes autoescape rest)

/-- The tag around some pieces; a void tag has no end, unless something was declared inside it. -/
def tagged (autoescape : Bool) (name : String) (attributes : Entries) (children : List Value)
    (inner : Except Fault (List PagePiece)) : Except Fault (List PagePiece) := do
  let attributes ← pageAttributes autoescape attributes
  let inner ← inner
  let opening := PagePiece.text ("<" ++ name ++ attributes ++ ">")
  if Template.isVoid name && children.isEmpty then return opening :: inner
  else return opening :: inner ++ [.text ("</" ++ name ++ ">")]

mutual
/-- The pieces of a tree. There are none if the tree holds a number that is too long to be
written. -/
def page (autoescape : Bool) : Value → Except Fault (List PagePiece)
  | .text content => .ok [.text (pageText autoescape content)]
  | .markup content | .safe _ content => .ok [.text content]
  | .integer number => do return [.text (pageText autoescape (← (Value.integer number).written))]
  | .float number => .ok [.text (pageText autoescape (Value.float number).toText)]
  | .notANumber identity => .ok [.text (pageText autoescape (Value.notANumber identity).toText)]
  | .style sheet => .ok [.style sheet]
  | .list items | .tuple items => pages autoescape items
  | .element _ (.text name) attributes children | .element _ (.markup name) attributes children =>
      tagged autoescape name attributes children (pages autoescape children)
  | .element _ _ _ children => pages autoescape children
  | _ => .ok []

def pages (autoescape : Bool) : List Value → Except Fault (List PagePiece)
  | [] => .ok []
  | head :: tail => PagePiece.inOrder (page autoescape head) (pages autoescape tail)
end

end Value
end HtmlStream
