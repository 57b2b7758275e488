import HtmlStream.Element.Children

/-!
The reading of children one look at a time. A look is at what stands next in the innermost collection:
a collection is entered, any other value is found, and where nothing is left the collection around is
read on from where it was left.
-/
namespace HtmlStream

/-- How far reading has come: the leaves found so far, and the collections that are being read. -/
structure Traversal where
  found : List Value
  pending : PendingItems

namespace Traversal

def start (children : List Value) : Traversal := ⟨[], [children]⟩

/-- One look. Where nothing is pending there is nothing to look at. -/
def look (traversal : Traversal) : Traversal :=
  match traversal.pending with
  | [] => traversal
  | [] :: outer => { traversal with pending := outer }
  | (child :: rest) :: outer =>
      match child.items? with
      | some items => { traversal with pending := items :: rest :: outer }
      | none => ⟨traversal.found ++ [child], rest :: outer⟩

def after (traversal : Traversal) : Nat → Traversal
  | 0 => traversal
  | looks + 1 => traversal.look.after looks

end Traversal

/-- The second children are the first ones with the items of one collection in its place, or with one
collection in which that was done, at any depth. -/
inductive Splices : List Value → List Value → Prop
  | opened (before after : List Value) {collection : Value} {items : List Value}
      (isCollection : collection.items? = some items) :
      Splices (before ++ collection :: after) (before ++ items ++ after)
  | inside (before after : List Value) {collection changed : Value} {items spliced : List Value}
      (isCollection : collection.items? = some items) (isChanged : changed.items? = some spliced)
      (splices : Splices items spliced) :
      Splices (before ++ collection :: after) (before ++ changed :: after)

end HtmlStream
