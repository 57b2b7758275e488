import HtmlStream.Element.Effects
import HtmlStream.Value.Equality

/-!
Iteration: what a loop goes through. Collections hold their items; an element makes its effects as
they are asked for, and a generator is advanced from item to item, so what it does in between
happens between the turns of the loop.
-/
namespace HtmlStream.Script

def itemsOf? : Value → Option (List Value)
  | .list items | .tuple items => some items
  | .text content | .markup content =>
      some (content.toList.map fun character => .text (String.singleton character))
  | .mapping entries => some (entries.map Prod.fst)
  | .component reference => if reference.hashable then none else some []
  | _ => none

inductive Iteration where
  /-- Items that are made in turn. -/
  | collection (items : List (Work Value))
  | generator (index : Nat)

/-- How many items a loop may go through; no generator has more items than its tree is deep. -/
def iterationLimit : Nat := 1 <<< 62

namespace Iteration

/-- The items of an element: what a component's call gives, or the effects of a tag. -/
def ofElement (node : Element) : Iteration :=
  if node.type.isCallable then
    .collection [Work.act (.expand node.type node.attributes node.children)]
  else .collection (node.effects.map Work.ofExcept)

/-- Go through a value. A token is its own only item. -/
def of (value : Value) : Except Fault Iteration :=
  match value with
  | .routine ⟨.generator, index, _⟩ => .ok (.generator index)
  | .token token => .ok (.collection [pure (.token token)])
  | .element identity type attributes children =>
      .ok (ofElement ⟨identity, type, attributes, children⟩)
  | other =>
      match itemsOf? other with
      | some items => .ok (.collection (items.map pure))
      | none => .error (.notIterable other.typeName)

/-- The results of some work on each item of a generator, at most `items` of them. -/
def mapGenerator (index : Nat) (work : Value → Work Value) : (items : Nat) → Work (List Value)
  | 0 => pure []
  | items + 1 => do
      match ← Work.advance index with
      | .ended => return []
      | .failed failure => Work.fail failure
      | .item value =>
          let result ← work value
          return result :: (← mapGenerator index work items)

/-- The results of some work on each item. A generator that is `temporary` is closed if the work
fails. -/
def mapItems (iteration : Iteration) (temporary : Bool) (work : Value → Work Value) :
    Work (List Value) :=
  match iteration with
  | .collection items => items.mapM fun item => do work (← item)
  | .generator index => do
      match ← Work.attempt (mapGenerator index work iterationLimit) with
      | .ok results => return results
      | .error failure =>
          if temporary then
            let _ ← Work.act (.discard index)
          Work.fail failure

end Iteration
end HtmlStream.Script
