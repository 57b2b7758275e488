import HtmlStream.Failure.Basic
import HtmlStream.Template.Fill

/-!
The children of an element: collections among them are flattened, and each leaf is mapped to the
effect that it stands for.
-/
namespace HtmlStream

namespace Value

mutual
/-- The number of values in a value, itself included; collections count one more, for opening
them. -/
def weight : Value → Nat
  | .list items | .tuple items => weights items + 2
  | _ => 1

def weights : List Value → Nat
  | [] => 0
  | head :: tail => weight head + weights tail
end

def items? : Value → Option (List Value)
  | .list items | .tuple items => some items
  | _ => none

theorem weights_items_lt {value : Value} {items : List Value}
    (isCollection : value.items? = some items) : weights items + 1 < value.weight := by
  cases value <;> simp_all [items?, weight]

end Value

/-- The collections that are being read, innermost first, each with the items that are left. -/
abbrev PendingItems := List (List Value)

namespace PendingItems

def weight : PendingItems → Nat
  | [] => 0
  | items :: outer => Value.weights items + 1 + weight outer

/-- Read the pending items: a collection is entered where it stands, every other value is a
leaf. -/
def leaves (pending : PendingItems) : List Value :=
  match pending with
  | [] => []
  | [] :: outer => leaves outer
  | (child :: rest) :: outer =>
      match _isCollection : child.items? with
      | some items => leaves (items :: rest :: outer)
      | none => child :: leaves (rest :: outer)
termination_by weight pending
decreasing_by
  · simp [weight]
  · have smaller := Value.weights_items_lt _isCollection
    simp only [weight, Value.weights]
    omega
  · have positive : 0 < child.weight := by cases child <;> simp [Value.weight]
    simp only [weight, Value.weights]
    omega

end PendingItems

def flattenChildren (children : List Value) : List Value :=
  PendingItems.leaves [children]

namespace Value

/-- Markup as an effect; empty markup has none. -/
def markupEffect (content : String) : Option Value :=
  if content.isEmpty then none else some (.markup content)

/-- The failure of a leaf that stands for nothing. The leaf is shown in it, so one that cannot be
written fails by that. -/
def unsupportedChild (child : Value) : Failure :=
  if child.isWritable then .engine (.runtime (.unsupportedChild child) [])
  else .fault .integerTooLong

/-- What a leaf stands for: `none` for a leaf that renders nothing. Numbers become text; elements,
styles and bodies are left to the renderer. -/
def childEffect : Value → Except Failure (Option Value)
  | .text content => .ok (if content.isEmpty then none else some (.text content))
  | .markup content | .safe _ content => .ok (markupEffect content)
  | .null | .boolean _ => .ok none
  | .integer value => ((Value.integer value).written.mapError .fault).map fun shown =>
      some (.text shown)
  | .float value => .ok (some (.text (Value.float value).toText))
  | .notANumber identity => .ok (some (.text (Value.notANumber identity).toText))
  | .element identity type attributes children =>
      .ok (some (.element identity type attributes children))
  | .style sheet => .ok (some (.style sheet))
  | .routine reference =>
      match reference.kind with
      | .generator | .asyncGenerator => .ok (some (.routine reference))
      | .coroutine => .error (unsupportedChild (.routine reference))
  | other => .error (unsupportedChild other)

end Value
end HtmlStream
