import HtmlStream.Element.Traversal
import HtmlStream.Proofs.Element.Flattening

/-!
Reading children one look at a time. What is pending holds exactly the leaves that were not found yet,
wherever reading is left, and every look brings the end nearer by one. So flattening finds the leaves of
the recursion, and collections may be spliced into those around them.
-/
namespace HtmlStream

namespace Value

theorem leavesOf_append (first second : List Value) :
    leavesOf (first ++ second) = leavesOf first ++ leavesOf second := by
  induction first with
  | nil => rfl
  | cons head tail induction => rw [List.cons_append, leavesOf, leavesOf, induction, List.append_assoc]

mutual
theorem items?_of_mem_leaves (value : Value) : ∀ leaf ∈ value.leaves, leaf.items? = none := by
  cases value with
  | list items | tuple items => exact items?_of_mem_leavesOf items
  | _ =>
      intro leaf member
      cases List.mem_singleton.mp member
      rfl

theorem items?_of_mem_leavesOf (items : List Value) :
    ∀ leaf ∈ leavesOf items, leaf.items? = none := by
  cases items with
  | nil => exact fun _ member => absurd member List.not_mem_nil
  | cons head tail =>
      intro leaf member
      rcases List.mem_append.mp member with first | later
      · exact items?_of_mem_leaves head leaf first
      · exact items?_of_mem_leavesOf tail leaf later
end

theorem weight_of_items {value : Value} {items : List Value} (found : value.items? = some items) :
    value.weight = weights items + 2 := by
  cases value with
  | list | tuple => cases found; rfl
  | _ => cases found

theorem weight_of_leaf {value : Value} (leaf : value.items? = none) : value.weight = 1 := by
  cases value with
  | list | tuple => cases leaf
  | _ => rfl

end Value

theorem PendingItems.weight_eq_zero {pending : PendingItems} : pending.weight = 0 ↔ pending = [] := by
  cases pending with
  | nil => exact ⟨fun _ => rfl, fun _ => rfl⟩
  | cons items outer =>
      refine ⟨fun none => ?_, nofun⟩
      rw [weight] at none
      omega

/-- The items of a collection have its leaves, wherever it stands. -/
theorem Splices.leavesOf_eq {children spliced : List Value} (splices : Splices children spliced) :
    Value.leavesOf spliced = Value.leavesOf children := by
  induction splices with
  | opened before after isCollection =>
      rw [List.append_assoc, Value.leavesOf_append, Value.leavesOf_append, Value.leavesOf_append,
        Value.leavesOf, Value.leaves_of_items isCollection]
  | inside before after isCollection isChanged splices induction =>
      rw [Value.leavesOf_append, Value.leavesOf_append, Value.leavesOf, Value.leavesOf,
        Value.leaves_of_items isCollection, Value.leaves_of_items isChanged, induction]

namespace Traversal

/-- The leaves of a reading: those that were found and those that are still to come. -/
def leaves (traversal : Traversal) : List Value :=
  traversal.found ++ traversal.pending.flatMap Value.leavesOf

theorem leaves_look (traversal : Traversal) : traversal.look.leaves = traversal.leaves := by
  rcases traversal with ⟨found, _ | ⟨_ | ⟨child, rest⟩, outer⟩⟩
  · rfl
  · rfl
  · unfold look leaves
    dsimp only
    cases collection : child.items? with
    | some items =>
        rw [List.flatMap_cons, List.flatMap_cons, List.flatMap_cons, Value.leavesOf,
          Value.leaves_of_items collection, List.append_assoc]
    | none =>
        rw [List.flatMap_cons, List.flatMap_cons, Value.leavesOf, Value.leaves_of_leaf collection,
          List.append_assoc, List.append_assoc]

theorem weight_look (traversal : Traversal) :
    traversal.look.pending.weight = traversal.pending.weight - 1 := by
  rcases traversal with ⟨found, _ | ⟨_ | ⟨child, rest⟩, outer⟩⟩
  · rfl
  · simp [look, PendingItems.weight, Value.weights]
  · unfold look
    dsimp only
    cases collection : child.items? with
    | some items =>
        simp only [PendingItems.weight, Value.weights, Value.weight_of_items collection]
        omega
    | none =>
        simp only [PendingItems.weight, Value.weights, Value.weight_of_leaf collection]
        omega

theorem leaves_after (traversal : Traversal) (looks : Nat) :
    (traversal.after looks).leaves = traversal.leaves := by
  induction looks generalizing traversal with
  | zero => rfl
  | succ looks induction => rw [after, induction, leaves_look]

theorem weight_after (traversal : Traversal) (looks : Nat) :
    (traversal.after looks).pending.weight = traversal.pending.weight - looks := by
  induction looks generalizing traversal with
  | zero => rfl
  | succ looks induction =>
      rw [after, induction, weight_look]
      omega

end Traversal

/-- The values in `leaves` are what is found in children. -/
structure IsFlattened (children leaves : List Value) : Prop where
  /-- They are the leaves that a recursion over the children finds, from left to right. -/
  leaves_eq : leaves = Value.leavesOf children
  isLeaf : ∀ leaf ∈ leaves, leaf.items? = none
  /-- After any number of looks the leaves that come are those that were not found yet. -/
  resumes : ∀ looks, ((Traversal.start children).after looks).leaves = leaves
  /-- One look for each value and one more to leave each collection: then nothing is pending. -/
  ends : ∀ looks,
    ((Traversal.start children).after looks).pending = [] ↔ Value.weights children < looks
  found : ∀ looks, Value.weights children < looks →
    ((Traversal.start children).after looks).found = leaves
  splices : ∀ spliced, Splices children spliced → flattenChildren spliced = leaves

/-- Flattening children of any depth ends, and it finds the leaves of the recursion: each of them once,
in their order, and the same ones if a collection is replaced by its items. -/
theorem flattenChildren_isFlattened (children : List Value) :
    IsFlattened children (flattenChildren children) := by
  have recursive := flattenChildren_eq_leavesOf children
  have resumes : ∀ looks, ((Traversal.start children).after looks).leaves
      = flattenChildren children := by
    intro looks
    rw [Traversal.leaves_after, recursive]
    exact List.append_nil _
  have ends : ∀ looks, ((Traversal.start children).after looks).pending = []
      ↔ Value.weights children < looks := by
    intro looks
    have remaining := Traversal.weight_after (.start children) looks
    have whole : (Traversal.start children).pending.weight = Value.weights children + 1 := rfl
    rw [← PendingItems.weight_eq_zero, remaining, whole]
    omega
  refine ⟨recursive, ?_, resumes, ends, fun looks enough => ?_, fun spliced splices => ?_⟩
  · rw [recursive]
    exact Value.items?_of_mem_leavesOf children
  · have whole := resumes looks
    unfold Traversal.leaves at whole
    rwa [(ends looks).mpr enough, List.flatMap_nil, List.append_nil] at whole
  · rw [flattenChildren_eq_leavesOf, splices.leavesOf_eq, recursive]

/-- Empty collections hold no leaf, and others may hold the same one several times. -/
example :
    flattenChildren [.text "a", .list [.tuple [], .list [.text "b", .tuple [.text "a"]]], .null]
      = [.text "a", .text "b", .text "a", .null] := by
  rw [flattenChildren_eq_leavesOf]
  rfl

end HtmlStream
