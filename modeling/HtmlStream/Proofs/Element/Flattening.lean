import HtmlStream.Element.Page

/-!
Reading children with a list of open collections finds the leaves that a recursion over the children
finds. What a page is made of does not depend on how its leaves are grouped.
-/
namespace HtmlStream

namespace Value

mutual
def leaves : Value → List Value
  | .list items | .tuple items => leavesOf items
  | other => [other]

def leavesOf : List Value → List Value
  | [] => []
  | head :: tail => leaves head ++ leavesOf tail
end

theorem leaves_of_items {value : Value} {items : List Value} (found : value.items? = some items) :
    value.leaves = leavesOf items := by
  cases value with
  | list | tuple =>
      cases found
      rfl
  | _ => cases found

theorem leaves_of_leaf {value : Value} (leaf : value.items? = none) : value.leaves = [value] := by
  cases value with
  | list | tuple => cases leaf
  | _ => rfl

end Value

theorem PendingItems.leaves_eq (pending : PendingItems) :
    pending.leaves = pending.flatMap Value.leavesOf := by
  induction pending using PendingItems.leaves.induct with
  | case1 =>
      rw [leaves]
      rfl
  | case2 outer induction =>
      rw [leaves, induction]
      rfl
  | case3 child rest outer items isCollection induction =>
      rw [leaves, List.flatMap_cons, Value.leavesOf, Value.leaves_of_items isCollection]
      split
      · next entered found =>
          cases isCollection.symm.trans found
          rw [induction, List.append_assoc]
          rfl
      · next absent => cases isCollection.symm.trans absent
  | case4 child rest outer isLeaf induction =>
      rw [leaves, List.flatMap_cons, Value.leavesOf, Value.leaves_of_leaf isLeaf]
      split
      · next entered found => cases isLeaf.symm.trans found
      · rw [induction]
        rfl

theorem flattenChildren_eq_leavesOf (children : List Value) :
    flattenChildren children = Value.leavesOf children := by
  rw [flattenChildren, PendingItems.leaves_eq, List.flatMap_singleton]

namespace PagePiece

theorem inOrder_nil (pieces : Except Fault (List PagePiece)) : inOrder pieces (.ok []) = pieces := by
  cases pieces with
  | ok pieces => exact congrArg Except.ok (List.append_nil pieces)
  | error fault => rfl

theorem nil_inOrder (pieces : Except Fault (List PagePiece)) : inOrder (.ok []) pieces = pieces := by
  cases pieces <;> rfl

theorem inOrder_assoc (first second third : Except Fault (List PagePiece)) :
    inOrder (inOrder first second) third = inOrder first (inOrder second third) := by
  cases first with
  | error fault => rfl
  | ok first =>
      cases second with
      | error fault => rfl
      | ok second =>
          cases third with
          | error fault => rfl
          | ok third => exact congrArg Except.ok (List.append_assoc first second third)

end PagePiece

namespace Value

variable (autoescape : Bool)

theorem pages_append (first second : List Value) :
    pages autoescape (first ++ second)
      = PagePiece.inOrder (pages autoescape first) (pages autoescape second) := by
  induction first with
  | nil => exact (PagePiece.nil_inOrder _).symm
  | cons head tail induction =>
      rw [List.cons_append, pages, pages, induction, PagePiece.inOrder_assoc]

mutual
theorem pages_leaves (value : Value) : pages autoescape value.leaves = page autoescape value := by
  cases value with
  | list items | tuple items =>
      rw [leaves, page]
      exact pages_leavesOf items
  | _ => exact PagePiece.inOrder_nil _

theorem pages_leavesOf (items : List Value) :
    pages autoescape (leavesOf items) = pages autoescape items := by
  cases items with
  | nil => rfl
  | cons head tail =>
      rw [leavesOf, pages_append, pages_leaves head, pages_leavesOf tail, pages]
end

/-- What can be said of a leaf of a tree that needs a number of frames. -/
structure IsLeafWithin (frames : Nat) (leaf : Value) : Prop where
  isLeaf : leaf.items? = none
  isTree : leaf.isTree = true
  framesNeeded_le : leaf.framesNeeded ≤ frames

theorem IsLeafWithin.mono {frames more : Nat} {leaf : Value} (within : leaf.IsLeafWithin frames)
    (le : frames ≤ more) : leaf.IsLeafWithin more :=
  { within with framesNeeded_le := Nat.le_trans within.framesNeeded_le le }

mutual
theorem isLeafWithin_of_mem_leaves (value : Value) (tree : value.isTree = true) (leaf : Value)
    (member : leaf ∈ value.leaves) : leaf.IsLeafWithin value.framesNeeded := by
  cases value with
  | list items | tuple items =>
      rw [leaves] at member
      rw [isTree] at tree
      rw [framesNeeded]
      exact isLeafWithin_of_mem_leavesOf items tree leaf member
  | _ =>
      cases List.mem_singleton.mp member
      exact ⟨rfl, tree, Nat.le_refl _⟩

theorem isLeafWithin_of_mem_leavesOf (items : List Value) (trees : areTrees items = true)
    (leaf : Value) (member : leaf ∈ leavesOf items) :
    leaf.IsLeafWithin (framesNeededByAll items) := by
  cases items with
  | nil => cases member
  | cons head tail =>
      rw [areTrees, Bool.and_eq_true] at trees
      rw [leavesOf] at member
      rw [framesNeededByAll]
      rcases List.mem_append.mp member with member | member
      · exact (isLeafWithin_of_mem_leaves head trees.1 leaf member).mono (Nat.le_max_left _ _)
      · exact (isLeafWithin_of_mem_leavesOf tail trees.2 leaf member).mono (Nat.le_max_right _ _)
end

end Value
end HtmlStream
