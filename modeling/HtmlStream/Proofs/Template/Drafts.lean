import HtmlStream.Proofs.Template.Parsing
import HtmlStream.Template.Machine

/-!
The nodes that a machine has made so far, and the builder that they amount to. Numbers go up in
document order: the finished nodes below an open one have the numbers after it, and then comes the
open one inside it. So a change to one of the open nodes changes nothing that is finished.
-/
namespace HtmlStream.Template.Machine

inductive IsLeaf : Child → Node → Prop
  | text (content : String) : IsLeaf (.text content) (.text content)
  | markup (content : String) : IsLeaf (.markup content) (.markup content)
  | hole (index : Nat) : IsLeaf (.hole index) (.hole index)

/-- The children of a node as nodes, where `drafts` are numbered from `offset` on and are all that
belongs to them. -/
inductive IsLaidOut : Nat → List Draft → List Child → List Node → Prop
  | nil (offset : Nat) : IsLaidOut offset [] [] []
  | leaf {offset : Nat} {drafts : List Draft} {children : List Child} {nodes : List Node}
      {child : Child} {node : Node} (laid : IsLaidOut offset drafts children nodes) (leaf : IsLeaf child node) :
      IsLaidOut offset drafts (children ++ [child]) (nodes ++ [node])
  | element {offset : Nat} {drafts inside : List Draft} {children innerChildren : List Child}
      {nodes inner : List Node} (tag : Tag) (laid : IsLaidOut offset drafts children nodes)
      (below : IsLaidOut (offset + drafts.length + 1) inside innerChildren inner) :
      IsLaidOut offset (drafts ++ ⟨.tag tag.name, tag.attributes, innerChildren⟩ :: inside)
        (children ++ [.node (offset + drafts.length)]) (nodes ++ [.element tag inner])

/-- The open nodes of a machine, given by their numbers with the innermost first, are those of a
builder. The innermost one has the children in `pending` besides. -/
inductive Spine : List Draft → List Nat → Builder → List Child → Prop
  | root {drafts : List Draft} {children : List Child} {nodes : List Node}
      (laid : IsLaidOut 1 drafts children nodes) (pending : List Child) :
      Spine (⟨.fragment, [], children ++ pending⟩ :: drafts) [0] ⟨nodes.reverse, []⟩ pending
  | inside {made drafts : List Draft} {stack : List Nat} {builder : Builder}
      {children : List Child} {nodes : List Node} (tag : Tag)
      (outer : Spine made stack builder [.node made.length])
      (laid : IsLaidOut (made.length + 1) drafts children nodes) (pending : List Child) :
      Spine (made ++ ⟨.tag tag.name, tag.attributes, children ++ pending⟩ :: drafts)
        (made.length :: stack) (builder.opened tag nodes.reverse) pending

variable {made drafts : List Draft} {stack : List Nat} {builder : Builder} {children : List Child}
  {nodes : List Node} {pending : List Child}

/-! ## Reading the tree off -/

/-- What the finished nodes below a node are read off as, whatever comes after them. -/
theorem IsLaidOut.exists_treesFrom? {offset : Nat} (laid : IsLaidOut offset drafts children nodes) :
    ∃ trees : List Node, trees.length = drafts.length ∧
      (∀ after later, treesFrom? (offset + drafts.length) after = some later →
        treesFrom? offset (drafts ++ after) = some (trees ++ later)) ∧
      ∀ later, children.mapM (Child.toNode? offset (trees ++ later)) = some nodes := by
  induction laid with
  | nil offset => exact ⟨[], rfl, fun _ _ => id, fun _ => rfl⟩
  | @leaf offset drafts children nodes child node laid leaf induction =>
      rcases induction with ⟨trees, sameLength, reads, resolves⟩
      refine ⟨trees, sameLength, reads, fun later => ?_⟩
      rw [List.mapM_append, resolves]
      cases leaf <;> rfl
  | @element offset drafts inside children innerChildren nodes inner tag laid below outer within =>
      rcases outer with ⟨trees, sameLength, reads, resolves⟩
      rcases within with ⟨insideTrees, insideLength, readsInside, resolvesInside⟩
      refine ⟨trees ++ .element tag inner :: insideTrees, by simp [sameLength, insideLength], ?_, ?_⟩
      · intro after later read
        have offsets : offset + (drafts ++ ⟨.tag tag.name, tag.attributes, innerChildren⟩
            :: inside).length = offset + drafts.length + 1 + inside.length := by
          simp only [List.length_append, List.length_cons]
          omega
        rw [offsets] at read
        rw [List.append_assoc, List.append_assoc]
        apply reads
        rw [List.cons_append, treesFrom?, readsInside after later read]
        dsimp only [bind, Option.bind]
        rw [resolvesInside later]
        rfl
      · intro later
        rw [List.append_assoc, List.mapM_append, resolves]
        have found : Child.toNode? offset (trees ++ (.element tag inner :: insideTrees ++ later))
            (.node (offset + drafts.length)) = some (.element tag inner) := by
          simp [Child.toNode?, ← sameLength]
        rw [List.mapM_cons, found]
        rfl

/-! ## What the stack holds -/

theorem modify_append_cons (before after : List Draft) (draft : Draft) (change : Draft → Draft) :
    (before ++ draft :: after).modify before.length change = before ++ change draft :: after := by
  induction before with
  | nil => rfl
  | cons head tail induction => simp [induction]

namespace Spine

theorem stack_getLast? (spine : Spine made stack builder pending) : stack.getLast? = some 0 := by
  induction spine with
  | root laid pending => rfl
  | inside tag outer laid pending induction => simp [List.getLast?_cons, induction]

theorem root_type (spine : Spine made stack builder pending) :
    made[0]?.map Draft.type = some .fragment := by
  induction spine with
  | root laid pending => rfl
  | @inside made drafts stack builder children nodes tag outer laid pending induction =>
      cases made with
      | nil => cases induction
      | cons root rest => exact induction

theorem lt_length_of_mem (spine : Spine made stack builder pending) {number : Nat}
    (member : number ∈ stack) : number < made.length := by
  induction spine with
  | root laid pending =>
      rw [List.mem_singleton.mp member]
      exact Nat.succ_pos _
  | inside tag outer laid pending induction =>
      rw [List.length_append, List.length_cons]
      rcases List.mem_cons.mp member with rfl | member
      · omega
      · have earlier := induction member
        omega

/-- As many nodes are open as the builder has open elements, and the root. -/
theorem stack_length (spine : Spine made stack builder pending) :
    stack.length = builder.stack.length + 1 := by
  induction spine with
  | root laid pending => rfl
  | inside tag outer laid pending induction => simp [Builder.opened, induction]

/-! ## Changes to the tree -/

/-- A child is added to the innermost open node; the drafts in `rest` are not open. -/
theorem addChild {machine : Machine} {rest : List Draft} (nodes : machine.nodes = made ++ rest)
    (spine : Spine made machine.stack builder []) (child : Child) :
    ∃ changed, machine.addChild child = .ok { machine with nodes := changed ++ rest } ∧
      changed.length = made.length ∧ Spine changed machine.stack builder [child] := by
  unfold Machine.addChild modifyNode
  rw [nodes]
  generalize machine.stack = stack at spine ⊢
  cases spine with
  | @root drafts children nodes laid =>
      dsimp only
      rw [if_pos (by simp), List.append_nil]
      exact ⟨⟨.fragment, [], children ++ [child]⟩ :: drafts, rfl, rfl, .root laid [child]⟩
  | @inside made drafts stack builder children nodes tag outer laid =>
      dsimp only
      rw [List.append_assoc, List.cons_append, modify_append_cons, if_pos (by simp),
        ← List.cons_append, ← List.append_assoc, List.append_nil]
      exact ⟨_, rfl, by simp, .inside tag outer laid [child]⟩

theorem addLeaf {child : Child} {node : Node} (spine : Spine made stack builder [child])
    (leaf : IsLeaf child node) : Spine made stack (builder.add node) [] := by
  cases spine with
  | root laid =>
      have grown := Spine.root (laid.leaf leaf) []
      rwa [List.append_nil, List.reverse_append] at grown
  | inside tag outer laid =>
      have grown := Spine.inside tag outer (laid.leaf leaf) []
      rwa [List.append_nil, List.reverse_append] at grown

/-- A node that has been closed is a child of the one around it. -/
theorem addElement {inside : List Draft} {innerChildren : List Child} {inner : List Node}
    (spine : Spine made stack builder [.node made.length]) (tag : Tag)
    (below : IsLaidOut (made.length + 1) inside innerChildren inner) :
    Spine (made ++ ⟨.tag tag.name, tag.attributes, innerChildren⟩ :: inside) stack
      (builder.add (.element tag inner)) [] := by
  generalize numbered : made.length = number at spine below
  cases spine with
  | @root drafts children nodes laid =>
      have here : number = 1 + drafts.length := by
        rw [← numbered, List.length_cons, Nat.add_comm]
      subst here
      have grown := Spine.root (laid.element tag below) []
      rwa [List.append_nil, List.reverse_append] at grown
  | @inside made drafts stack builder children nodes around outer laid =>
      have here : number = made.length + 1 + drafts.length := by
        rw [← numbered, List.length_append, List.length_cons]
        omega
      subst here
      have grown := Spine.inside around outer (laid.element tag below) []
      rw [List.append_nil, List.reverse_append] at grown
      rw [List.append_assoc]
      exact grown

/-- Only the root is open, or the innermost open node can be closed. -/
theorem closes (spine : Spine made stack builder []) :
    (stack.length = 1 ∧ builder.stack = []) ∨
    ∃ (tag : Tag) (inner : List Node) (around : Builder) (number : Nat) (outer : List Nat),
      stack = number :: outer ∧ outer ≠ [] ∧
      made[number]?.map Draft.type = some (.tag tag.name) ∧ builder = around.opened tag inner ∧
      Spine made outer (around.add (.element tag inner.reverse)) [] := by
  cases spine with
  | root laid => exact .inl ⟨rfl, rfl⟩
  | @inside made drafts stack builder children nodes tag outer laid =>
      refine .inr ⟨tag, nodes.reverse, builder, made.length, stack, rfl, ?_, ?_, rfl, ?_⟩
      · rintro rfl
        cases outer.stack_getLast?
      · simp
      · rw [List.append_nil, List.reverse_reverse]
        exact outer.addElement tag laid

end Spine

/-- Where only the root is open, the tree is what the builder has finished. -/
theorem forest?_of_spine {machine : Machine} (spine : Spine machine.nodes [0] builder []) :
    builder.stack = [] ∧ machine.forest? = some builder.finished.reverse := by
  generalize live : machine.nodes = drafts at spine
  generalize stacked : [0] = stack at spine
  cases spine with
  | root laid =>
      rcases laid.exists_treesFrom? with ⟨trees, sameLength, reads, resolves⟩
      refine ⟨rfl, ?_⟩
      have read := reads [] [] rfl
      have resolved := resolves []
      rw [List.append_nil, List.append_nil] at read
      rw [List.append_nil] at resolved
      unfold forest?
      rw [live]
      dsimp only [bind, Option.bind]
      rw [read, List.append_nil, List.reverse_reverse]
      exact resolved
  | inside tag outer laid =>
      have alone := (List.cons.inj stacked).2
      subst alone
      cases outer.stack_getLast?

end HtmlStream.Template.Machine
