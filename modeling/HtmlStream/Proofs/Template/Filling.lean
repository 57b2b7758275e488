import HtmlStream.Proofs.Template.Parsing
import HtmlStream.Template.Fill

/-!
Filling the nodes of a tree gives an element that is this tree. No two attributes of a tag have one
name, so each that is set comes last.
-/
namespace HtmlStream

namespace Entries

theorem insert_of_absent {key value : Value} {entries : Entries}
    (absent : ∀ entry ∈ entries, entry.1.matchesItem key = false) :
    insert key value entries = entries ++ [(key, value)] := by
  induction entries with
  | nil => rfl
  | cons head tail induction =>
      have later := induction fun entry member => absent entry (List.mem_cons_of_mem head member)
      rw [insert, absent head List.mem_cons_self, later]
      rfl

end Entries

namespace Template

variable (values : List Value)

/-! ## Attributes -/

def Tree.toEntry : String × Option String → Value × Value
  | (name, none) => (.text name, .boolean true)
  | (name, some content) => (.text name, .text content)

theorem Tree.toEntry_fst (entry : String × Option String) : (toEntry entry).1 = .text entry.1 := by
  rcases entry with ⟨name, _ | content⟩ <;> rfl

theorem fill_toAttribute (before : Entries) (entry : String × Option String) :
    (Tree.toAttribute entry).fill values before
      = .ok (before.insert (Tree.toEntry entry).1 (Tree.toEntry entry).2) := by
  rcases entry with ⟨name, _ | content⟩ <;> rfl

theorem absent_of_not_mem {name : String} {before : List (String × Option String)}
    (fresh : name ∉ before.map Prod.fst) :
    ∀ entry ∈ before.map Tree.toEntry, entry.1.matchesItem (.text name) = false := by
  intro entry member
  rcases List.mem_map.mp member with ⟨earlier, given, rfl⟩
  have differs : earlier.1 ≠ name := fun same => fresh (same ▸ List.mem_map_of_mem given)
  rw [Tree.toEntry_fst]
  show (earlier.1 == name) = false
  exact beq_eq_false_iff_ne.mpr differs

theorem fillAttributes_from (before attributes : List (String × Option String))
    (distinct : ((before ++ attributes).map Prod.fst).Nodup) :
    (attributes.map Tree.toAttribute).foldlM (Attribute.fill values) (before.map Tree.toEntry)
      = .ok ((before ++ attributes).map Tree.toEntry) := by
  induction attributes generalizing before with
  | nil => rw [List.append_nil]; rfl
  | cons entry others induction =>
      have fresh : entry.1 ∉ before.map Prod.fst := by
        rw [List.map_append, List.map_cons] at distinct
        exact fun given => (List.nodup_append.mp distinct).2.2 _ given _ List.mem_cons_self rfl
      have set := fill_toAttribute values (before.map Tree.toEntry) entry
      rw [Entries.insert_of_absent (by rw [Tree.toEntry_fst]; exact absent_of_not_mem fresh)] at set
      have regrouped : before ++ entry :: others = (before ++ [entry]) ++ others := by
        rw [List.append_assoc]
        rfl
      rw [regrouped] at distinct ⊢
      rw [List.map_cons, List.foldlM_cons, set, ← induction (before ++ [entry]) distinct,
        List.map_append]
      rfl

theorem fillAttributes_toAttribute {attributes : List (String × Option String)}
    (distinct : (attributes.map Prod.fst).Nodup) :
    fillAttributes values (attributes.map Tree.toAttribute) = .ok (attributes.map Tree.toEntry) :=
  fillAttributes_from values [] attributes distinct

theorem mapM_literalAttribute? (attributes : List (String × Option String)) :
    (attributes.map Tree.toEntry).mapM (Value.literalAttribute? true) = some attributes := by
  induction attributes with
  | nil => rfl
  | cons entry others induction =>
      have literal : Value.literalAttribute? true (Tree.toEntry entry) = some entry := by
        rcases entry with ⟨name, _ | content⟩ <;> rfl
      rw [List.map_cons, List.mapM_cons, literal, induction]
      rfl

/-! ## Inversion -/

section Inversion

variable {values : List Value} {start next : Nat}

theorem exists_of_bind_eq_ok {ε α β : Type} {first : Except ε α} {later : α → Except ε β}
    {result : β} (done : first >>= later = .ok result) :
    ∃ given, first = .ok given ∧ later given = .ok result := by
  cases first with
  | error problem => cases done
  | ok given => exact ⟨given, rfl, done⟩

theorem eq_ok_of_mapError {ε δ α : Type} {result : Except ε α} {change : ε → δ} {value : α}
    (mapped : result.mapError change = .ok value) : result = .ok value := by
  cases result with
  | error problem => cases mapped
  | ok given => exact congrArg Except.ok (Except.ok.inj mapped)

/-- What is read as markup has all strings and values, and its strings can be read. -/
theorem eq_ok_of_readMarkup {template : Template} {markup : Markup}
    (read : readMarkup (.template template) = .ok markup) :
    template.strings.length = template.interpolations.length + 1 ∧
      readStrings template.strings = .ok markup.nodes ∧ template.values = .ok markup.values := by
  unfold readMarkup at read
  rcases exists_of_bind_eq_ok read with ⟨checked, checks, read⟩
  rcases exists_of_bind_eq_ok read with ⟨nodes, accepted, read⟩
  rcases exists_of_bind_eq_ok read with ⟨values, evaluated, read⟩
  cases read
  have checks := eq_ok_of_mapError checks
  unfold check at checks
  dsimp only at checks
  split at checks
  · next counted =>
      cases checks
      exact ⟨counted, eq_ok_of_mapError accepted, eq_ok_of_mapError evaluated⟩
  · cases checks

theorem toValue_of_make {number : Nat} {type : Value} {attributes : Entries}
    {children : List Value} {element : Element}
    (made : Element.make number type attributes children = .ok element) :
    element = ⟨number, type, attributes, children⟩ := by
  unfold Element.make at made
  split at made
  · exact (Except.ok.inj made).symm
  · cases made

/-- An element has the type and the attributes of its tag, and the values of the nodes below. -/
theorem exists_of_fill_element {tag : Tag} {children : List Node} {value : Value}
    (filled : Node.fill values start (.element tag children) = .ok (value, next)) :
    ∃ attributes inner number, fillAttributes values tag.attributes = .ok attributes ∧
      fillNodes values start children = .ok (inner, number) ∧
      value = .element number (tag.name.fill values) attributes inner := by
  rw [Node.fill] at filled
  rcases exists_of_bind_eq_ok filled with ⟨attributes, own, filled⟩
  rcases exists_of_bind_eq_ok filled with ⟨⟨inner, number⟩, below, filled⟩
  rcases exists_of_bind_eq_ok filled with ⟨element, made, filled⟩
  cases filled
  exact ⟨attributes, inner, number, own, below, by rw [toValue_of_make made]; rfl⟩

theorem exists_of_fillNodes_cons {head : Node} {tail : List Node} {made : List Value}
    (filled : fillNodes values start (head :: tail) = .ok (made, next)) :
    ∃ value others between, head.fill values start = .ok (value, between) ∧
      fillNodes values between tail = .ok (others, next) ∧ made = value :: others := by
  rw [fillNodes] at filled
  rcases exists_of_bind_eq_ok filled with ⟨⟨value, between⟩, first, filled⟩
  rcases exists_of_bind_eq_ok filled with ⟨⟨others, last⟩, later, filled⟩
  cases filled
  exact ⟨value, others, between, first, later, rfl⟩

end Inversion

/-! ## Trees -/

mutual
theorem exists_fill_toNode (tree : Tree) (start : Nat) (names : tree.HasReadableNames) :
    ∃ value next, tree.toNode.fill values start = .ok (value, next) ∧
      value.tree? true = some tree := by
  cases tree with
  | text content => exact ⟨_, _, rfl, rfl⟩
  | element name attributes children =>
      rw [Tree.HasReadableNames] at names
      rcases names with ⟨_, _, distinct, _, childNames⟩
      rcases exists_fillNodes_toNodes children start childNames with ⟨inner, next, filled, trees⟩
      refine ⟨.element next (.text name) (attributes.map Tree.toEntry) inner, next + 1, ?_, ?_⟩
      · rw [Tree.toNode, Node.fill, fillAttributes_toAttribute values distinct, filled]
        rfl
      · rw [Value.tree?, mapM_literalAttribute?, trees]
        rfl

theorem exists_fillNodes_toNodes (trees : List Tree) (start : Nat)
    (names : Tree.HaveReadableNames trees) :
    ∃ inner next, fillNodes values start (Tree.toNodes trees) = .ok (inner, next) ∧
      Value.trees? true inner = some trees := by
  cases trees with
  | nil => exact ⟨_, _, rfl, rfl⟩
  | cons head tail =>
      rw [Tree.HaveReadableNames] at names
      rcases exists_fill_toNode head start names.1 with ⟨value, between, first, tree⟩
      rcases exists_fillNodes_toNodes tail between names.2 with ⟨others, next, later, rest⟩
      refine ⟨value :: others, next, ?_, ?_⟩
      · rw [Tree.toNodes, fillNodes, first]
        show (do
          let (rest, next) ← fillNodes values between (Tree.toNodes tail)
          return (value :: rest, next)) = _
        rw [later]
        rfl
      · rw [Value.trees?, tree, rest]
        rfl
end

end Template
end HtmlStream
