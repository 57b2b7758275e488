import HtmlStream.Failure.Fault
import HtmlStream.Value.Holding
import Mathlib.Logic.Equiv.Basic

/-!
Values under other numbers. Bodies and objects are told apart by numbers that say nothing else, so
what is computed from values does not depend on which numbers they are. The main statement is
`equalsAs_renumbered`.
-/
namespace HtmlStream

/-- Other numbers for bodies and for the identities of objects. -/
structure Renumbering where
  routine : Equiv.Perm Nat
  identity : Equiv.Perm Nat

/-- What refers to bodies and objects by number. -/
class Numbered (α : Type) where
  /-- The same with other numbers. -/
  renumbered : Renumbering → α → α
  /-- Nothing in it tells the number of live frames. -/
  LacksProbe : α → Prop

export Numbered (renumbered LacksProbe)

instance : Numbered String := ⟨fun _ content => content, fun _ => True⟩

instance {α : Type} [Numbered α] : Numbered (List α) :=
  ⟨fun numbers => List.map (renumbered numbers), fun items => ∀ item ∈ items, LacksProbe item⟩

instance {α : Type} [Numbered α] : Numbered (Option α) :=
  ⟨fun numbers => Option.map (renumbered numbers), fun found => ∀ item ∈ found, LacksProbe item⟩

instance {α β : Type} [Numbered α] [Numbered β] : Numbered (α × β) :=
  ⟨fun numbers pair => (renumbered numbers pair.1, renumbered numbers pair.2),
    fun pair => LacksProbe pair.1 ∧ LacksProbe pair.2⟩

instance {ε α : Type} [Numbered ε] [Numbered α] : Numbered (Except ε α) where
  renumbered numbers
    | .ok result => .ok (renumbered numbers result)
    | .error problem => .error (renumbered numbers problem)
  LacksProbe
    | .ok result => LacksProbe result
    | .error problem => LacksProbe problem

theorem lacksProbe_none {α : Type} [Numbered α] : LacksProbe (none : Option α) :=
  fun _ found => (Option.some_ne_none _ found.symm).elim

theorem lacksProbe_some {α : Type} [Numbered α] {found : α} (lacks : LacksProbe found) :
    LacksProbe (some found) := by
  rintro _ ⟨⟩
  exact lacks

theorem lacksProbe_ok {ε α : Type} [Numbered ε] [Numbered α] {result : α}
    (lacks : LacksProbe result) : LacksProbe (Except.ok result : Except ε α) :=
  lacks

theorem lacksProbe_error {ε α : Type} [Numbered ε] [Numbered α] {problem : ε}
    (lacks : LacksProbe problem) : LacksProbe (Except.error problem : Except ε α) :=
  lacks

instance : Numbered RoutineReference :=
  ⟨fun numbers reference => { reference with index := numbers.routine reference.index },
    fun _ => True⟩

instance : Numbered Token :=
  ⟨fun numbers token => { token with identity := numbers.identity token.identity },
    fun _ => True⟩

instance : Numbered Style :=
  ⟨fun numbers style => { style with identity := numbers.identity style.identity },
    fun _ => True⟩

/-! ## Values -/

namespace Value

mutual
def renumbered (numbers : Renumbering) : Value → Value
  | .notANumber identity => .notANumber (numbers.identity identity)
  | .list items => .list (renumberedAll numbers items)
  | .tuple items => .tuple (renumberedAll numbers items)
  | .mapping entries => .mapping (renumberedEntries numbers entries)
  | .element identity type attributes children =>
      .element (numbers.identity identity) (type.renumbered numbers)
        (renumberedEntries numbers attributes) (renumberedAll numbers children)
  | .style sheet => .style (Numbered.renumbered numbers sheet)
  | .marker role type attributes children =>
      .marker role (type.renumbered numbers) (attributes.renumbered numbers)
        (children.renumbered numbers)
  | .token handle => .token (Numbered.renumbered numbers handle)
  | .provider kind source => .provider kind (source.renumbered numbers)
  | .object identity name => .object (numbers.identity identity) name
  | .safe identity content => .safe (numbers.identity identity) content
  | .routine reference => .routine (Numbered.renumbered numbers reference)
  | other => other

def renumberedAll (numbers : Renumbering) : List Value → List Value
  | [] => []
  | head :: tail => head.renumbered numbers :: renumberedAll numbers tail

def renumberedEntries (numbers : Renumbering) : List (Value × Value) → List (Value × Value)
  | [] => []
  | (key, value) :: rest =>
      (key.renumbered numbers, value.renumbered numbers) :: renumberedEntries numbers rest
end

mutual
def LacksProbe : Value → Prop
  | .depthProbe => False
  | .list items | .tuple items => AllLackProbes items
  | .mapping entries => EntriesLackProbes entries
  | .element _ type attributes children =>
      LacksProbe type ∧ EntriesLackProbes attributes ∧ AllLackProbes children
  | .marker _ type attributes children =>
      LacksProbe type ∧ LacksProbe attributes ∧ LacksProbe children
  | .provider _ source => LacksProbe source
  | _ => True

def AllLackProbes : List Value → Prop
  | [] => True
  | head :: tail => LacksProbe head ∧ AllLackProbes tail

def EntriesLackProbes : List (Value × Value) → Prop
  | [] => True
  | (key, value) :: rest => (LacksProbe key ∧ LacksProbe value) ∧ EntriesLackProbes rest
end

instance : Numbered Value := ⟨renumbered, LacksProbe⟩

variable (numbers : Renumbering)

theorem renumberedAll_eq (items : List Value) :
    renumberedAll numbers items = Numbered.renumbered numbers items := by
  induction items with
  | nil => rfl
  | cons head tail induction => exact congrArg _ induction

theorem renumberedEntries_eq (entries : Entries) :
    renumberedEntries numbers entries = Numbered.renumbered numbers entries := by
  induction entries with
  | nil => rfl
  | cons entry rest induction => exact congrArg _ induction

theorem length_renumberedAll (items : List Value) :
    (renumberedAll numbers items).length = items.length := by
  rw [renumberedAll_eq]
  exact List.length_map _

theorem length_renumberedEntries (entries : Entries) :
    (renumberedEntries numbers entries).length = entries.length := by
  rw [renumberedEntries_eq]
  exact List.length_map _

theorem allLackProbes_iff (items : List Value) :
    AllLackProbes items ↔ Numbered.LacksProbe items := by
  induction items with
  | nil => exact ⟨fun _ => nofun, fun _ => trivial⟩
  | cons head tail induction =>
      exact (and_congr_right fun _ => induction).trans List.forall_mem_cons.symm

theorem entriesLackProbes_iff (entries : Entries) :
    EntriesLackProbes entries ↔ Numbered.LacksProbe entries := by
  induction entries with
  | nil => exact ⟨fun _ => nofun, fun _ => trivial⟩
  | cons entry rest induction =>
      have cons : EntriesLackProbes (entry :: rest)
          ↔ Numbered.LacksProbe entry ∧ EntriesLackProbes rest := Iff.rfl
      exact cons.trans ((and_congr_right fun _ => induction).trans List.forall_mem_cons.symm)

/-! ## What does not depend on the numbers -/

theorem identity_beq (left right : Nat) :
    (numbers.identity left == numbers.identity right) = (left == right) := by
  rw [Bool.eq_iff_iff, beq_iff_eq, beq_iff_eq, EmbeddingLike.apply_eq_iff_eq]

theorem isText_renumbered (value : Value) : (value.renumbered numbers).isText = value.isText := by
  cases value <;> rfl

theorem isCallable_renumbered (value : Value) :
    (value.renumbered numbers).isCallable = value.isCallable := by
  cases value <;> rfl

theorem typeName_renumbered (value : Value) :
    (value.renumbered numbers).typeName = value.typeName := by
  cases value <;> rfl

theorem integer?_renumbered (value : Value) :
    (value.renumbered numbers).integer? = value.integer? := by
  cases value <;> rfl

theorem elementName_renumbered (value : Value) :
    (value.renumbered numbers).elementName = value.elementName := by
  cases value <;> rfl

theorem atomEquals_renumbered (left right : Value) :
    atomEquals (left.renumbered numbers) (right.renumbered numbers) = atomEquals left right := by
  cases left <;> cases right <;> first
    | rfl
    | simp [renumbered, atomEquals, Numbered.renumbered, renumberedEntries_eq]

mutual
theorem equalsAs_renumbered (held : Bool) (left right : Value) :
    equalsAs held (left.renumbered numbers) (right.renumbered numbers)
      = equalsAs held left right := by
  match left with
  | .notANumber _ => cases right <;> simp [renumbered, equalsAs, identity_beq]
  | .list items | .tuple items =>
      have same := itemsEqual_renumbered items
      cases right <;> simp [renumbered, equalsAs, same]
  | .mapping entries =>
      have same := entriesWithin_renumbered entries
      have atoms := atomEquals_renumbered numbers (.mapping entries) right
      have lengths := length_renumberedEntries numbers
      cases right <;> simp_all [renumbered, equalsAs]
  | .marker _ type attributes children =>
      have types := equalsAs_renumbered true type
      have attributes := equalsAs_renumbered true attributes
      have children := equalsAs_renumbered true children
      cases right <;> simp [renumbered, equalsAs, types, attributes, children]
  | .provider _ source =>
      have sources := equalsAs_renumbered true source
      cases right <;> simp [renumbered, equalsAs, sources]
  | .null | .boolean _ | .integer _ | .float _ | .text _ | .markup _ | .element .. | .style _
  | .fragment | .token _ | .settings _ | .object .. | .safe .. | .routine _ | .component _
  | .mappingType | .depthProbe => exact atomEquals_renumbered numbers _ right

theorem itemsEqual_renumbered (left right : List Value) :
    itemsEqual (renumberedAll numbers left) (renumberedAll numbers right)
      = itemsEqual left right := by
  match left, right with
  | [], [] | [], _ :: _ | _ :: _, [] => rfl
  | head :: tail, other :: others =>
      simp only [renumberedAll, itemsEqual, equalsAs_renumbered true head other,
        itemsEqual_renumbered tail others]

theorem entriesWithin_renumbered (left right : List (Value × Value)) :
    entriesWithin (renumberedEntries numbers left) (renumberedEntries numbers right)
      = entriesWithin left right := by
  match left with
  | [] => rfl
  | (key, value) :: rest =>
      have keys := equalsAs_renumbered true key
      have values := equalsAs_renumbered true value
      simp only [renumberedEntries, entriesWithin, entriesWithin_renumbered rest right]
      rw [renumberedEntries_eq]
      simp only [Numbered.renumbered, List.any_map, Function.comp_def, keys, values]
end

theorem matchesItem_renumbered (left right : Value) :
    (left.renumbered numbers).matchesItem (right.renumbered numbers) = left.matchesItem right :=
  equalsAs_renumbered numbers true left right

/-! ## How values are shown -/

theorem inspectAtom_renumbered (value : Value) :
    (value.renumbered numbers).inspectAtom = value.inspectAtom := by
  cases value <;> rfl

mutual
theorem inspect_renumbered (value : Value) :
    (value.renumbered numbers).inspect = value.inspect := by
  match value with
  | .list items =>
      exact congrArg ("[" ++ commaSeparated · ++ "]") (inspectItems_renumbered items)
  | .tuple [] => rfl
  | .tuple [item] => exact congrArg ("(" ++ · ++ ",)") (inspect_renumbered item)
  | .tuple (first :: second :: rest) =>
      exact congrArg ("(" ++ commaSeparated · ++ ")")
        (inspectItems_renumbered (first :: second :: rest))
  | .mapping entries =>
      exact congrArg ("\x7b" ++ commaSeparated · ++ "\x7d") (inspectEntries_renumbered entries)
  | .element _ type attributes children =>
      show "<Element " ++ elementName (type.renumbered numbers)
          ++ " props=\x7b" ++ commaSeparated (inspectEntries (renumberedEntries numbers attributes))
          ++ "\x7d children=" ++ toString (renumberedAll numbers children).length ++ ">" = _
      rw [elementName_renumbered, inspectEntries_renumbered attributes, length_renumberedAll]
      rfl
  | .marker role type attributes children =>
      show role.typeName ++ "(type=" ++ (type.renumbered numbers).inspect
          ++ ", props=" ++ (attributes.renumbered numbers).inspect
          ++ ", children=" ++ (children.renumbered numbers).inspect ++ ")" = _
      rw [inspect_renumbered type, inspect_renumbered attributes, inspect_renumbered children]
      rfl
  | .provider kind source =>
      exact congrArg ("Provider(kind=<ProviderKind." ++ kind.name.toUpper ++ ": '" ++ kind.name
        ++ "'>, source=" ++ · ++ ")") (inspect_renumbered source)
  | .null | .boolean _ | .integer _ | .float _ | .notANumber _ | .text _ | .markup _ | .style _
  | .fragment | .token _ | .settings _ | .object .. | .safe .. | .routine _ | .component _
  | .mappingType | .depthProbe => exact inspectAtom_renumbered numbers _

theorem inspectItems_renumbered (items : List Value) :
    inspectItems (renumberedAll numbers items) = inspectItems items := by
  match items with
  | [] => rfl
  | head :: tail =>
      exact congrArg₂ List.cons (inspect_renumbered head) (inspectItems_renumbered tail)

theorem inspectEntries_renumbered (entries : List (Value × Value)) :
    inspectEntries (renumberedEntries numbers entries) = inspectEntries entries := by
  match entries with
  | [] => rfl
  | (key, value) :: rest =>
      have shown : (key.renumbered numbers).inspect ++ ": " ++ (value.renumbered numbers).inspect
          = key.inspect ++ ": " ++ value.inspect := by
        rw [inspect_renumbered key, inspect_renumbered value]
      exact congrArg₂ List.cons shown (inspectEntries_renumbered rest)
end

mutual
theorem isWritable_renumbered (value : Value) :
    (value.renumbered numbers).isWritable = value.isWritable := by
  match value with
  | .list items | .tuple items => exact areWritable_renumbered items
  | .mapping entries | .element _ _ entries _ => exact entriesAreWritable_renumbered entries
  | .marker _ type attributes children =>
      simp only [renumbered, isWritable, isWritable_renumbered type,
        isWritable_renumbered attributes, isWritable_renumbered children]
  | .provider _ source => exact isWritable_renumbered source
  | .null | .boolean _ | .integer _ | .float _ | .notANumber _ | .text _ | .markup _ | .style _
  | .fragment | .token _ | .settings _ | .object .. | .safe .. | .routine _ | .component _
  | .mappingType | .depthProbe => rfl

theorem areWritable_renumbered (items : List Value) :
    areWritable (renumberedAll numbers items) = areWritable items := by
  match items with
  | [] => rfl
  | head :: tail =>
      simp only [renumberedAll, areWritable, isWritable_renumbered head,
        areWritable_renumbered tail]

theorem entriesAreWritable_renumbered (entries : List (Value × Value)) :
    entriesAreWritable (renumberedEntries numbers entries) = entriesAreWritable entries := by
  match entries with
  | [] => rfl
  | (key, value) :: rest =>
      simp only [renumberedEntries, entriesAreWritable, isWritable_renumbered key,
        isWritable_renumbered value, entriesAreWritable_renumbered rest]
end

theorem toText_renumbered (value : Value) : (value.renumbered numbers).toText = value.toText := by
  cases value with
  | text | markup => rfl
  | _ => exact inspect_renumbered numbers _

theorem written_renumbered (value : Value) :
    (value.renumbered numbers).written = value.written := by
  unfold written
  rw [isWritable_renumbered, toText_renumbered]

/-! ## What values hold -/

mutual
theorem holds_renumbered (index : Nat) (value : Value) :
    (value.renumbered numbers).holds (numbers.routine index) = value.holds index := by
  match value with
  | .routine reference =>
      simp [renumbered, Numbered.renumbered, holds]
  | .list items | .tuple items => exact holdsAmong_renumbered index items
  | .mapping entries => exact holdsWithin_renumbered index entries
  | .element _ type attributes children =>
      simp only [renumbered, holds, holds_renumbered index type,
        holdsWithin_renumbered index attributes, holdsAmong_renumbered index children]
  | .marker _ type attributes children =>
      simp only [renumbered, holds, holds_renumbered index type,
        holds_renumbered index attributes, holds_renumbered index children]
  | .provider _ source => exact holds_renumbered index source
  | .null | .boolean _ | .integer _ | .float _ | .notANumber _ | .text _ | .markup _ | .style _
  | .fragment | .token _ | .settings _ | .object .. | .safe .. | .component _ | .mappingType
  | .depthProbe => rfl

theorem holdsAmong_renumbered (index : Nat) (items : List Value) :
    holdsAmong (numbers.routine index) (renumberedAll numbers items) = holdsAmong index items := by
  match items with
  | [] => rfl
  | head :: tail =>
      simp only [renumberedAll, holdsAmong, holds_renumbered index head,
        holdsAmong_renumbered index tail]

theorem holdsWithin_renumbered (index : Nat) (entries : List (Value × Value)) :
    holdsWithin (numbers.routine index) (renumberedEntries numbers entries)
      = holdsWithin index entries := by
  match entries with
  | [] => rfl
  | (key, value) :: rest =>
      simp only [renumberedEntries, holdsWithin, holds_renumbered index key,
        holds_renumbered index value, holdsWithin_renumbered index rest]
end

end Value
end HtmlStream
