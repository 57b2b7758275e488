import HtmlStream.Proofs.Component.Binding
import HtmlStream.Value.Mention

/-!
Setting keys one after the other gives what was mentioned last. All mentions of one key act on the entry
that the first of them made, so they can be taken out of the others and looked at first.
-/
namespace HtmlStream

namespace Value

variable {key other : Value} {name : String}

theorem name?_eq_some : key.name? = some name ↔ key.IsNamed name := by
  cases key <;> simp [name?, IsNamed]

theorem IsNamed.matchesItem_eq_name? (named : key.IsNamed name) (other : Value) :
    key.matchesItem other = (other.name? == some name) := by
  rcases named with rfl | rfl <;> cases other <;>
    simp [matchesItem, equalsAs, atomEquals, integer?, name?, Bool.beq_comm]

/-- Instead of a key that is a text, this text can be looked for. -/
theorem IsNamed.matchesItem_left_eq (named : other.IsNamed name) (key : Value) :
    key.matchesItem other = key.matchesItem (.text name) := by
  rcases named with rfl | rfl
  · rfl
  · cases key <;> rfl

end Value

namespace Entries

variable {key value : Value} {mention : Value × Value} {name : String}

/-! ## One key after the other -/

theorem only_cons (key : Value) (mention : Value × Value) (later : Entries) :
    only key (mention :: later)
      = if key.matchesItem mention.1 then mention :: only key later else only key later :=
  List.filter_cons

theorem without_cons (key : Value) (mention : Value × Value) (later : Entries) :
    without key (mention :: later)
      = if key.matchesItem mention.1 then without key later else mention :: without key later := by
  unfold without
  rw [List.filter_cons]
  cases key.matchesItem mention.1 <;> rfl

theorem merge_append (entries first second : Entries) :
    entries.merge (first ++ second) = (entries.merge first).merge second :=
  List.foldl_append

/-- The first entry takes the last value that its key is mentioned with, and the other entries take
what is mentioned without its key. -/
theorem merge_cons_left (key value : Value) (entries mentions : Entries) :
    merge ((key, value) :: entries) mentions
      = (key, ((only key mentions).getLast?.map Prod.snd).getD value)
        :: entries.merge (without key mentions) := by
  induction mentions generalizing value entries with
  | nil => rfl
  | cons mention later induction =>
      show merge (insert mention.1 mention.2 ((key, value) :: entries)) later = _
      rw [insert, only_cons, without_cons]
      cases matched : key.matchesItem mention.1 with
      | true =>
          rw [if_pos rfl, if_pos rfl, if_pos rfl, induction, List.getLast?_cons]
          cases (only key later).getLast? <;> rfl
      | false =>
          rw [if_neg Bool.false_ne_true, if_neg Bool.false_ne_true, if_neg Bool.false_ne_true]
          exact induction value (insert mention.1 mention.2 entries)

theorem merge_nil_left (mentions : Entries) : merge [] mentions = byLastMention mentions := by
  induction mentions using byLastMention.induct with
  | case1 => rw [byLastMention]; rfl
  | case2 key value later induction =>
      rw [byLastMention, ← induction]
      exact merge_cons_left key value [] later

/-! ## Names -/

theorem names_cons_of_isNamed (named : mention.1.IsNamed name) (later : Entries) :
    names (mention :: later) = name :: names later :=
  List.filterMap_cons_some (Value.name?_eq_some.mpr named)

theorem names_cons_of_unnamed (unnamed : mention.1.name? = none) (later : Entries) :
    names (mention :: later) = names later :=
  List.filterMap_cons_none unnamed

/-- Taking the entries of a key out of others takes out its name. -/
theorem names_without (key : Value) (entries : Entries) :
    names (without key entries)
      = (names entries).filter (fun name => !key.matchesItem (.text name)) := by
  induction entries with
  | nil => rfl
  | cons entry later induction =>
      rw [without_cons]
      cases named : entry.1.name? with
      | none =>
          rw [names_cons_of_unnamed named, ← induction]
          split
          · rfl
          · exact names_cons_of_unnamed named _
      | some name =>
          have isNamed := Value.name?_eq_some.mp named
          rw [names_cons_of_isNamed isNamed, List.filter_cons, ← induction,
            isNamed.matchesItem_left_eq]
          cases key.matchesItem (.text name) with
          | true => rfl
          | false => exact names_cons_of_isNamed isNamed _

theorem names_byLastMention (mentions : Entries) :
    (byLastMention mentions).names = mentions.names.eraseDups := by
  induction mentions using byLastMention.induct with
  | case1 => rw [byLastMention]; rfl
  | case2 key value later induction =>
      rw [names_without] at induction
      rw [byLastMention]
      cases named : key.name? with
      | none =>
          have unmatched : ∀ name ∈ names later, (!key.matchesItem (.text name)) = true := by
            intro name _
            rw [Bool.not_eq_true']
            refine Bool.eq_false_iff.mpr fun matched => ?_
            rw [Value.name?_eq_some.mpr (Value.matchesItem_text.mp matched)] at named
            cases named
          rw [List.filter_eq_self.mpr unmatched] at induction
          rw [names_cons_of_unnamed named, names_cons_of_unnamed named, induction]
      | some name =>
          have isNamed := Value.name?_eq_some.mp named
          have others : (fun other => !key.matchesItem (.text other))
              = (fun other => !other == name) := by
            funext other
            rw [isNamed.matchesItem_eq, Bool.beq_comm]
          rw [names_cons_of_isNamed isNamed, names_cons_of_isNamed isNamed, List.eraseDups_cons,
            induction, others]

/-! ## Values -/

theorem lastNamed?_cons_of_isNamed (named : key.IsNamed name) (value : Value) (later : Entries) :
    lastNamed? ((key, value) :: later) name
      = some (((only key later).getLast?.map Prod.snd).getD value) := by
  have here : (key.name? == some name) = true := beq_iff_eq.mpr (Value.name?_eq_some.mpr named)
  have alike : only key later = later.filter (·.1.name? == some name) :=
    List.filter_congr fun entry _ => named.matchesItem_eq_name? entry.1
  rw [lastNamed?, List.filter_cons, if_pos here, List.getLast?_cons, ← alike]
  cases (only key later).getLast? <;> rfl

theorem lastNamed?_cons_of_unmatched (unmatched : key.matchesItem (.text name) = false)
    (value : Value) (later : Entries) :
    lastNamed? ((key, value) :: later) name = lastNamed? (without key later) name := by
  have unnamed : ¬ (key.name? == some name) = true := by
    intro named
    rw [Value.matchesItem_text.mpr (Value.name?_eq_some.mp (beq_iff_eq.mp named))] at unmatched
    cases unmatched
  have kept : (without key later).filter (·.1.name? == some name)
      = later.filter (·.1.name? == some name) := by
    rw [without, List.filter_filter]
    refine List.filter_congr fun entry _ => ?_
    cases named : entry.1.name? == some name with
    | false => rfl
    | true =>
        rw [(Value.name?_eq_some.mp (beq_iff_eq.mp named)).matchesItem_left_eq, unmatched]
        rfl
  rw [lastNamed?, List.filter_cons, if_neg unnamed, lastNamed?, kept]

theorem get?_byLastMention (mentions : Entries) (name : String) :
    (byLastMention mentions).get? (.text name) = mentions.lastNamed? name := by
  induction mentions using byLastMention.induct with
  | case1 => rw [byLastMention]; rfl
  | case2 key value later induction =>
      rw [byLastMention, get?_cons]
      cases matched : key.matchesItem (.text name) with
      | true =>
          rw [if_pos rfl, lastNamed?_cons_of_isNamed (Value.matchesItem_text.mp matched)]
      | false =>
          rw [if_neg Bool.false_ne_true, lastNamed?_cons_of_unmatched matched, induction]

theorem holdsLast_merge (mentions : Entries) : HoldsLast mentions (merge [] mentions) where
  held_eq := merge_nil_left mentions
  names := by rw [merge_nil_left, names_byLastMention]
  value name := by rw [merge_nil_left, get?_byLastMention]

end Entries
end HtmlStream
