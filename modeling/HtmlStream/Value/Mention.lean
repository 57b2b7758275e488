import HtmlStream.Value.Equality
import HtmlStream.Template.Tree

/-!
What a mapping holds after keys were mentioned with values, some of them several times.
-/
namespace HtmlStream.Entries

/-- The entries of a key. -/
def only (key : Value) (entries : Entries) : Entries :=
  entries.filter (key.matchesItem ·.1)

/-- The entries of other keys. -/
def without (key : Value) (entries : Entries) : Entries :=
  entries.filter (!key.matchesItem ·.1)

theorem length_without_le (key : Value) (entries : Entries) :
    (without key entries).length ≤ entries.length :=
  List.length_filter_le _ _

/-- Each key once, in the order of first mentions, with the value of its last mention. A key that is
mentioned again stays the one that was mentioned first. -/
def byLastMention : Entries → Entries
  | [] => []
  | (key, value) :: later =>
      (key, ((only key later).getLast?.map Prod.snd).getD value) :: byLastMention (without key later)
termination_by mentions => mentions.length
decreasing_by exact Nat.lt_succ_of_le (length_without_le ..)

/-- The keys that are names, in their order. -/
def names (entries : Entries) : List String :=
  entries.filterMap (·.1.name?)

/-- The value that a name is mentioned with for the last time. -/
def lastNamed? (entries : Entries) (name : String) : Option Value :=
  (entries.filter (·.1.name? == some name)).getLast?.map Prod.snd

/-- A mapping holds what was mentioned last. -/
structure HoldsLast (mentions held : Entries) : Prop where
  held_eq : held = byLastMention mentions
  /-- Each name that is mentioned is there once, where it was mentioned first. -/
  names : held.names = mentions.names.eraseDups
  value : ∀ name, held.get? (.text name) = mentions.lastNamed? name

end HtmlStream.Entries
