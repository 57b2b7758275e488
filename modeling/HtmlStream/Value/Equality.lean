import HtmlStream.Value.Basic
import HtmlStream.Decimal.Binary

/-!
Equality of values. Numbers are equal by value across their kinds, text and markup by content,
collections by what they hold; everything that has an identity is equal only to itself. Within
collections, what is the same object counts as equal, so a float that is no number is found there.
-/
namespace HtmlStream

def integerOfFloat? (number : Float) : Option Int :=
  match Decimal.BinaryValue.ofFloat number with
  | .finite negative significand exponent =>
      let value := Decimal.Ratio.ofBinary significand exponent
      if value.numerator % value.denominator = 0 then
        let magnitude : Int := value.numerator / value.denominator
        some (if negative then -magnitude else magnitude)
      else none
  | _ => none

namespace Value

def integer? : Value → Option Int
  | .boolean value => some (if value then 1 else 0)
  | .integer value => some value
  | _ => none

def atomEquals (left right : Value) : Bool :=
  match left, right with
  | .null, .null | .fragment, .fragment | .mappingType, .mappingType
  | .depthProbe, .depthProbe => true
  | .float left, .float right => left == right
  | .text left, .text right | .text left, .markup right
  | .markup left, .text right | .markup left, .markup right => left == right
  | .element left .., .element right .. => left == right
  | .style left, .style right => left.identity == right.identity
  | .token left, .token right => left.identity == right.identity
  | .settings left, .settings right => left.equals right
  | .object left _, .object right _ | .safe left _, .safe right _ => left == right
  | .routine left, .routine right => left.index == right.index
  | .component left, .component right =>
      left.name == right.name || (!left.hashable && !right.hashable)
  | .component reference, .mapping entries | .mapping entries, .component reference =>
      !reference.hashable && entries.isEmpty
  | left, right =>
      match left.integer?, right.integer? with
      | some left, some right => left == right
      | some whole, none =>
          match right with
          | .float number => integerOfFloat? number == some whole
          | _ => false
      | none, some whole =>
          match left with
          | .float number => integerOfFloat? number == some whole
          | _ => false
      | none, none => false

mutual
/-- Equality of two values. Where both are `held` by collections, one object is equal to itself even
if it is no number. -/
def equalsAs (held : Bool) (left right : Value) : Bool :=
  match left with
  | .notANumber leftIdentity =>
      match right with
      | .notANumber rightIdentity => held && leftIdentity == rightIdentity
      | _ => false
  | .list leftItems =>
      match right with
      | .list rightItems => itemsEqual leftItems rightItems
      | _ => false
  | .tuple leftItems =>
      match right with
      | .tuple rightItems => itemsEqual leftItems rightItems
      | _ => false
  | .mapping leftEntries =>
      match right with
      | .mapping rightEntries =>
          leftEntries.length == rightEntries.length && entriesWithin leftEntries rightEntries
      | other => atomEquals (.mapping leftEntries) other
  | .marker leftRole leftType leftAttributes leftChildren =>
      match right with
      | .marker rightRole rightType rightAttributes rightChildren =>
          leftRole == rightRole && equalsAs true leftType rightType
            && equalsAs true leftAttributes rightAttributes
            && equalsAs true leftChildren rightChildren
      | _ => false
  | .provider leftKind leftSource =>
      match right with
      | .provider rightKind rightSource =>
          leftKind == rightKind && equalsAs true leftSource rightSource
      | _ => false
  | other => atomEquals other right

def itemsEqual (left right : List Value) : Bool :=
  match left with
  | [] => right.isEmpty
  | head :: tail =>
      match right with
      | [] => false
      | other :: others => equalsAs true head other && itemsEqual tail others

/-- Whether each entry on the left has an equal one on the right, in any order. -/
def entriesWithin (left right : List (Value × Value)) : Bool :=
  match left with
  | [] => true
  | (key, value) :: rest =>
      right.any (fun entry => equalsAs true key entry.1 && equalsAs true value entry.2)
        && entriesWithin rest right
end

def equals (left right : Value) : Bool :=
  equalsAs false left right

def matchesItem (left right : Value) : Bool :=
  equalsAs true left right

mutual
/-- The part of a value that keeps it from being a key, if there is one: collections that could
change are no keys, nor is anything that holds one. -/
def unhashablePart? : Value → Option Value
  | .list items => some (.list items)
  | .mapping entries => some (.mapping entries)
  | .tuple items => unhashableItem? items
  | .marker _ type attributes children =>
      match unhashablePart? type, unhashablePart? attributes with
      | some part, _ | none, some part => some part
      | none, none => unhashablePart? children
  | .provider _ source => unhashablePart? source
  | .component reference =>
      if reference.hashable then none else some (.component reference)
  | _ => none

def unhashableItem? : List Value → Option Value
  | [] => none
  | head :: tail =>
      match unhashablePart? head with
      | some part => some part
      | none => unhashableItem? tail
end

end Value

namespace Entries

def get? (entries : Entries) (key : Value) : Option Value :=
  (entries.find? fun entry => entry.1.matchesItem key).map Prod.snd

/-- Set the value of `key`: a key that is there keeps its place, a new one comes last. -/
def insert (key value : Value) : Entries → Entries
  | [] => [(key, value)]
  | entry :: rest =>
      if entry.1.matchesItem key then (entry.1, value) :: rest else entry :: insert key value rest

def merge (entries additions : Entries) : Entries :=
  additions.foldl (fun merged entry => insert entry.1 entry.2 merged) entries

end Entries
end HtmlStream
