import HtmlStream.Value.Basic

/-!
Which bodies a value holds, itself or in its parts.
-/
namespace HtmlStream.Value

mutual
def holds (index : Nat) : Value → Bool
  | .routine reference => reference.index == index
  | .list items | .tuple items => holdsAmong index items
  | .mapping entries => holdsWithin index entries
  | .element _ type attributes children =>
      holds index type || holdsWithin index attributes || holdsAmong index children
  | .marker _ type attributes children =>
      holds index type || holds index attributes || holds index children
  | .provider _ source => holds index source
  | _ => false

def holdsAmong (index : Nat) : List Value → Bool
  | [] => false
  | head :: tail => holds index head || holdsAmong index tail

def holdsWithin (index : Nat) : List (Value × Value) → Bool
  | [] => false
  | (key, value) :: rest => holds index key || holds index value || holdsWithin index rest
end

end HtmlStream.Value
