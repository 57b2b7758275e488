/-!
Documents: plain data in which scripts are written down.
-/
namespace HtmlStream.Script

inductive Document where
  | null
  | boolean (value : Bool)
  | integer (value : Int)
  | text (content : String)
  | list (items : List Document)
  /-- Named fields, each name once. -/
  | record (fields : List (String × Document))
  deriving Inhabited

structure NotationFault where
  expected : String

abbrev Reading := Except NotationFault

namespace Document

def mismatch {α : Type} (expected : String) : Reading α :=
  .error ⟨expected⟩

def field? (name : String) : Document → Option Document
  | .record fields => (fields.find? fun field => field.1 == name).map Prod.snd
  | _ => none

theorem sizeOf_lt_of_field? {document inner : Document} {name : String}
    (found : document.field? name = some inner) : sizeOf inner < sizeOf document := by
  cases document with
  | record fields =>
      simp only [field?, Option.map_eq_some_iff] at found
      rcases found with ⟨entry, located, rfl⟩
      have smaller := List.sizeOf_lt_of_mem (List.mem_of_find?_eq_some located)
      have second : sizeOf entry.2 < sizeOf entry := by
        cases entry
        simp only [Prod.mk.sizeOf_spec]
        omega
      simp only [record.sizeOf_spec]
      omega
  | _ => simp [field?] at found

def hasField (document : Document) (name : String) : Bool :=
  (document.field? name).isSome

def field (name : String) (document : Document) : Document :=
  (document.field? name).getD .null

def toText : Document → Reading String
  | .text content => .ok content
  | _ => mismatch "text"

def toInteger : Document → Reading Int
  | .integer value => .ok value
  | _ => mismatch "integer"

def toCount (document : Document) : Reading Nat := do
  return (← document.toInteger).toNat

def toFlag : Document → Reading Bool
  | .boolean value => .ok value
  | _ => mismatch "boolean"

/-- The items of a list; null has none. -/
def toItems : Document → Reading (List Document)
  | .list items => .ok items
  | .null => .ok []
  | _ => mismatch "list"

/-- The fields of a record; null has none. -/
def toFields : Document → Reading (List (String × Document))
  | .record fields => .ok fields
  | .null => .ok []
  | _ => mismatch "record"

def optional {α : Type} (read : Document → Reading α) : Document → Reading (Option α)
  | .null => .ok none
  | document => do return some (← read document)

/-- A document that may be null, in which case the default stands for it. -/
def orDefault {α : Type} (read : Document → Reading α) (default : α) (document : Document) :
    Reading α := do
  return (← document.optional read).getD default

/-- A number as it is written, which may be a number of the document. -/
def toNumeral : Document → Reading String
  | .text content => .ok content
  | .integer value => .ok (toString value)
  | _ => mismatch "numeral"

end Document
end HtmlStream.Script
