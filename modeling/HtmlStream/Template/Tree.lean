import HtmlStream.Template.Event
import HtmlStream.Value.Basic

/-!
Trees of literal tags: what an element amounts to whose types are tag names and whose children are
texts and such elements, apart from identities. A tree can be written as markup; what is read from
that markup is the tree with its text runs joined and trimmed.
-/
namespace HtmlStream

namespace Template

inductive Tree where
  | text (content : String)
  /-- An attribute without a text is just set. -/
  | element (name : String) (attributes : List (String × Option String)) (children : List Tree)

namespace Tree

/-- The child that a run of text is read as, unless trimming leaves nothing of it. -/
@[irreducible]
def ofRun (run : String) : List Tree :=
  let trimmed := Text.trimBreaks run.toList
  if trimmed.isEmpty then [] else [.text (String.ofList trimmed)]

mutual
/-- The tree as it is read: adjacent texts are joined and trimmed at line breaks. -/
def normalized : Tree → Tree
  | .text content => .text content
  | .element name attributes children => .element name attributes (gathered "" children)

/-- The children as they are read after a run of text. -/
def gathered (run : String) : List Tree → List Tree
  | [] => ofRun run
  | .text content :: rest => gathered (run ++ content) rest
  | .element name attributes children :: rest =>
      ofRun run ++ normalized (.element name attributes children) :: gathered "" rest
end

mutual
/-- Every text and every attribute text changed. -/
def mapTexts (change : String → String) : Tree → Tree
  | .text content => .text (change content)
  | .element name attributes children =>
      .element name (attributes.map fun entry => (entry.1, entry.2.map change))
        (mapAllTexts change children)

def mapAllTexts (change : String → String) : List Tree → List Tree
  | [] => []
  | head :: tail => mapTexts change head :: mapAllTexts change tail
end

structure IsTagName (name : String) : Prop where
  nonempty : name ≠ ""
  unbroken : ∀ character ∈ name.toList,
    Text.isBlank character = false ∧ character ≠ '/' ∧ character ≠ '>'
  noComment : ¬ "!--".toList <+: name.toList
  noDeclaration : ¬ "!doctype".toList <+: (Text.lowercase name).toList

structure IsAttributeName (name : String) : Prop where
  nonempty : name ≠ ""
  notChildren : name ≠ "children"
  unbroken : ∀ character ∈ name.toList,
    Text.isBlank character = false ∧ character ≠ '=' ∧ character ≠ '/' ∧ character ≠ '>'
  unquoted : ∀ first ∈ name.toList.head?, first ≠ '"' ∧ first ≠ '\''

mutual
/-- All names can be read back, no attribute is given twice, and void elements have no children. -/
def HasReadableNames : Tree → Prop
  | .text _ => True
  | .element name attributes children =>
      IsTagName name ∧ (∀ entry ∈ attributes, IsAttributeName entry.1) ∧
        (attributes.map Prod.fst).Nodup ∧ (isVoid name = true → children = []) ∧
        HaveReadableNames children

def HaveReadableNames : List Tree → Prop
  | [] => True
  | head :: tail => HasReadableNames head ∧ HaveReadableNames tail
end

mutual
/-- No text holds an opening bracket and no attribute text a double quote. -/
def HasReadableTexts : Tree → Prop
  | .text content => '<' ∉ content.toList
  | .element _ attributes children =>
      (∀ entry ∈ attributes, ∀ content ∈ entry.2, '"' ∉ content.toList) ∧
        HaveReadableTexts children

def HaveReadableTexts : List Tree → Prop
  | [] => True
  | head :: tail => HasReadableTexts head ∧ HaveReadableTexts tail
end

/-- No text stands right after another one. -/
def AreApart : List Tree → Prop
  | .text _ :: .text _ :: _ => False
  | _ :: rest => AreApart rest
  | [] => True

mutual
/-- Texts are what is left of them when they are read: not empty, trimmed, and apart. -/
def IsTrimmed : Tree → Prop
  | .text content => content ≠ "" ∧ Text.trimBreaks content.toList = content.toList
  | .element _ _ children => AreApart children ∧ AreTrimmed children

def AreTrimmed : List Tree → Prop
  | [] => True
  | head :: tail => IsTrimmed head ∧ AreTrimmed tail
end

/-! ## Decisions -/

-- The lists that are gone through are named, since a decision about all characters would be found
-- otherwise.
instance (name : String) : Decidable (IsTagName name) :=
  have : Decidable (∀ character ∈ name.toList,
      Text.isBlank character = false ∧ character ≠ '/' ∧ character ≠ '>') :=
    List.decidableBAll _ name.toList
  decidable_of_iff
    (name ≠ "" ∧ (∀ character ∈ name.toList,
        Text.isBlank character = false ∧ character ≠ '/' ∧ character ≠ '>') ∧
      ¬ "!--".toList <+: name.toList ∧ ¬ "!doctype".toList <+: (Text.lowercase name).toList)
    ⟨fun ⟨nonempty, unbroken, noComment, noDeclaration⟩ =>
        ⟨nonempty, unbroken, noComment, noDeclaration⟩,
      fun ⟨nonempty, unbroken, noComment, noDeclaration⟩ =>
        ⟨nonempty, unbroken, noComment, noDeclaration⟩⟩

instance (name : String) : Decidable (IsAttributeName name) :=
  have : Decidable (∀ character ∈ name.toList,
      Text.isBlank character = false ∧ character ≠ '=' ∧ character ≠ '/' ∧ character ≠ '>') :=
    List.decidableBAll _ name.toList
  have : Decidable (∀ first ∈ name.toList.head?, first ≠ '"' ∧ first ≠ '\'') :=
    Option.decidableForallMem name.toList.head?
  decidable_of_iff
    (name ≠ "" ∧ name ≠ "children" ∧ (∀ character ∈ name.toList,
        Text.isBlank character = false ∧ character ≠ '=' ∧ character ≠ '/' ∧ character ≠ '>') ∧
      ∀ first ∈ name.toList.head?, first ≠ '"' ∧ first ≠ '\'')
    ⟨fun ⟨nonempty, notChildren, unbroken, unquoted⟩ =>
        ⟨nonempty, notChildren, unbroken, unquoted⟩,
      fun ⟨nonempty, notChildren, unbroken, unquoted⟩ =>
        ⟨nonempty, notChildren, unbroken, unquoted⟩⟩

mutual
def decideReadableNames : (tree : Tree) → Decidable tree.HasReadableNames
  | .text _ => inferInstanceAs (Decidable True)
  | .element name attributes children =>
      have := decideAllReadableNames children
      have := decidable_of_iff (children.isEmpty = true) List.isEmpty_iff
      inferInstanceAs (Decidable (IsTagName name ∧ (∀ entry ∈ attributes, IsAttributeName entry.1) ∧
        (attributes.map Prod.fst).Nodup ∧ (isVoid name = true → children = []) ∧
        HaveReadableNames children))

def decideAllReadableNames : (trees : List Tree) → Decidable (HaveReadableNames trees)
  | [] => inferInstanceAs (Decidable True)
  | head :: tail =>
      have := decideReadableNames head
      have := decideAllReadableNames tail
      inferInstanceAs (Decidable (HasReadableNames head ∧ HaveReadableNames tail))
end

mutual
def decideReadableTexts : (tree : Tree) → Decidable tree.HasReadableTexts
  | .text content => inferInstanceAs (Decidable ('<' ∉ content.toList))
  | .element _ attributes children =>
      have := decideAllReadableTexts children
      inferInstanceAs (Decidable
        ((∀ entry ∈ attributes, ∀ content ∈ entry.2, '"' ∉ content.toList) ∧
          HaveReadableTexts children))

def decideAllReadableTexts : (trees : List Tree) → Decidable (HaveReadableTexts trees)
  | [] => inferInstanceAs (Decidable True)
  | head :: tail =>
      have := decideReadableTexts head
      have := decideAllReadableTexts tail
      inferInstanceAs (Decidable (HasReadableTexts head ∧ HaveReadableTexts tail))
end

def decideApart : (trees : List Tree) → Decidable (AreApart trees)
  | [] | [.text _] => isTrue trivial
  | .text _ :: .text _ :: _ => isFalse id
  | .text _ :: .element name attributes children :: rest =>
      decideApart (.element name attributes children :: rest)
  | .element _ _ _ :: rest => decideApart rest

mutual
def decideTrimmed : (tree : Tree) → Decidable tree.IsTrimmed
  | .text content =>
      inferInstanceAs (Decidable
        (content ≠ "" ∧ Text.trimBreaks content.toList = content.toList))
  | .element _ _ children =>
      have := decideApart children
      have := decideAllTrimmed children
      inferInstanceAs (Decidable (AreApart children ∧ AreTrimmed children))

def decideAllTrimmed : (trees : List Tree) → Decidable (AreTrimmed trees)
  | [] => inferInstanceAs (Decidable True)
  | head :: tail =>
      have := decideTrimmed head
      have := decideAllTrimmed tail
      inferInstanceAs (Decidable (IsTrimmed head ∧ AreTrimmed tail))
end

instance (tree : Tree) : Decidable tree.HasReadableNames := decideReadableNames tree

instance (tree : Tree) : Decidable tree.HasReadableTexts := decideReadableTexts tree

instance (tree : Tree) : Decidable tree.IsTrimmed := decideTrimmed tree

end Tree
end Template

namespace Value

def name? : Value → Option String
  | .text name | .markup name => some name
  | _ => none

/-- The content of a value that is written as text. Where text is escaped, markup is not. -/
def plainText? (escaping : Bool) : Value → Option String
  | .text content => some content
  | .markup content => if escaping then none else some content
  | _ => none

def literalAttribute? (escaping : Bool) (entry : Value × Value) :
    Option (String × Option String) := do
  let name ← entry.1.name?
  match entry.2 with
  | .boolean true => return (name, none)
  | value => return (name, some (← value.plainText? escaping))

mutual
/-- The tree of literal tags that a value is, if it is one. -/
def tree? (escaping : Bool) : Value → Option Template.Tree
  | .element _ type attributes children => do
      return .element (← type.name?) (← attributes.mapM (literalAttribute? escaping))
        (← trees? escaping children)
  | other => (other.plainText? escaping).map .text

def trees? (escaping : Bool) : List Value → Option (List Template.Tree)
  | [] => some []
  | head :: tail => do return (← tree? escaping head) :: (← trees? escaping tail)
end

end Value
end HtmlStream
