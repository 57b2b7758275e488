import HtmlStream.Proofs.Element.Account
import HtmlStream.Template.Tree

/-!
The markup of a tree of literal tags, and that it is what the page of such a tree shows.
-/
namespace HtmlStream

namespace Template.Tree

def attributeSource : String × Option String → List Char
  | (name, none) => ' ' :: name.toList
  | (name, some content) => ' ' :: name.toList ++ '=' :: '"' :: content.toList ++ ['"']

def attributesSource (attributes : List (String × Option String)) : List Char :=
  attributes.flatMap attributeSource

def openingSource (name : String) (attributes : List (String × Option String)) : List Char :=
  '<' :: name.toList ++ attributesSource attributes ++ ['>']

def closingSource (name : String) : List Char :=
  '<' :: '/' :: name.toList ++ ['>']

mutual
/-- The markup of a tree, in which nothing is escaped. -/
def source : Tree → List Char
  | .text content => content.toList
  | .element name attributes children =>
      openingSource name attributes
        ++ (if isVoid name && children.isEmpty then []
          else sources children ++ closingSource name)

def sources : List Tree → List Char
  | [] => []
  | head :: tail => source head ++ sources tail
end

end Template.Tree

namespace Value

open Template

variable {escaping : Bool}

/-! ## Inversion -/

theorem plainText?_eq_some {value : Value} {content : String}
    (found : value.plainText? escaping = some content) :
    value = .text content ∨ value = .markup content ∧ escaping = false := by
  cases value with
  | text text =>
      cases found
      exact .inl rfl
  | markup text =>
      cases escaping with
      | true => cases found
      | false =>
          cases found
          exact .inr ⟨rfl, rfl⟩
  | _ => cases found

theorem tree?_element {identity : Nat} {type : Value} {attributes : Entries}
    {children : List Value} {tree : Tree}
    (found : (Value.element identity type attributes children).tree? escaping = some tree) :
    ∃ name entries trees, type.name? = some name ∧
      attributes.mapM (literalAttribute? escaping) = some entries ∧
      trees? escaping children = some trees ∧ tree = .element name entries trees := by
  rw [tree?] at found
  rcases Option.bind_eq_some_iff.mp found with ⟨name, named, found⟩
  rcases Option.bind_eq_some_iff.mp found with ⟨entries, mapped, found⟩
  rcases Option.bind_eq_some_iff.mp found with ⟨trees, below, found⟩
  cases found
  exact ⟨name, entries, trees, named, mapped, below, rfl⟩

theorem trees?_cons {head : Value} {tail : List Value} {trees : List Tree}
    (found : trees? escaping (head :: tail) = some trees) :
    ∃ tree rest, head.tree? escaping = some tree ∧ trees? escaping tail = some rest ∧
      trees = tree :: rest := by
  rw [trees?] at found
  rcases Option.bind_eq_some_iff.mp found with ⟨tree, first, found⟩
  rcases Option.bind_eq_some_iff.mp found with ⟨rest, others, found⟩
  cases found
  exact ⟨tree, rest, first, others, rfl⟩

theorem written_of_name? {value : Value} {name : String} (named : value.name? = some name) :
    value.written = .ok name := by
  cases value with
  | text | markup =>
      cases named
      rfl
  | _ => cases named

theorem isEmpty_trees? {children : List Value} {trees : List Tree}
    (found : trees? escaping children = some trees) : children.isEmpty = trees.isEmpty := by
  cases children with
  | nil =>
      cases found
      rfl
  | cons head tail =>
      rcases trees?_cons found with ⟨tree, rest, _, _, rfl⟩
      rfl

/-! ## The page of a tree -/

theorem attributeValue_of_plainText? {value : Value} {content : String}
    (found : value.plainText? escaping = some content) :
    attributeValue escaping value = .ok (pageText escaping content) := by
  rcases plainText?_eq_some found with rfl | ⟨rfl, rfl⟩ <;> rfl

theorem isChildrenName_of_name? {key : Value} {name : String} (named : key.name? = some name)
    (notChildren : name ≠ "children") : key.isChildrenName = false := by
  cases key with
  | text | markup =>
      cases named
      exact beq_eq_false_iff_ne.mpr notChildren
  | _ => cases named

/-- A literal attribute is just set, or has a text. -/
theorem literalAttribute?_eq_some {key value : Value} {name : String} {content? : Option String}
    (found : literalAttribute? escaping (key, value) = some (name, content?)) :
    key.name? = some name ∧ (value = .boolean true ∧ content? = none ∨
      ∃ content, value.plainText? escaping = some content ∧ content? = some content) := by
  rcases Option.bind_eq_some_iff.mp found with ⟨given, named, found⟩
  have texts : ∀ {value : Value},
      ((value.plainText? escaping).bind fun content => some (given, some content))
        = some (name, content?) → given = name ∧
          ∃ content, value.plainText? escaping = some content ∧ content? = some content := by
    intro value found
    rcases Option.bind_eq_some_iff.mp found with ⟨content, shown, found⟩
    cases found
    exact ⟨rfl, content, shown, rfl⟩
  cases value with
  | boolean set =>
      cases set with
      | true =>
          cases found
          exact ⟨named, .inl ⟨rfl, rfl⟩⟩
      | false => cases found
  | _ =>
      rcases texts found with ⟨rfl, shown⟩
      exact ⟨named, .inr shown⟩

theorem pageAttribute_of_literal {key value : Value} {name : String} {content? : Option String}
    (found : literalAttribute? escaping (key, value) = some (name, content?))
    (notChildren : name ≠ "children") :
    pageAttribute escaping key value
      = .ok (String.ofList (Tree.attributeSource (name, content?.map (pageText escaping)))) := by
  rcases literalAttribute?_eq_some found with ⟨named, shown⟩
  unfold pageAttribute
  rw [isChildrenName_of_name? named notChildren, written_of_name? named]
  rcases shown with ⟨rfl, rfl⟩ | ⟨content, shown, rfl⟩
  · refine congrArg Except.ok ?_
    rw [← String.toList_inj]
    simp [Tree.attributeSource]
  · have value := attributeValue_of_plainText? shown
    rcases plainText?_eq_some shown with rfl | ⟨rfl, rfl⟩
    all_goals
      simp only [value, Bool.false_eq_true, if_false]
      refine congrArg Except.ok ?_
      rw [← String.toList_inj]
      simp [Tree.attributeSource]

theorem pageAttributes_of_literal {attributes : Entries} {entries : List (String × Option String)}
    (found : attributes.mapM (literalAttribute? escaping) = some entries)
    (notChildren : ∀ entry ∈ entries, entry.1 ≠ "children") :
    pageAttributes escaping attributes = .ok (String.ofList (Tree.attributesSource
      (entries.map fun entry => (entry.1, entry.2.map (pageText escaping))))) := by
  induction attributes generalizing entries with
  | nil =>
      cases found
      rfl
  | cons given others induction =>
      rw [List.mapM_cons] at found
      rcases Option.bind_eq_some_iff.mp found with ⟨entry, first, found⟩
      rcases Option.bind_eq_some_iff.mp found with ⟨rest, mapped, found⟩
      cases found
      have shown := pageAttribute_of_literal first (notChildren entry List.mem_cons_self)
      have later := induction mapped fun other member =>
        notChildren other (List.mem_cons_of_mem entry member)
      rw [pageAttributes, shown, later]
      exact congrArg Except.ok String.ofList_append.symm

/-- Pieces that are a text whatever was written before. -/
def Show (pieces : List PagePiece) (chars : List Char) : Prop :=
  ∀ written, PagePiece.Writes written pieces (String.ofList chars) written

theorem Show.textOf {pieces : List PagePiece} {chars : List Char} (shown : Show pieces chars) :
    PagePiece.textOf [] pieces = String.ofList chars := by
  have whole := (shown []).textOf_append []
  rwa [List.append_nil, PagePiece.textOf, String.append_empty] at whole

theorem show_text (content : String) : Show [.text content] content.toList := by
  intro written
  rw [String.ofList_toList]
  exact PagePiece.writes_text content

theorem Show.append {first second : List PagePiece} {chars others : List Char}
    (earlier : Show first chars) (later : Show second others) :
    Show (first ++ second) (chars ++ others) := by
  intro written
  rw [String.ofList_append]
  exact (earlier written).append (later written)

theorem show_opening (name : String) (attributes : List (String × Option String)) :
    Show [.text ("<" ++ name ++ String.ofList (Tree.attributesSource attributes) ++ ">")]
      (Tree.openingSource name attributes) := by
  have content := show_text ("<" ++ name ++ String.ofList (Tree.attributesSource attributes) ++ ">")
  simpa [Tree.openingSource] using content

theorem show_closing (name : String) :
    Show [.text ("</" ++ name ++ ">")] (Tree.closingSource name) := by
  have content := show_text ("</" ++ name ++ ">")
  simpa [Tree.closingSource] using content

theorem isEmpty_mapAllTexts (change : String → String) (trees : List Tree) :
    (Tree.mapAllTexts change trees).isEmpty = trees.isEmpty := by
  cases trees <;> rfl

theorem exists_tagged (name : String) {attributes : Entries} {children : List Value}
    {entries : List (String × Option String)} {trees : List Tree} {inner : List PagePiece}
    (mapped : attributes.mapM (literalAttribute? escaping) = some entries)
    (notChildren : ∀ entry ∈ entries, entry.1 ≠ "children")
    (below : trees? escaping children = some trees)
    (page : pages escaping children = .ok inner)
    (shown : Show inner (Tree.sources (Tree.mapAllTexts (pageText escaping) trees))) :
    ∃ pieces, tagged escaping name attributes children (pages escaping children) = .ok pieces ∧
      Show pieces ((Tree.element name entries trees).mapTexts (pageText escaping)).source := by
  have opening := show_opening name
    (entries.map fun entry => (entry.1, entry.2.map (pageText escaping)))
  unfold tagged
  rw [pageAttributes_of_literal mapped notChildren, page, isEmpty_trees? below, Tree.mapTexts,
    Tree.source, isEmpty_mapAllTexts]
  cases empty : Template.isVoid name && trees.isEmpty with
  | true =>
      have noTrees := List.isEmpty_iff.mp (Bool.and_eq_true_iff.mp empty).2
      subst noTrees
      refine ⟨_, rfl, opening.append ?_⟩
      exact shown
  | false =>
      refine ⟨_, rfl, opening.append ?_⟩
      exact shown.append (show_closing name)

mutual
theorem exists_page_of_tree? (value : Value) {tree : Tree}
    (found : value.tree? escaping = some tree) (names : tree.HasReadableNames) :
    ∃ pieces, value.page escaping = .ok pieces ∧
      Show pieces (tree.mapTexts (pageText escaping)).source := by
  cases value with
  | element identity type attributes children =>
      rcases tree?_element found with ⟨name, entries, trees, named, mapped, below, rfl⟩
      rw [Tree.HasReadableNames] at names
      rcases names with ⟨_, attributeNames, _, _, childNames⟩
      rcases exists_pages_of_trees? children below childNames with ⟨inner, page, shown⟩
      have tagged := exists_tagged name mapped
        (fun entry member => (attributeNames entry member).notChildren) below page shown
      cases type with
      | text | markup =>
          cases named
          exact tagged
      | _ => cases named
  | text content =>
      cases found
      exact ⟨_, rfl, show_text _⟩
  | markup content =>
      cases escaping with
      | true => cases found
      | false =>
          cases found
          exact ⟨_, rfl, show_text content⟩
  | _ => cases found

theorem exists_pages_of_trees? (children : List Value) {trees : List Tree}
    (found : trees? escaping children = some trees) (names : Tree.HaveReadableNames trees) :
    ∃ pieces, pages escaping children = .ok pieces ∧
      Show pieces (Tree.sources (Tree.mapAllTexts (pageText escaping) trees)) := by
  cases children with
  | nil =>
      cases found
      exact ⟨[], rfl, fun _ => PagePiece.writes_nil⟩
  | cons head tail =>
      rcases trees?_cons found with ⟨tree, rest, first, others, rfl⟩
      rw [Tree.HaveReadableNames] at names
      rcases exists_page_of_tree? head first names.1 with ⟨pieces, page, shown⟩
      rcases exists_pages_of_trees? tail others names.2 with ⟨later, pages, shownLater⟩
      rw [Value.pages, page, pages]
      exact ⟨_, rfl, shown.append shownLater⟩
end

mutual
/-- A tree of literal tags can be rendered. -/
theorem isTree_of_tree? (value : Value) {tree : Tree}
    (found : value.tree? escaping = some tree) : value.isTree = true := by
  cases value with
  | element identity type attributes children =>
      rcases tree?_element found with ⟨name, entries, trees, named, _, below, _⟩
      have tag : type.isTagType = true := by
        cases type with
        | text | markup => rfl
        | _ => cases named
      exact Bool.and_eq_true_iff.mpr ⟨tag, areTrees_of_trees? children below⟩
  | text | markup => rfl
  | _ => cases found

theorem areTrees_of_trees? (children : List Value) {trees : List Tree}
    (found : trees? escaping children = some trees) : areTrees children = true := by
  cases children with
  | nil => rfl
  | cons head tail =>
      rcases trees?_cons found with ⟨tree, rest, first, others, _⟩
      exact Bool.and_eq_true_iff.mpr
        ⟨isTree_of_tree? head first, areTrees_of_trees? tail others⟩
end

end Value
end HtmlStream
