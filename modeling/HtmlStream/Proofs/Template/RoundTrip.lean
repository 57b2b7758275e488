import HtmlStream.Proofs.Element.Rendering
import HtmlStream.Proofs.Template.Filling
import HtmlStream.Proofs.Template.Normalization

/-!
Reading what was rendered. The stream of a tree of literal tags is the markup of that tree, which is
read as the tree itself where its texts are trimmed and hold nothing that reads as markup, and as the
tree with escaped texts where texts are escaped.
-/
namespace HtmlStream

namespace Template

/-- A text without holes is read as a tree: as an element that is this tree, wherever the numbering
of elements starts. -/
def IsReadAs (text : String) (tree : Tree) : Prop :=
  ∃ markup, readMarkup (.template ⟨[text], []⟩) = .ok markup ∧
    ∀ start, ∃ element, markup.toElement start = .ok element ∧ element.tree? true = some tree

theorem readMarkup_of_readStrings {text : String} {nodes : List Node}
    (read : readStrings [text] = .ok nodes) :
    readMarkup (.template ⟨[text], []⟩) = .ok ⟨nodes, []⟩ := by
  have checked : check (.template ⟨[text], []⟩) "html" = .ok ⟨[text], []⟩ := rfl
  unfold readMarkup
  rw [checked]
  show Except.bind (Except.mapError _ (readStrings [text])) _ = _
  rw [read]
  rfl

theorem isReadAs_source {name : String} {attributes : List (String × Option String)}
    {children : List Tree} (names : (Tree.element name attributes children).HasReadableNames)
    (texts : (Tree.element name attributes children).HasReadableTexts) :
    IsReadAs (String.ofList (Tree.element name attributes children).source)
      (Tree.element name attributes children).normalized := by
  have read := readStrings_source names texts
  rw [Tree.gathered_element, Tree.gathered_nil] at read
  refine ⟨_, readMarkup_of_readStrings read, ?_⟩
  intro start
  rcases exists_fill_toNode [] _ start (Tree.hasReadableNames_normalized _ names)
    with ⟨element, next, filled, tree⟩
  refine ⟨element, ?_, tree⟩
  unfold Markup.toElement
  show Except.mapError _ (Except.bind (Node.fill [] start
    (Tree.element name attributes children).normalized.toNode) _) = _
  rw [filled]
  rfl

end Template

open Template

variable (library : Library) (providers : Registry) (settings : Settings) (context : Nat)
  (session : Session) (node : Element)

/-- An element is rendered to a text that is read as a tree. -/
def IsRenderedAndReadAs (tree : Tree) : Prop :=
  ∃ transcript,
    (Run.start (.start providers settings context) node.toValue).streamed library session
        = some transcript ∧
      transcript.failure? = none ∧ IsReadAs (String.join transcript.texts) tree

variable {settings} {node} {tree : Tree}

/-- The stream of a tree is the markup of the tree, as far as that can be read. -/
theorem isRenderedAndReadAs_of_hasReadableTexts
    (found : node.toValue.tree? settings.autoescape = some tree)
    (names : tree.HasReadableNames)
    (texts : (tree.mapTexts (Value.pageText settings.autoescape)).HasReadableTexts)
    (fits : node.toValue.framesNeeded ≤ settings.maxDepth) :
    IsRenderedAndReadAs library providers settings context session node
      (tree.mapTexts (Value.pageText settings.autoescape)).normalized := by
  rcases exists_streamed_of_isTree library providers settings context session node
    (Value.isTree_of_tree? _ found) fits with ⟨interpreter, account, streamed, isOf⟩
  rcases Value.exists_page_of_tree? _ found names with ⟨pieces, page, shown⟩
  rw [page] at isOf
  rcases isOf.shows interpreter with ⟨completed, joined⟩
  have text : String.join (interpreter.conclude account).texts
      = String.ofList (tree.mapTexts (Value.pageText settings.autoescape)).source :=
    joined.trans shown.textOf
  refine ⟨_, streamed, completed, ?_⟩
  rcases Value.tree?_element found with ⟨name, entries, trees, _, _, _, rfl⟩
  rw [text]
  exact isReadAs_source (Tree.hasReadableNames_mapTexts _ _ names) texts

/-- Reading undoes rendering. A tree of literal tags whose names can be read back, whose texts are
trimmed and apart and hold nothing that reads as markup, is read from its unescaped stream. -/
theorem isRenderedAndReadAs_of_isTrimmed (unescaped : settings.autoescape = false)
    (found : node.toValue.tree? false = some tree) (names : tree.HasReadableNames)
    (texts : tree.HasReadableTexts) (trimmed : tree.IsTrimmed)
    (fits : node.toValue.framesNeeded ≤ settings.maxDepth) :
    IsRenderedAndReadAs library providers settings context session node tree := by
  have unchanged : tree.mapTexts (Value.pageText settings.autoescape) = tree :=
    Tree.mapTexts_of_unchanged (fun text => by rw [unescaped]; rfl) tree
  rw [← unescaped] at found
  have readAs := isRenderedAndReadAs_of_hasReadableTexts library providers context session found names
    (unchanged.symm ▸ texts) fits
  rwa [unchanged, Tree.normalized_of_isTrimmed tree trimmed] at readAs

/-- A list with a void element in it, and texts around a nested one. -/
def annotatedList : Tree :=
  .element "ul" [("title", some "a<b & c"), ("hidden", none)] [
    .element "li" [] [.text "1 > 0 & ", .element "b" [("x", some "")] [], .text ";"],
    .element "br" [] []]

def annotatedListElement : Element where
  identity := 1
  type := .text "ul"
  attributes := [(.text "title", .text "a<b & c"), (.text "hidden", .boolean true)]
  children := [
    .element 2 (.text "li") [] [.text "1 > 0 & ",
      .element 3 (.text "b") [(.text "x", .text "")] [], .text ";"],
    .element 4 (.text "br") [] []]

theorem isRenderedAndReadAs_annotatedList :
    annotatedListElement.toValue.tree? false = some annotatedList ∧
    annotatedList.HasReadableNames ∧ annotatedList.HasReadableTexts ∧ annotatedList.IsTrimmed ∧
    annotatedListElement.toValue.framesNeeded ≤ Settings.standard.maxDepth ∧
    IsRenderedAndReadAs [] [] Settings.standard 0 .empty annotatedListElement annotatedList := by
  have found : annotatedListElement.toValue.tree? false = some annotatedList := rfl
  have names : annotatedList.HasReadableNames := by decide
  have texts : annotatedList.HasReadableTexts := by decide
  have trimmed : annotatedList.IsTrimmed := by decide
  have fits : annotatedListElement.toValue.framesNeeded ≤ Settings.standard.maxDepth := by decide
  exact ⟨found, names, texts, trimmed, fits,
    isRenderedAndReadAs_of_isTrimmed [] [] 0 .empty rfl found names texts trimmed fits⟩

/-- No text of a tree reads as markup where texts are escaped: the tree that is read has the same
tags and attribute names, and escaped texts. -/
theorem isRenderedAndReadAs_of_autoescape (escaped : settings.autoescape = true)
    (found : node.toValue.tree? true = some tree) (names : tree.HasReadableNames)
    (fits : node.toValue.framesNeeded ≤ settings.maxDepth) :
    IsRenderedAndReadAs library providers settings context session node
      (tree.mapTexts escapeHtml).normalized := by
  have change : Value.pageText settings.autoescape = escapeHtml := by
    rw [escaped]
    rfl
  rw [← escaped] at found
  have readAs := isRenderedAndReadAs_of_hasReadableTexts library providers context session found names
    (change.symm ▸ Tree.hasReadableTexts_escaped tree) fits
  rwa [change] at readAs

/-- A paragraph whose texts try to leave their places. -/
def hostileTree : Tree :=
  .element "p" [("title", some "\"><i a=\"")] [
    .text "\n</p>", .text "<p>", .element "br" [] [], .text " \n "]

def hostileParagraph : Element where
  identity := 1
  type := .text "p"
  attributes := [(.text "title", .text "\"><i a=\"")]
  children := [.text "\n</p>", .text "<p>", .element 2 (.text "br") [] [], .text " \n "]

def escapingSettings : Settings := { Settings.standard with autoescape := true }

theorem isRenderedAndReadAs_hostileParagraph :
    hostileParagraph.toValue.framesNeeded ≤ escapingSettings.maxDepth ∧
    IsRenderedAndReadAs [] [] escapingSettings 0 .empty hostileParagraph
      (.element "p" [("title", some "&quot;&gt;&lt;i a=&quot;")]
        [.text "&lt;/p&gt;&lt;p&gt;", .element "br" [] []]) := by
  have fits : hostileParagraph.toValue.framesNeeded ≤ escapingSettings.maxDepth := by decide
  have found : hostileParagraph.toValue.tree? true = some hostileTree := rfl
  have names : hostileTree.HasReadableNames := by decide
  have readAs := isRenderedAndReadAs_of_autoescape [] [] 0 .empty rfl found names fits
  have normal : (hostileTree.mapTexts escapeHtml).normalized
      = .element "p" [("title", some "&quot;&gt;&lt;i a=&quot;")]
          [.text "&lt;/p&gt;&lt;p&gt;", .element "br" [] []] := by
    with_unfolding_all rfl
  rw [normal] at readAs
  exact ⟨fits, readAs⟩

end HtmlStream
