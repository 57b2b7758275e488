import HtmlStream.Proofs.Template.Normalization
import HtmlStream.Proofs.Template.Reading

/-!
Reading the markup of a tree gives the tree with its text runs joined and trimmed. Text that was
gathered but not yet flushed counts as read, so what is compared is the builder after a flush.
-/
namespace HtmlStream.Template

/-! ## Nodes -/

namespace Tree

mutual
def toNode : Tree → Node
  | .text content => .text content
  | .element name attributes children =>
      .element ⟨.literal name, attributes.map toAttribute⟩ (toNodes children)

def toNodes : List Tree → List Node
  | [] => []
  | head :: tail => toNode head :: toNodes tail
end

theorem toNodes_append (first second : List Tree) :
    toNodes (first ++ second) = toNodes first ++ toNodes second := by
  induction first with
  | nil => rfl
  | cons head tail induction => exact congrArg (toNode head :: ·) induction

end Tree

namespace Builder

def addAll (builder : Builder) (nodes : List Node) : Builder :=
  nodes.foldl add builder

/-- The builder after a flush of a run of text. -/
def flushed (builder : Builder) (run : List Char) : Builder :=
  builder.addAll (Tree.toNodes (Tree.ofRun (Reading.nameOf run)))

def opened (builder : Builder) (tag : Tag) (children : List Node) : Builder :=
  { builder with stack := ⟨tag, children⟩ :: builder.stack }

theorem addAll_cons (builder : Builder) (head : Node) (tail : List Node) :
    builder.addAll (head :: tail) = (builder.add head).addAll tail := rfl

theorem addAll_append (builder : Builder) (first second : List Node) :
    builder.addAll (first ++ second) = (builder.addAll first).addAll second :=
  List.foldl_append

theorem addAll_opened (builder : Builder) (tag : Tag) (children nodes : List Node) :
    (builder.opened tag children).addAll nodes = builder.opened tag (nodes.reverse ++ children) := by
  induction nodes generalizing children with
  | nil => rfl
  | cons head tail induction =>
      rw [List.reverse_cons, List.append_assoc]
      exact induction (head :: children)

theorem addAll_empty (nodes : List Node) : empty.addAll nodes = ⟨nodes.reverse, []⟩ := by
  have general : ∀ finished : List Node,
      (Builder.mk finished []).addAll nodes = ⟨nodes.reverse ++ finished, []⟩ := by
    induction nodes with
    | nil => exact fun _ => rfl
    | cons head tail induction =>
        intro finished
        rw [List.reverse_cons, List.append_assoc]
        exact induction (head :: finished)
  have added := general []
  rwa [List.append_nil] at added

theorem close_opened (builder : Builder) (name : String) (attributes : List Attribute)
    (children : List Node) :
    (builder.opened ⟨.literal name, attributes⟩ children).close name
      = .ok (builder.add (.element ⟨.literal name, attributes⟩ children.reverse)) := by
  simp [close, opened, closingFault?]

theorem applyAll_textEvents (builder : Builder) (run : List Char) :
    builder.applyAll (Reading.textEvents run) = .ok (builder.flushed run) := by
  unfold Reading.textEvents flushed Tree.ofRun Reading.nameOf
  rw [String.toList_ofList]
  generalize Text.trimBreaks run.reverse = trimmed
  cases trimmed <;> rfl

end Builder

/-! ## Texts and tags -/

open Reading

variable {builder built : Builder} {run : List Char}

theorem reads_text {content : String} (noBracket : '<' ∉ content.toList) :
    Reads content.toList (.text run, builder) (.text (content.toList.reverse ++ run), builder) := by
  refine reads_gathering .text content.toList ?_
  intro before character within following
  have noTag : character ≠ '<' := fun bracket => noBracket (bracket ▸ mem_of_isPrefix within)
  exact if_neg noTag

theorem nameOf_append (content : String) (run : List Char) :
    nameOf (content.toList.reverse ++ run) = nameOf run ++ content := by
  unfold nameOf
  rw [List.reverse_append, List.reverse_reverse, String.ofList_append, String.ofList_toList]

theorem nameOf_nil : nameOf [] = "" := rfl

theorem reads_bracket : Reads ['<'] (.text run, builder) (.tagName [] none, builder.flushed run) :=
  reads_events (fun _ => rfl) (builder.applyAll_textEvents run)

theorem reads_opening {name : String} {attributes : List (String × Option String)}
    (readable : Tree.IsTagName name)
    (readables : ∀ entry ∈ attributes, Tree.IsAttributeName entry.1)
    (unquoted : ∀ entry ∈ attributes, ∀ content ∈ entry.2, '"' ∉ content.toList)
    (applied : (builder.flushed run).apply
      (openEvent ⟨.literal name, (attributes.map Tree.toAttribute).reverse⟩) = .ok built) :
    Reads (Tree.openingSource name attributes) (.text run, builder) (.text [], built) := by
  have named : Reads ('<' :: name.toList) (.text run, builder)
      (.tagName name.toList.reverse none, builder.flushed run) :=
    reads_bracket.cons (reads_tagName readable)
  rcases reads_attributes (endsTag_tagName readable.nonempty) readables unquoted
    with ⟨after, ends, given⟩
  rw [List.append_nil] at ends
  refine (named.append given).append (reads_events ends.close ?_)
  rw [Builder.applyAll, applied]
  rfl

theorem reads_closing {name : String} (readable : Tree.IsTagName name)
    (applied : (builder.flushed run).close name = .ok built) :
    Reads (Tree.closingSource name) (.text run, builder) (.text [], built) := by
  have slash : Reads ['/'] (.tagName [] none, builder.flushed run)
      (.closingTag [], builder.flushed run) := reads_quiet fun _ => rfl
  have named : Reads name.toList (.closingTag [], builder.flushed run)
      (.closingTag (name.toList.reverse ++ []), builder.flushed run) := by
    refine reads_gathering .closingTag name.toList ?_
    intro before character within following
    rcases readable.unbroken character (mem_of_isPrefix within) with ⟨notBlank, noSlash, noBracket⟩
    show inClosingTag _ _ = _
    simp [inClosingTag, notBlank, noSlash, noBracket]
  rw [List.append_nil] at named
  have closes : Reads ['>'] (.closingTag name.toList.reverse, builder.flushed run)
      (.text [], built) := by
    refine reads_events (fun _ => rfl) ?_
    rw [nameOf_reverse, Builder.applyAll, Builder.apply, applied]
    rfl
  exact reads_bracket.cons (slash.cons (named.append closes))

/-! ## Trees -/

/-- The builder once some trees after a run of text are read. -/
def Builder.gathering (builder : Builder) (run : List Char) (trees : List Tree) : Builder :=
  builder.addAll (Tree.toNodes (Tree.gathered (nameOf run) trees))

theorem Builder.gathering_text (builder : Builder) (run : List Char) (content : String)
    (later : List Tree) :
    builder.gathering (content.toList.reverse ++ run) later
      = builder.gathering run (.text content :: later) := by
  unfold Builder.gathering
  rw [nameOf_append, Tree.gathered]

theorem Builder.gathering_element (builder : Builder) (run : List Char) (name : String)
    (attributes : List (String × Option String)) (children later : List Tree) :
    ((builder.flushed run).add (Tree.element name attributes children).normalized.toNode).gathering
        [] later
      = builder.gathering run (.element name attributes children :: later) := by
  unfold Builder.gathering Builder.flushed
  rw [Tree.gathered, Tree.toNodes_append, addAll_append, Tree.toNodes, addAll_cons, nameOf_nil]

theorem Builder.flushed_eq_gathering (builder : Builder) (run : List Char) :
    builder.flushed run = builder.gathering run [] := rfl

section Opening

variable {name : String} {attributes : List (String × Option String)}

theorem openEvent_of_void (void : isVoid name = true) :
    openEvent ⟨.literal name, (attributes.map Tree.toAttribute).reverse⟩
      = .empty ⟨.literal name, attributes.map Tree.toAttribute⟩ := by
  simp [openEvent, void, finished]

theorem openEvent_of_not_void (notVoid : isVoid name = false) :
    openEvent ⟨.literal name, (attributes.map Tree.toAttribute).reverse⟩
      = .opening ⟨.literal name, attributes.map Tree.toAttribute⟩ := by
  simp [openEvent, notVoid, finished]

end Opening

mutual
theorem reads_tree (tree : Tree) {builder : Builder} {run : List Char}
    (names : tree.HasReadableNames) (texts : tree.HasReadableTexts) :
    ∃ rest built, Reads tree.source (.text run, builder) (.text rest, built) ∧
      ∀ later, built.gathering rest later = builder.gathering run (tree :: later) := by
  cases tree with
  | text content =>
      rw [Tree.HasReadableTexts] at texts
      exact ⟨_, _, reads_text texts, builder.gathering_text run content⟩
  | element name attributes children =>
      rw [Tree.HasReadableNames] at names
      rw [Tree.HasReadableTexts] at texts
      rcases names with ⟨readable, readables, _, noContent, childNames⟩
      refine ⟨[], _, ?_, builder.gathering_element run name attributes children⟩
      rw [Tree.source]
      cases void : isVoid name with
      | true =>
          have noChildren := noContent void
          subst noChildren
          refine (reads_opening readable readables texts.1 ?_).append (reads_nil _)
          rw [openEvent_of_void void, Tree.normalized, Tree.gathered_nil]
          rfl
      | false =>
          have opening : Reads (Tree.openingSource name attributes) (.text run, builder) (.text [],
              (builder.flushed run).opened ⟨.literal name, attributes.map Tree.toAttribute⟩ []) :=
            reads_opening readable readables texts.1
              (congrArg (Builder.apply _) (openEvent_of_not_void void))
          rcases reads_trees children childNames texts.2 with ⟨rest, built, inner, gathered⟩
          refine opening.append (inner.append (reads_closing readable ?_))
          rw [built.flushed_eq_gathering, gathered, Builder.gathering, Builder.addAll_opened,
            Builder.close_opened, List.append_nil, List.reverse_reverse, nameOf_nil]
          rfl

theorem reads_trees (trees : List Tree) {builder : Builder} {run : List Char}
    (names : Tree.HaveReadableNames trees) (texts : Tree.HaveReadableTexts trees) :
    ∃ rest built, Reads (Tree.sources trees) (.text run, builder) (.text rest, built) ∧
      built.gathering rest [] = builder.gathering run trees := by
  cases trees with
  | nil => exact ⟨run, builder, reads_nil _, rfl⟩
  | cons head tail =>
      rw [Tree.HaveReadableNames] at names
      rw [Tree.HaveReadableTexts] at texts
      rcases reads_tree head names.1 texts.1 with ⟨between, half, first, gathered⟩
      rcases reads_trees tail names.2 texts.2 with ⟨rest, built, later, gatheredLater⟩
      exact ⟨rest, built, first.append later, gatheredLater.trans (gathered tail)⟩
end

/-- The markup of a tree is read as the tree, with its text runs joined and trimmed. -/
theorem readStrings_source {tree : Tree} (names : tree.HasReadableNames)
    (texts : tree.HasReadableTexts) :
    readStrings [String.ofList tree.source] = .ok (Tree.toNodes (Tree.gathered "" [tree])) := by
  obtain ⟨rest, built, reads, gathered⟩ :
      ∃ rest built, Reads tree.source (.text [], .empty) (.text rest, built) ∧
        ∀ later, built.gathering rest later = Builder.empty.gathering [] (tree :: later) :=
    reads_tree tree names texts
  have flushed : built.flushed rest = ⟨(Tree.toNodes (Tree.gathered "" [tree])).reverse, []⟩ := by
    rw [built.flushed_eq_gathering, gathered [], Builder.gathering, Builder.addAll_empty,
      nameOf_nil]
  have ended : finishReading (.text rest) built
      = .ok (Tree.toNodes (Tree.gathered "" [tree])) := by
    show (do (← built.applyAll (textEvents rest)).finish) = _
    rw [built.applyAll_textEvents, flushed]
    exact congrArg Except.ok (List.reverse_reverse _)
  have symbols : Symbol.ofStrings [String.ofList tree.source]
      = tree.source.map .character ++ [] := by
    show (String.ofList tree.source).toList.map _ = _
    rw [String.toList_ofList, List.append_nil]
  rw [readStrings, readSymbols, symbols, reads, readFrom, ended]

end HtmlStream.Template
