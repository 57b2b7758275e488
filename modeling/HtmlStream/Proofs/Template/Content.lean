import HtmlStream.Proofs.Template.Filling
import HtmlStream.Proofs.Template.Legibility

/-!
What a template without holes says: texts, declarations and elements, each attribute of an element
named once and none that only declares children. The nodes of such a template are filled to values
whose page is the markup of what the nodes say.
-/
namespace HtmlStream

namespace Template

inductive Content where
  | text (content : String)
  /-- A declaration with its brackets. -/
  | declaration (content : String)
  /-- An attribute without a text is just set. -/
  | element (name : String) (attributes : List (String × Option String)) (children : List Content)

namespace Content

mutual
def source : Content → List Char
  | .text content | .declaration content => content.toList
  | .element name attributes children =>
      Tree.openingSource name attributes
        ++ (if isVoid name then [] else sources children ++ Tree.closingSource name)

def sources : List Content → List Char
  | [] => []
  | head :: tail => source head ++ sources tail
end

mutual
def depth : Content → Nat
  | .element _ _ children => depths children + 1
  | _ => 0

def depths : List Content → Nat
  | [] => 0
  | head :: tail => max (depth head) (depths tail)
end

mutual
/-- Everything can be read back, no attribute is given twice, and void elements have no children. -/
def IsLegible : Content → Prop
  | .text content => IsLegibleText content
  | .declaration content => IsLegibleMarkup content
  | .element name attributes children =>
      Tree.IsTagName name ∧ (∀ entry ∈ attributes, Tree.IsAttributeName entry.1) ∧
        (attributes.map Prod.fst).Nodup ∧ (isVoid name = true → children = []) ∧
        AreLegible children

def AreLegible : List Content → Prop
  | [] => True
  | head :: tail => IsLegible head ∧ AreLegible tail
end

mutual
/-- No attribute text holds a double quote. -/
def IsUnquoted : Content → Prop
  | .element _ attributes children =>
      (∀ entry ∈ attributes, ∀ content ∈ entry.2, '"' ∉ content.toList) ∧ AreUnquoted children
  | _ => True

def AreUnquoted : List Content → Prop
  | [] => True
  | head :: tail => IsUnquoted head ∧ AreUnquoted tail
end

end Content

/-! ## Attributes -/

/-- Set an attribute: a name that is there keeps its place. -/
def setAttribute (entry : String × Option String) :
    List (String × Option String) → List (String × Option String)
  | [] => [entry]
  | head :: tail => if head.1 = entry.1 then entry :: tail else head :: setAttribute entry tail

/-- What an attribute sets that has no holes. -/
def Attribute.setting : Attribute → String × Option String
  | .named name (.text content) => (name, some content)
  | .named name _ => (name, none)
  | .spread _ => ("", none)

def mergedAttributes (attributes : List Attribute) : List (String × Option String) :=
  attributes.foldl (fun entries entry => setAttribute entry.setting entries) []

def declaresChildren (entry : String × Option String) : Bool :=
  entry.1 == "children"

def shownAttributes (attributes : List Attribute) : List (String × Option String) :=
  (mergedAttributes attributes).filter (!declaresChildren ·)

mutual
/-- What a node says that has no holes. -/
def Node.content : Node → Content
  | .text content => .text content
  | .markup content => .declaration content
  | .hole _ => .text ""
  | .element tag children =>
      .element (match tag.name with
        | .literal name => name
        | .hole _ => "") (shownAttributes tag.attributes) (Node.contents children)

def Node.contents : List Node → List Content
  | [] => []
  | head :: tail => Node.content head :: Node.contents tail
end

theorem mem_setAttribute {entry other : String × Option String}
    {entries : List (String × Option String)} (member : other ∈ setAttribute entry entries) :
    other = entry ∨ other ∈ entries := by
  induction entries with
  | nil => exact .inl (List.mem_singleton.mp member)
  | cons head tail induction =>
      unfold setAttribute at member
      split at member
      · rcases List.mem_cons.mp member with same | later
        · exact .inl same
        · exact .inr (List.mem_cons_of_mem head later)
      · rcases List.mem_cons.mp member with rfl | later
        · exact .inr List.mem_cons_self
        · exact (induction later).imp_right (List.mem_cons_of_mem head)

theorem nodup_setAttribute (entry : String × Option String)
    {entries : List (String × Option String)} (distinct : (entries.map Prod.fst).Nodup) :
    ((setAttribute entry entries).map Prod.fst).Nodup := by
  induction entries with
  | nil => exact List.nodup_cons.mpr ⟨List.not_mem_nil, List.nodup_nil⟩
  | cons head tail induction =>
      rw [List.map_cons, List.nodup_cons] at distinct
      unfold setAttribute
      split
      next same => rwa [List.map_cons, ← same, List.nodup_cons]
      next different =>
        rw [List.map_cons, List.nodup_cons]
        refine ⟨fun member => ?_, induction distinct.2⟩
        rcases List.mem_map.mp member with ⟨other, set, named⟩
        rcases mem_setAttribute set with rfl | earlier
        · exact different named.symm
        · exact distinct.1 (named ▸ List.mem_map_of_mem earlier)

theorem setAttribute_of_absent {entry : String × Option String}
    {entries : List (String × Option String)} (absent : entry.1 ∉ entries.map Prod.fst) :
    setAttribute entry entries = entries ++ [entry] := by
  induction entries with
  | nil => rfl
  | cons head tail induction =>
      rw [List.map_cons, List.mem_cons, not_or] at absent
      rw [setAttribute, if_neg fun same => absent.1 same.symm, induction absent.2]
      rfl

section Merged

variable {attributes : List Attribute} {before : List (String × Option String)}

theorem nodup_merged (distinct : (before.map Prod.fst).Nodup) :
    ((attributes.foldl (fun entries entry => setAttribute entry.setting entries) before).map
      Prod.fst).Nodup := by
  induction attributes generalizing before with
  | nil => exact distinct
  | cons head tail induction => exact induction (nodup_setAttribute head.setting distinct)

theorem mem_merged {entry : String × Option String}
    (member : entry ∈ attributes.foldl
      (fun entries given => setAttribute given.setting entries) before) :
    entry ∈ before ∨ ∃ given ∈ attributes, given.setting = entry := by
  induction attributes generalizing before with
  | nil => exact .inl member
  | cons head tail induction =>
      rcases induction member with earlier | ⟨given, later, same⟩
      · rcases mem_setAttribute earlier with rfl | first
        · exact .inr ⟨head, List.mem_cons_self, rfl⟩
        · exact .inl first
      · exact .inr ⟨given, List.mem_cons_of_mem head later, same⟩

end Merged

theorem nodup_shownAttributes (attributes : List Attribute) :
    ((shownAttributes attributes).map Prod.fst).Nodup :=
  (List.filter_sublist.map Prod.fst).nodup (nodup_merged List.nodup_nil)

theorem isAttributeName_of_shown {attributes : List Attribute}
    (legible : ∀ given ∈ attributes, given.IsLegible) {entry : String × Option String}
    (shown : entry ∈ shownAttributes attributes) : Tree.IsAttributeName entry.1 := by
  rcases List.mem_filter.mp shown with ⟨member, notChildren⟩
  rcases mem_merged member with absurdly | ⟨given, mentioned, rfl⟩
  · cases absurdly
  · have mention := legible given mentioned
    cases given with
    | spread index => exact mention.elim
    | named name value =>
        have named : (Attribute.named name value).setting.1 = name := by cases value <;> rfl
        rw [named]
        refine mention.1.isAttributeName fun same => ?_
        unfold declaresChildren at notChildren
        rw [named, same] at notChildren
        cases notChildren

/-- Attributes with different names are all kept as they are. -/
theorem merged_toAttribute (before attributes : List (String × Option String))
    (distinct : ((before ++ attributes).map Prod.fst).Nodup) :
    (attributes.map Tree.toAttribute).foldl
      (fun entries entry => setAttribute entry.setting entries) before = before ++ attributes := by
  induction attributes generalizing before with
  | nil => rw [List.append_nil]; rfl
  | cons entry others induction =>
      have set : (Tree.toAttribute entry).setting = entry := by
        rcases entry with ⟨name, _ | content⟩ <;> rfl
      have fresh : entry.1 ∉ before.map Prod.fst := by
        rw [List.map_append, List.map_cons] at distinct
        exact fun given => (List.nodup_append.mp distinct).2.2 _ given _ List.mem_cons_self rfl
      have regrouped : before ++ entry :: others = (before ++ [entry]) ++ others := by
        rw [List.append_assoc]
        rfl
      rw [regrouped] at distinct ⊢
      rw [List.map_cons, List.foldl_cons, set, setAttribute_of_absent fresh, induction _ distinct]

theorem shownAttributes_toAttribute {attributes : List (String × Option String)}
    (readable : ∀ entry ∈ attributes, Tree.IsAttributeName entry.1)
    (distinct : (attributes.map Prod.fst).Nodup) :
    shownAttributes (attributes.map Tree.toAttribute) = attributes := by
  unfold shownAttributes mergedAttributes
  rw [merged_toAttribute [] attributes distinct, List.nil_append]
  refine List.filter_eq_self.mpr fun entry member => ?_
  rw [declaresChildren, beq_eq_false_iff_ne.mpr (readable entry member).notChildren]
  rfl

/-! ## Contents of nodes -/

mutual
theorem Node.isLegible_content (node : Node) (legible : node.IsLegible) :
    node.content.IsLegible := by
  cases node with
  | text content => exact legible
  | markup content => exact legible
  | hole index => exact legible.elim
  | element tag children =>
      rcases legible with ⟨⟨name, tagLegible, void⟩, childrenLegible⟩
      rw [Node.content, tagLegible.literal]
      refine ⟨tagLegible.readable, fun entry => isAttributeName_of_shown tagLegible.attributes,
        nodup_shownAttributes _, fun isVoid => ?_, Node.areLegible_contents children childrenLegible⟩
      rw [void isVoid]
      rfl

theorem Node.areLegible_contents (nodes : List Node) (legible : Node.AreLegible nodes) :
    Content.AreLegible (Node.contents nodes) := by
  cases nodes with
  | nil => trivial
  | cons head tail =>
      exact ⟨Node.isLegible_content head legible.1, Node.areLegible_contents tail legible.2⟩
end

/-! ## Values of nodes -/

/-- Filling sets what the attributes set, in the same places. -/
theorem insert_toEntry (entry : String × Option String) (entries : List (String × Option String)) :
    Entries.insert (Tree.toEntry entry).1 (Tree.toEntry entry).2 (entries.map Tree.toEntry)
      = (setAttribute entry entries).map Tree.toEntry := by
  induction entries with
  | nil => rfl
  | cons head tail induction =>
      have compared : (Tree.toEntry head).1.matchesItem (Tree.toEntry entry).1
          = (head.1 == entry.1) := by
        rw [Tree.toEntry_fst, Tree.toEntry_fst]
        rfl
      rw [List.map_cons, Entries.insert, compared, setAttribute, induction]
      cases same : head.1 == entry.1 with
      | false => rw [if_neg (by decide), if_neg (beq_eq_false_iff_ne.mp same), List.map_cons]
      | true =>
          have named := eq_of_beq same
          rw [if_pos rfl, if_pos named, List.map_cons, Tree.toEntry_fst, named,
            ← Tree.toEntry_fst entry]

theorem fillAttributes_of_isLegible (values : List Value) {attributes : List Attribute}
    (legible : ∀ given ∈ attributes, given.IsLegible) :
    fillAttributes values attributes = .ok ((mergedAttributes attributes).map Tree.toEntry) := by
  have general : ∀ before : List (String × Option String),
      attributes.foldlM (Attribute.fill values) (before.map Tree.toEntry)
        = .ok ((attributes.foldl (fun entries given => setAttribute given.setting entries)
            before).map Tree.toEntry) := by
    induction attributes with
    | nil => exact fun _ => rfl
    | cons head tail induction =>
        rcases List.forall_mem_cons.mp legible with ⟨first, others⟩
        intro before
        have filled : head.fill values (before.map Tree.toEntry)
            = .ok ((setAttribute head.setting before).map Tree.toEntry) := by
          rw [← insert_toEntry]
          cases head with
          | spread index => exact first.elim
          | named name value => rcases first.2 with rfl | ⟨content, rfl⟩ <;> rfl
        rw [List.foldlM_cons, filled]
        exact induction others _
  exact general []

section Pages

open Value

theorem pageAttribute_toEntry (entry : String × Option String) :
    pageAttribute false (Tree.toEntry entry).1 (Tree.toEntry entry).2
      = .ok (String.ofList (if declaresChildren entry then [] else Tree.attributeSource entry)) := by
  rcases entry with ⟨name, content?⟩
  cases declares : declaresChildren (name, content?) with
  | true =>
      unfold pageAttribute
      rw [Tree.toEntry_fst, if_pos (show Value.isChildrenName (.text name) = true from declares)]
      rfl
  | false =>
      have named : name ≠ "children" := beq_eq_false_iff_ne.mp declares
      have literal : literalAttribute? false (Tree.toEntry (name, content?))
          = some (name, content?) := by cases content? <;> rfl
      have page := pageAttribute_of_literal literal named
      have same : content?.map (pageText false) = content? := by cases content? <;> rfl
      rw [same] at page
      exact page

theorem pageAttributes_toEntry (entries : List (String × Option String)) :
    pageAttributes false (entries.map Tree.toEntry)
      = .ok (String.ofList (Tree.attributesSource (entries.filter (!declaresChildren ·)))) := by
  induction entries with
  | nil => rfl
  | cons head tail induction =>
      rw [List.map_cons, pageAttributes, pageAttribute_toEntry, induction]
      cases declares : declaresChildren head with
      | true => simp [declares, bind, Except.bind, pure, Except.pure]
      | false =>
          simp [declares, bind, Except.bind, pure, Except.pure, Tree.attributesSource]

end Pages

end Template

namespace Value

mutual
/-- No attribute of the elements in a tree has a text that holds a double quote. -/
def HasUnquotedAttributes : Value → Prop
  | .element _ _ attributes children =>
      (∀ entry ∈ attributes, ∀ content, entry.2 = .text content → '"' ∉ content.toList) ∧
        HaveUnquotedAttributes children
  | _ => True

def HaveUnquotedAttributes : List Value → Prop
  | [] => True
  | head :: tail => HasUnquotedAttributes head ∧ HaveUnquotedAttributes tail
end

open Template

/-- A value is an element or text that shows what a template says. -/
structure Presents (value : Value) (content : Content) : Prop where
  isTree : value.isTree = true
  shows : ∃ pieces, value.page false = .ok pieces ∧ Show pieces content.source
  frames : value.framesNeeded = content.depth
  unquoted : value.HasUnquotedAttributes → content.IsUnquoted

structure Present (values : List Value) (contents : List Content) : Prop where
  areTrees : areTrees values = true
  shows : ∃ pieces, pages false values = .ok pieces ∧ Show pieces (Content.sources contents)
  frames : framesNeededByAll values = Content.depths contents
  unquoted : HaveUnquotedAttributes values → Content.AreUnquoted contents

end Value

namespace Template

open Value

/-- An element presents what its tag and its children say; a void one has no children. -/
theorem presents_element {name : String} {attributes : List Attribute} {children : List Content}
    {inner : List Value} (identity : Nat) (present : Present inner children)
    (void : isVoid name = true → inner = []) :
    Presents (.element identity (.text name) ((mergedAttributes attributes).map Tree.toEntry) inner)
      (.element name (shownAttributes attributes) children) where
  isTree := present.areTrees
  shows := by
    rcases present.shows with ⟨pieces, pages, shown⟩
    have opening := show_opening name (shownAttributes attributes)
    unfold page tagged Content.source
    rw [pageAttributes_toEntry]
    cases isVoid : Template.isVoid name with
    | true =>
        have empty := void isVoid
        subst empty
        exact ⟨_, rfl, opening.append fun _ => PagePiece.writes_nil⟩
    | false =>
        rw [pages]
        exact ⟨_, rfl, opening.append (shown.append (show_closing name))⟩
  frames := congrArg (· + 1) present.frames
  unquoted := by
    rintro ⟨own, below⟩
    refine ⟨fun entry shown content given => ?_, present.unquoted below⟩
    have member := (List.mem_filter.mp shown).1
    refine own (Tree.toEntry entry) (List.mem_map_of_mem member) content ?_
    rcases entry with ⟨name, _ | other⟩
    · cases given
    · cases given
      rfl

mutual
/-- A legible node is filled to a value that presents what the node says. -/
theorem exists_fill_of_isLegible (values : List Value) (node : Node) (start : Nat)
    (legible : node.IsLegible) :
    ∃ value next, node.fill values start = .ok (value, next) ∧ value.Presents node.content := by
  cases node with
  | text content =>
      exact ⟨.text content, start, rfl, rfl, ⟨_, rfl, show_text content⟩, rfl, fun _ => trivial⟩
  | markup content =>
      exact ⟨.markup content, start, rfl, rfl, ⟨_, rfl, show_text content⟩, rfl, fun _ => trivial⟩
  | hole index => exact legible.elim
  | element tag children =>
      rcases legible with ⟨⟨name, tagLegible, void⟩, childrenLegible⟩
      rcases exists_fillNodes_of_areLegible values children start childrenLegible with
        ⟨inner, next, filled, present, empty⟩
      refine ⟨.element next (.text name) ((mergedAttributes tag.attributes).map Tree.toEntry) inner,
        next + 1, ?_, ?_⟩
      · rw [Node.fill, fillAttributes_of_isLegible values tagLegible.attributes, filled,
          tagLegible.literal]
        rfl
      · rw [Node.content, tagLegible.literal]
        exact presents_element next present fun isVoid => empty (void isVoid)

theorem exists_fillNodes_of_areLegible (values : List Value) (nodes : List Node) (start : Nat)
    (legible : Node.AreLegible nodes) :
    ∃ inner next, fillNodes values start nodes = .ok (inner, next) ∧
      Present inner (Node.contents nodes) ∧ (nodes = [] → inner = []) := by
  cases nodes with
  | nil =>
      exact ⟨[], start, rfl, ⟨rfl, ⟨[], rfl, fun _ => PagePiece.writes_nil⟩, rfl, fun _ => trivial⟩,
        fun _ => rfl⟩
  | cons head tail =>
      rcases exists_fill_of_isLegible values head start legible.1 with
        ⟨value, between, first, presents⟩
      rcases exists_fillNodes_of_areLegible values tail between legible.2 with
        ⟨others, next, later, present, _⟩
      refine ⟨value :: others, next, ?_, ⟨?_, ?_, ?_, ?_⟩, nofun⟩
      · rw [fillNodes, first]
        show (do
          let (rest, next) ← fillNodes values between tail
          return (value :: rest, next)) = _
        rw [later]
        rfl
      · exact Bool.and_eq_true_iff.mpr ⟨presents.isTree, present.areTrees⟩
      · rcases presents.shows with ⟨pieces, page, shown⟩
        rcases present.shows with ⟨rest, pages, shownLater⟩
        rw [Value.pages, page, pages]
        exact ⟨_, rfl, shown.append shownLater⟩
      · exact congr (congrArg max presents.frames) present.frames
      · exact fun unquoted => ⟨presents.unquoted unquoted.1, present.unquoted unquoted.2⟩
end

end Template
end HtmlStream
