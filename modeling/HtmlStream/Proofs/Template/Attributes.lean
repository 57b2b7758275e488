import HtmlStream.Proofs.Template.Filling
import HtmlStream.Proofs.Template.Nesting
import HtmlStream.Proofs.Template.WrittenTags
import Mathlib.Data.List.Forall2

/-!
The attributes of elements are what the tags of a template mention. The tags that begin elements are in
the nodes of a template in the order of the source, and filling a node makes an element of each. The
main statement is `elements_of_written`.
-/
namespace HtmlStream.Template

/-! ## The tags of nodes -/

mutual
/-- The tags of a node and of all nodes in it, in the order of the source. -/
def Node.tags : Node → List Tag
  | .element tag children => tag :: tagsOf children
  | .text _ | .markup _ | .hole _ => []

def tagsOf : List Node → List Tag
  | [] => []
  | head :: tail => head.tags ++ tagsOf tail
end

/-- A descent finds the tags of the events that it reads. -/
theorem tagsOf_descend (events : List Event) :
    tagsOf (descend events).nodes ++ (descend events).rest.filterMap Event.tag?
      = events.filterMap Event.tag? := by
  induction events using descend.induct with
  | case1 => rw [descend]; rfl
  | case2 content rest induction => rw [descend]; exact induction
  | case3 content rest induction => rw [descend]; exact induction
  | case4 index rest induction => rw [descend]; exact induction
  | case5 tag rest induction => rw [descend]; exact congrArg (tag :: ·) induction
  | case6 name rest => rw [descend]; rfl
  | case7 tag rest children shorter inside outside =>
      have untagged : children.rest.filterMap Event.tag?
          = children.rest.tail.filterMap Event.tag? := by
        rcases Builder.rest_of_descend rest with atEnd | ⟨name, later, atClosing⟩
        · rw [show children.rest = [] from atEnd]
          rfl
        · rw [show children.rest = .closing name :: later from atClosing]
          rfl
      rw [descend]
      show tag :: (tagsOf children.nodes ++ tagsOf (descend children.rest.tail).nodes)
        ++ (descend children.rest.tail).rest.filterMap Event.tag? = tag :: rest.filterMap Event.tag?
      rw [List.cons_append, List.append_assoc, outside, ← untagged]
      exact congrArg (tag :: ·) inside

theorem exists_events_of_readFrom {reading : Reading} {builder : Builder} {position : Nat}
    {symbols : List Symbol} {nodes : List Node}
    (accepted : readFrom reading builder position symbols = .ok nodes) :
    ∃ events, eventsFrom reading symbols = .ok events := by
  induction symbols generalizing reading builder position with
  | nil =>
      rw [readFrom, finishReading] at accepted
      cases finished : reading.finish with
      | error cause => rw [finished] at accepted; cases accepted
      | ok events => exact ⟨events, finished⟩
  | cons symbol rest induction =>
      rcases exists_advance_of_readFrom accepted with ⟨later, built, advanced⟩
      rw [readFrom_of_advance advanced] at accepted
      rcases advance_eq_ok advanced with ⟨given, read, _⟩
      rcases induction accepted with ⟨events, others⟩
      exact ⟨given ++ events, by rw [eventsFrom_giving read, others]; rfl⟩

/-- The nodes of a template have the tags that its events have. -/
theorem exists_tagsOf_of_readStrings {strings : List String} {nodes : List Node}
    (accepted : readStrings strings = .ok nodes) :
    ∃ events, eventsOf strings = .ok events ∧ tagsOf nodes = events.filterMap Event.tag? := by
  rcases exists_events_of_readFrom accepted with ⟨events, read⟩
  refine ⟨events, read, ?_⟩
  have built := readFrom_eq_applyAll read .empty 0
  rw [show readFrom (.text []) .empty 0 (Symbol.ofStrings strings) = .ok nodes from accepted]
    at built
  cases applied : Builder.empty.applyAll events with
  | error cause => rw [applied] at built; cases built
  | ok final =>
      rw [applied] at built
      rcases Builder.finish_eq_ok.mp built.symm with ⟨closed, rfl⟩
      rw [Builder.nodes_of_descend applied closed, ← tagsOf_descend events,
        Builder.rest_of_descend_eq_nil applied closed, List.filterMap_nil, List.append_nil]

/-! ## Filling -/

section Filling

variable {values : List Value}

/-- An element is made of a tag. -/
structure IsFilledAs (values : List Value) (tag : Tag) (element : Element) : Prop where
  type : element.type = tag.name.fill values
  attributes : fillAttributes values tag.attributes = .ok element.attributes

mutual
theorem forall₂_elementsMade (node : Node) {start next : Nat} {value : Value}
    (filled : node.fill values start = .ok (value, next)) :
    List.Forall₂ (IsFilledAs values) node.tags (node.elementsMade value) := by
  cases node with
  | text | markup | hole => exact .nil
  | element tag children =>
      rcases exists_of_fill_element filled with ⟨attributes, inner, number, own, below, rfl⟩
      exact .cons ⟨rfl, own⟩ (forall₂_elementsMadeOf children below)

theorem forall₂_elementsMadeOf (nodes : List Node) {start next : Nat} {made : List Value}
    (filled : fillNodes values start nodes = .ok (made, next)) :
    List.Forall₂ (IsFilledAs values) (tagsOf nodes) (elementsMadeOf nodes made) := by
  cases nodes with
  | nil => exact .nil
  | cons head tail =>
      rcases exists_of_fillNodes_cons filled with ⟨value, others, between, first, later, rfl⟩
      exact List.rel_append (forall₂_elementsMade head first) (forall₂_elementsMadeOf tail later)
end

theorem forestElements_of_several {nodes : List Node}
    (several : ∀ tag children, nodes = [.element tag children] → False) (number : Nat)
    (type : Value) (attributes : Entries) (children : List Value) :
    forestElements nodes (.element number type attributes children)
      = elementsMadeOf nodes children := by
  unfold forestElements
  split
  · exact (several _ _ rfl).elim
  · next same => cases same; rfl
  · next other => exact (other _ _ _ _ rfl).elim

theorem forall₂_forestElements {nodes : List Node} {start : Nat} {value : Value}
    (filled : fillForest values start nodes = .ok value) :
    List.Forall₂ (IsFilledAs values) (tagsOf nodes) (forestElements nodes value) := by
  unfold fillForest at filled
  split at filled
  · next tag children =>
      rcases exists_of_bind_eq_ok filled with ⟨⟨made, next⟩, first, filled⟩
      cases filled
      have here := forall₂_elementsMade _ first
      rw [tagsOf, tagsOf, List.append_nil]
      exact here
  · next several =>
      rcases exists_of_bind_eq_ok filled with ⟨⟨children, next⟩, below, filled⟩
      cases filled
      rw [forestElements_of_several several]
      exact forall₂_elementsMadeOf nodes below

end Filling

/-! ## Whole templates -/

/-- What the tags of a template mention is what its elements have. -/
structure KeepsMentions (template : Template) (markup : Markup) (value : Value) : Prop where
  values : template.values = .ok markup.values
  written : ∃ tags, WritesTags (Symbol.ofStrings template.strings) tags
  made : ∀ tags, WritesTags (Symbol.ofStrings template.strings) tags →
    List.Forall₂ (IsMadeAs markup.values) tags (forestElements markup.nodes value)

theorem isMadeAs_of_isFilledAs {values : List Value} {written : WrittenTag} {element : Element}
    (filled : IsFilledAs values written.tag element) : IsMadeAs values written element := by
  refine ⟨filled.type, ?_⟩
  have attributes := filled.attributes
  rw [show written.tag.attributes = written.mentions.map Mention.attribute from rfl,
    fillAttributes_map_attribute] at attributes
  cases mentioned : Mention.allEntries values written.mentions with
  | error problem => rw [mentioned] at attributes; cases attributes
  | ok entries =>
      rw [mentioned] at attributes
      refine ⟨entries, rfl, ?_⟩
      rw [← Except.ok.inj attributes]
      exact Entries.holdsLast_merge entries

/-- In a template that is accepted, every tag that begins an element mentions attributes in the ways in
which they can be spelled. The element has each of them once, in the order of the first mentions and
with the value of the last one. -/
theorem keepsMentions {template : Template} {markup : Markup} {start : Nat} {value : Value}
    (read : readMarkup (.template template) = .ok markup)
    (made : markup.toElement start = .ok value) : KeepsMentions template markup value := by
  rcases eq_ok_of_readMarkup read with ⟨_, accepted, values⟩
  rcases exists_tagsOf_of_readStrings accepted with ⟨events, given, tags⟩
  refine ⟨values, exists_writesTags given, ?_⟩
  intro written spelled
  rcases exists_events_of_writesTags spelled [] with ⟨others, same, alike⟩
  cases given.symm.trans same
  have elements := forall₂_forestElements (eq_ok_of_mapError made)
  rw [tags, alike, List.forall₂_map_left_iff] at elements
  exact elements.imp fun _ _ => isMadeAs_of_isFilledAs

/-- What comes later wins over what a mapping brought, and the place of the first mention is kept. -/
theorem keepsMentions_paragraph :
    let mapping : Value := .mapping [(.text "a", .integer 5), (.text "c", .integer 7)]
    let template : Template := ⟨["<p a=1 b ...", " a='x", "y' b=", "/>"],
      [⟨mapping, .null, .text ""⟩, ⟨.boolean true, .null, .text ""⟩, ⟨.list [], .null, .text ""⟩]⟩
    let markup : Markup :=
      ⟨[.element ⟨.literal "p", [.named "a" (.text "1"), .named "b" .bare, .spread 0,
        .named "a" (.mixed [.text "x", .hole 1, .text "y"]), .named "b" (.hole 2)]⟩ []],
        [mapping, .boolean true, .list []]⟩
    let value : Value := .element 0 (.text "p")
      [(.text "a", .text "xTruey"), (.text "b", .list []), (.text "c", .integer 7)] []
    readMarkup (.template template) = .ok markup ∧ markup.toElement 0 = .ok value ∧
      KeepsMentions template markup value := by
  intro mapping template markup value
  have read : readMarkup (.template template) = .ok markup := rfl
  have made : markup.toElement 0 = .ok value := rfl
  exact ⟨read, made, keepsMentions read made⟩

end HtmlStream.Template
