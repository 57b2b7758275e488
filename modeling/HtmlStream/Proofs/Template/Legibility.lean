import HtmlStream.Proofs.Text.Trimming
import HtmlStream.Template.Forest
import HtmlStream.Template.Tree

/-!
What a template without holes can be read as. All names in it can be read again, its texts are trimmed
and hold no opening bracket, void elements have no children, and the only markup that is passed on is
that of declarations. The main statement is `isLegible_readStrings`.
-/
namespace HtmlStream.Template

/-! ## Nodes -/

/-- What stands between the brackets of a declaration. -/
structure IsDeclaration (name : List Char) : Prop where
  keyword : ∃ first rest, name = first ++ rest ∧ first.map Text.lowercaseCharacter = "!doctype".toList
  unclosed : '>' ∉ name

def IsLegibleText (content : String) : Prop :=
  '<' ∉ content.toList ∧ content ≠ "" ∧ Text.IsTrimmed content.toList

/-- The markup of a declaration, brackets included. -/
def IsLegibleMarkup (content : String) : Prop :=
  ∃ name, content = "<" ++ String.ofList name ++ ">" ∧ IsDeclaration name

/-- The characters of an attribute name, which may be the one under which children are declared. -/
structure SpellsAttribute (name : List Char) : Prop where
  nonempty : name ≠ []
  unbroken : ∀ character ∈ name,
    Text.isBlank character = false ∧ character ≠ '=' ∧ character ≠ '/' ∧ character ≠ '>'
  unquoted : ∀ first ∈ name.head?, first ≠ '"' ∧ first ≠ '\''

theorem SpellsAttribute.isAttributeName {name : String} (spells : SpellsAttribute name.toList)
    (notChildren : name ≠ "children") : Tree.IsAttributeName name where
  nonempty := fun empty => spells.nonempty (String.toList_eq_nil_iff.mpr empty)
  notChildren
  unbroken := spells.unbroken
  unquoted := spells.unquoted

def Attribute.IsLegible : Attribute → Prop
  | .named name value =>
      SpellsAttribute name.toList ∧ (value = .bare ∨ ∃ content, value = .text content)
  | .spread _ => False

structure Tag.IsLegible (tag : Tag) (name : String) : Prop where
  literal : tag.name = .literal name
  readable : Tree.IsTagName name
  attributes : ∀ entry ∈ tag.attributes, entry.IsLegible

mutual
def Node.IsLegible : Node → Prop
  | .text content => IsLegibleText content
  | .markup content => IsLegibleMarkup content
  | .hole _ => False
  | .element tag children =>
      (∃ name, tag.IsLegible name ∧ (isVoid name = true → children = [])) ∧
        Node.AreLegible children

def Node.AreLegible : List Node → Prop
  | [] => True
  | head :: tail => Node.IsLegible head ∧ Node.AreLegible tail
end

theorem Node.areLegible_iff {nodes : List Node} :
    AreLegible nodes ↔ ∀ node ∈ nodes, node.IsLegible := by
  induction nodes with
  | nil => exact ⟨fun _ _ member => absurd member List.not_mem_nil, fun _ => trivial⟩
  | cons head tail induction => rw [AreLegible, induction, List.forall_mem_cons]

def Event.IsLegible : Event → Prop
  | .text content => IsLegibleText content
  | .markup content => IsLegibleMarkup content
  | .hole _ => False
  | .empty tag => ∃ name, tag.IsLegible name
  | .opening tag => ∃ name, tag.IsLegible name ∧ isVoid name = false
  | .closing _ => True

/-! ## Reading -/

namespace Reading

/-- The characters of a tag name so far. -/
structure SpellsTag (name : List Char) : Prop where
  unbroken : ∀ character ∈ name,
    Text.isBlank character = false ∧ character ≠ '/' ∧ character ≠ '>'
  noComment : ¬ "!--".toList <+: name
  noDeclaration : ¬ "!doctype".toList <+: name.map Text.lowercaseCharacter

theorem SpellsTag.isTagName {name : List Char} (spells : SpellsTag name) (nonempty : name ≠ []) :
    Tree.IsTagName (String.ofList name) where
  nonempty := by
    rw [Ne, ← String.toList_eq_nil_iff, String.toList_ofList]
    exact nonempty
  unbroken := by
    rw [String.toList_ofList]
    exact spells.unbroken
  noComment := by
    have spelled : (String.ofList name).toList = name := String.toList_ofList
    rw [spelled]
    exact spells.noComment
  noDeclaration := by
    have spelled : (Text.lowercase (String.ofList name)).toList
        = name.map Text.lowercaseCharacter := by
      rw [Text.lowercase, String.toList_ofList, String.toList_ofList]
    rw [spelled]
    exact spells.noDeclaration

def ArePlain (pieces : List Piece) : Prop :=
  pieces = [] ∨ ∃ content, pieces = [.text content]

/-- What is known about where a reader is that has met no hole. Names are kept reversed. -/
def IsLegible : Reading → Prop
  | .text run => '<' ∉ run
  | .tagName name hole => hole = none ∧ SpellsTag name.reverse
  | .attributes tag | .selfClosing tag => ∃ type, tag.IsLegible type
  | .attributeName tag name | .attributeValue tag name =>
      (∃ type, tag.IsLegible type) ∧ SpellsAttribute name.reverse
  | .quotedValue tag name _ pieces | .unquotedValue tag name pieces =>
      (∃ type, tag.IsLegible type) ∧ SpellsAttribute name.reverse ∧ ArePlain pieces
  | .closingTag _ | .comment _ => True
  | .declaration name => IsDeclaration name.reverse

/-- Whatever a step of the reader comes to is legible. -/
def KeepsLegible (result : Result) : Prop :=
  ∀ reading events, result = .ok (reading, events) →
    reading.IsLegible ∧ ∀ event ∈ events, event.IsLegible

theorem keepsLegible_error (cause : SyntaxCause) : KeepsLegible (.error cause) := nofun

theorem keepsLegible_ok {reading : Reading} {events : List Event} (legible : reading.IsLegible)
    (all : ∀ event ∈ events, event.IsLegible) : KeepsLegible (.ok (reading, events)) := by
  intro _ _ same
  cases same
  exact ⟨legible, all⟩

theorem keepsLegible_quiet {reading : Reading} (legible : reading.IsLegible) :
    KeepsLegible (quiet reading) :=
  keepsLegible_ok legible fun _ member => absurd member List.not_mem_nil

theorem keepsLegible_event {reading : Reading} {event : Event} (legible : reading.IsLegible)
    (legibleEvent : event.IsLegible) : KeepsLegible (.ok (reading, [event])) :=
  keepsLegible_ok legible fun _ member => List.mem_singleton.mp member ▸ legibleEvent

/-! ### Parts of tags -/

theorem isLegible_withAttribute {tag : Tag} {type : String} (legible : tag.IsLegible type)
    {added : Attribute} (legibleAdded : added.IsLegible) :
    (withAttribute tag added).IsLegible type where
  literal := legible.literal
  readable := legible.readable
  attributes := List.forall_mem_cons.mpr ⟨legibleAdded, legible.attributes⟩

theorem isLegible_named {name : List Char} (spells : SpellsAttribute name.reverse)
    {value : AttributeValue} (static : value = .bare ∨ ∃ content, value = .text content) :
    (Attribute.named (nameOf name) value).IsLegible := by
  refine ⟨?_, static⟩
  unfold nameOf
  rwa [String.toList_ofList]

theorem ofPieces_of_arePlain {pieces : List Piece} (plain : ArePlain pieces) :
    ∃ content, AttributeValue.ofPieces pieces.reverse = .text content := by
  rcases plain with rfl | ⟨content, rfl⟩
  · exact ⟨"", rfl⟩
  · exact ⟨content, rfl⟩

theorem arePlain_appendCharacter {pieces : List Piece} (plain : ArePlain pieces)
    (character : Char) : ArePlain (appendCharacter character pieces) := by
  rcases plain with rfl | ⟨content, rfl⟩
  · exact .inr ⟨_, rfl⟩
  · exact .inr ⟨_, rfl⟩

theorem isLegible_finished {tag : Tag} {type : String} (legible : tag.IsLegible type) :
    (finished tag).IsLegible type where
  literal := legible.literal
  readable := legible.readable
  attributes := fun entry member => legible.attributes entry (List.mem_reverse.mp member)

theorem isLegible_openEvent {tag : Tag} {type : String} (legible : tag.IsLegible type) :
    (openEvent tag).IsLegible := by
  unfold openEvent
  rw [legible.literal]
  dsimp only
  cases void : isVoid type with
  | true => exact ⟨type, isLegible_finished legible⟩
  | false => exact ⟨type, isLegible_finished legible, void⟩

section Attributes

variable {tag : Tag} {type : String} (legible : tag.IsLegible type) {name : List Char}
  (spells : SpellsAttribute name.reverse)

include legible spells

theorem isLegible_withBare : (withBare tag name).IsLegible type :=
  isLegible_withAttribute legible (isLegible_named spells (.inl rfl))

theorem isLegible_withValue {pieces : List Piece} (plain : ArePlain pieces) :
    (withValue tag name pieces).IsLegible type :=
  isLegible_withAttribute legible (isLegible_named spells (.inr (ofPieces_of_arePlain plain)))

end Attributes

theorem isLegible_textEvents {run : List Char} (noBracket : '<' ∉ run) :
    ∀ event ∈ textEvents run, event.IsLegible := by
  unfold textEvents
  dsimp only
  split
  · exact fun _ member => absurd member List.not_mem_nil
  next nonempty =>
    intro event member
    rw [List.mem_singleton.mp member]
    refine ⟨?_, ?_, ?_⟩
    · rw [String.toList_ofList]
      exact fun bracket => noBracket (List.mem_reverse.mp (Text.mem_of_mem_trimBreaks bracket))
    · rw [Ne, ← String.toList_eq_nil_iff, String.toList_ofList]
      exact fun empty => nonempty (List.isEmpty_iff.mpr empty)
    · rw [String.toList_ofList]
      exact Text.isTrimmed_trimBreaks run.reverse

/-- A name that a bracket, a slash or a blank ends begins a tag. -/
theorem isLegible_beginTag {name : List Char} (spells : SpellsTag name.reverse) {tag : Tag}
    (begun : beginTag name none = .ok tag) : ∃ type, tag.IsLegible type := by
  unfold beginTag at begun
  dsimp only at begun
  split at begun
  · cases begun
  next nonempty =>
    cases begun
    have spelled : name.reverse ≠ [] := fun empty =>
      nonempty (List.isEmpty_iff.mpr (List.reverse_eq_nil_iff.mp empty))
    exact ⟨nameOf name, rfl, spells.isTagName spelled, fun _ member => absurd member List.not_mem_nil⟩

theorem keepsLegible_beginTag {name : List Char} (spells : SpellsTag name.reverse)
    {goOn : Tag → Result} (keeps : ∀ tag type, tag.IsLegible type → KeepsLegible (goOn tag)) :
    KeepsLegible (beginTag name none >>= goOn) := by
  cases begun : beginTag name none with
  | error cause => exact keepsLegible_error cause
  | ok tag =>
      rcases isLegible_beginTag spells begun with ⟨type, legible⟩
      exact keeps tag type legible

/-- A name of a tag grows, unless it has become the beginning of a comment or a declaration. -/
theorem isLegible_afterTagName {name : List Char} (spells : SpellsTag name.reverse)
    {character : Char} (solid : Text.isBlank character = false) (noSlash : character ≠ '/')
    (noBracket : character ≠ '>') : (afterTagName (character :: name) none).IsLegible := by
  have grown : (character :: name).reverse = name.reverse ++ [character] := List.reverse_cons
  unfold afterTagName nameOf Text.lowercase
  rw [grown, String.toList_ofList]
  split
  · trivial
  next noComment =>
    have unclosed : '>' ∉ name.reverse ++ [character] := by
      rw [List.mem_append, List.mem_singleton]
      exact not_or.mpr ⟨fun member => (spells.unbroken _ member).2.2 rfl, noBracket.symm⟩
    split
    next declaration =>
      rw [← String.toList_inj, String.toList_ofList] at declaration
      refine ⟨⟨name.reverse ++ [character], [], ?_, declaration⟩, ?_⟩
      · rw [grown, List.append_nil]
      · rw [grown]
        exact unclosed
    next noDeclaration =>
      refine ⟨rfl, ?_⟩
      rw [grown]
      constructor
      · intro other member
        rcases List.mem_append.mp member with earlier | last
        · exact spells.unbroken other earlier
        · rw [List.mem_singleton.mp last]
          exact ⟨solid, noSlash, noBracket⟩
      · rw [List.prefix_concat_iff]
        rintro (whole | within)
        · exact noComment (by rw [← String.toList_inj, String.toList_ofList]; exact whole.symm)
        · exact spells.noComment within
      · rw [List.map_append, List.map_singleton, List.prefix_concat_iff]
        rintro (whole | within)
        · refine noDeclaration ?_
          rw [← String.toList_inj, String.toList_ofList, List.map_append, List.map_singleton]
          exact whole.symm
        · exact spells.noDeclaration within

theorem SpellsAttribute.concat {name : List Char} (spells : SpellsAttribute name.reverse)
    {character : Char} (solid : Text.isBlank character = false) (noEquals : character ≠ '=')
    (noSlash : character ≠ '/') (noBracket : character ≠ '>') :
    SpellsAttribute (character :: name).reverse := by
  rw [List.reverse_cons]
  constructor
  · exact List.append_ne_nil_of_right_ne_nil _ (List.cons_ne_nil _ _)
  · intro other member
    rcases List.mem_append.mp member with earlier | last
    · exact spells.unbroken other earlier
    · rw [List.mem_singleton.mp last]
      exact ⟨solid, noEquals, noSlash, noBracket⟩
  · intro first begins
    refine spells.unquoted first ?_
    cases reversed : name.reverse with
    | nil => exact absurd reversed spells.nonempty
    | cons head tail =>
        rw [reversed] at begins
        exact begins

/-! ### Steps -/

theorem keepsLegible_inText {run : List Char} (noBracket : '<' ∉ run) (character : Char) :
    KeepsLegible (inText run character) := by
  unfold inText
  split
  · exact keepsLegible_ok ⟨rfl, nofun, by decide, by decide⟩ (isLegible_textEvents noBracket)
  next other =>
    exact keepsLegible_quiet fun member =>
      (List.mem_cons.mp member).elim (fun same => other same.symm) noBracket

theorem keepsLegible_inTagName {name : List Char} (spells : SpellsTag name.reverse)
    (character : Char) : KeepsLegible (inTagName name none character) := by
  unfold inTagName
  split
  · exact keepsLegible_quiet trivial
  · split
    · exact keepsLegible_beginTag spells fun _ type legible => keepsLegible_quiet ⟨type, legible⟩
    next solid =>
      split
      · exact keepsLegible_beginTag spells fun _ _ legible =>
          keepsLegible_event List.not_mem_nil (isLegible_openEvent legible)
      next noBracket =>
        split
        · exact keepsLegible_beginTag spells fun _ type legible =>
            keepsLegible_quiet ⟨type, legible⟩
        next noSlash =>
          exact keepsLegible_quiet
            (isLegible_afterTagName spells (Bool.not_eq_true _ ▸ solid) noSlash noBracket)

section Tags

variable {tag : Tag} {type : String} (legible : tag.IsLegible type)

include legible

theorem keepsLegible_inAttributes (character : Char) :
    KeepsLegible (inAttributes tag character) := by
  unfold inAttributes
  split
  · exact keepsLegible_quiet ⟨type, legible⟩
  next solid =>
    split
    · exact keepsLegible_event List.not_mem_nil (isLegible_openEvent legible)
    next noBracket =>
      split
      · exact keepsLegible_quiet ⟨type, legible⟩
      next noSlash =>
        split
        · exact keepsLegible_error _
        next other =>
          rw [Bool.or_eq_true, Bool.or_eq_true, decide_eq_true_iff, decide_eq_true_iff,
            decide_eq_true_iff, not_or, not_or] at other
          refine keepsLegible_quiet ⟨⟨type, legible⟩, nofun, ?_, ?_⟩
          · intro same member
            rw [List.mem_singleton.mp member]
            exact ⟨Bool.not_eq_true _ ▸ solid, other.2, noSlash, noBracket⟩
          · intro first begins
            cases begins
            exact other.1

theorem keepsLegible_inSelfClosing (character : Char) :
    KeepsLegible (inSelfClosing tag character) := by
  unfold inSelfClosing
  split
  · exact keepsLegible_event List.not_mem_nil ⟨type, isLegible_finished legible⟩
  · split
    · exact keepsLegible_quiet ⟨type, legible⟩
    · exact keepsLegible_error _

variable {name : List Char} (spells : SpellsAttribute name.reverse)

include spells

theorem keepsLegible_inAttributeName (character : Char) :
    KeepsLegible (inAttributeName tag name character) := by
  have bare := isLegible_withBare legible spells
  unfold inAttributeName
  split
  · exact keepsLegible_quiet ⟨⟨type, legible⟩, spells⟩
  next noEquals =>
    split
    · exact keepsLegible_quiet ⟨type, bare⟩
    next solid =>
      split
      · exact keepsLegible_event List.not_mem_nil (isLegible_openEvent bare)
      next noBracket =>
        split
        · exact keepsLegible_quiet ⟨type, bare⟩
        next noSlash =>
          exact keepsLegible_quiet ⟨⟨type, legible⟩,
            SpellsAttribute.concat spells (Bool.not_eq_true _ ▸ solid) noEquals noSlash noBracket⟩

theorem keepsLegible_inAttributeValue (character : Char) :
    KeepsLegible (inAttributeValue tag name character) := by
  unfold inAttributeValue
  split
  · exact keepsLegible_quiet ⟨⟨type, legible⟩, spells, .inl rfl⟩
  · split
    · exact keepsLegible_quiet ⟨⟨type, legible⟩, spells⟩
    · split
      · exact keepsLegible_error _
      · exact keepsLegible_quiet
          ⟨⟨type, legible⟩, spells, arePlain_appendCharacter (.inl rfl) character⟩

variable {pieces : List Piece} (plain : ArePlain pieces)

include plain

theorem keepsLegible_inQuotedValue (quote character : Char) :
    KeepsLegible (inQuotedValue tag name quote pieces character) := by
  unfold inQuotedValue
  split
  · exact keepsLegible_quiet ⟨type, isLegible_withValue legible spells plain⟩
  · exact keepsLegible_quiet
      ⟨⟨type, legible⟩, spells, arePlain_appendCharacter plain character⟩

theorem keepsLegible_inUnquotedValue (character : Char) (next : Option Char) :
    KeepsLegible (inUnquotedValue tag name pieces character next) := by
  have valued := isLegible_withValue legible spells plain
  unfold inUnquotedValue
  split
  · exact keepsLegible_quiet ⟨type, valued⟩
  · split
    · exact keepsLegible_event List.not_mem_nil (isLegible_openEvent valued)
    · split
      · exact keepsLegible_quiet ⟨type, valued⟩
      · exact keepsLegible_quiet
          ⟨⟨type, legible⟩, spells, arePlain_appendCharacter plain character⟩

end Tags

theorem keepsLegible_inClosingTag (name : List Char) (character : Char) :
    KeepsLegible (inClosingTag name character) := by
  unfold inClosingTag
  split
  · exact keepsLegible_event List.not_mem_nil trivial
  · split <;> exact keepsLegible_quiet trivial

theorem keepsLegible_inComment (tail : List Char) (character : Char) :
    KeepsLegible (inComment tail character) := by
  unfold inComment
  split
  · exact keepsLegible_quiet List.not_mem_nil
  · exact keepsLegible_quiet trivial

theorem keepsLegible_inDeclaration {name : List Char} (declares : IsDeclaration name.reverse)
    (character : Char) : KeepsLegible (inDeclaration name character) := by
  unfold inDeclaration
  split
  · exact keepsLegible_event List.not_mem_nil ⟨name.reverse, rfl, declares⟩
  next other =>
    refine keepsLegible_quiet ?_
    rcases declares with ⟨⟨first, rest, split, keyword⟩, unclosed⟩
    show IsDeclaration (character :: name).reverse
    rw [List.reverse_cons]
    refine ⟨⟨first, rest ++ [character], ?_, keyword⟩, ?_⟩
    · rw [split, List.append_assoc]
    · rw [List.mem_append, List.mem_singleton]
      exact not_or.mpr ⟨unclosed, fun same => other same.symm⟩

theorem keepsLegible_readCharacter {reading : Reading} (legible : reading.IsLegible)
    (character : Char) (next : Option Char) :
    KeepsLegible (reading.readCharacter character next) := by
  cases reading with
  | text run => exact keepsLegible_inText legible character
  | tagName name hole =>
      rcases legible with ⟨rfl, spells⟩
      exact keepsLegible_inTagName spells character
  | attributes tag =>
      rcases legible with ⟨type, legible⟩
      exact keepsLegible_inAttributes legible character
  | attributeName tag name =>
      rcases legible with ⟨⟨type, legible⟩, spells⟩
      exact keepsLegible_inAttributeName legible spells character
  | attributeValue tag name =>
      rcases legible with ⟨⟨type, legible⟩, spells⟩
      exact keepsLegible_inAttributeValue legible spells character
  | quotedValue tag name quote pieces =>
      rcases legible with ⟨⟨type, legible⟩, spells, plain⟩
      exact keepsLegible_inQuotedValue legible spells plain quote character
  | unquotedValue tag name pieces =>
      rcases legible with ⟨⟨type, legible⟩, spells, plain⟩
      exact keepsLegible_inUnquotedValue legible spells plain character next
  | selfClosing tag =>
      rcases legible with ⟨type, legible⟩
      exact keepsLegible_inSelfClosing legible character
  | closingTag name => exact keepsLegible_inClosingTag name character
  | comment tail => exact keepsLegible_inComment tail character
  | declaration name => exact keepsLegible_inDeclaration legible character

theorem isLegible_finish {reading : Reading} (legible : reading.IsLegible) {events : List Event}
    (ended : reading.finish = .ok events) : ∀ event ∈ events, event.IsLegible := by
  cases reading with
  | text run =>
      cases ended
      exact isLegible_textEvents legible
  | _ => cases ended

end Reading

/-! ## Building -/

namespace Builder

structure IsLegible (builder : Builder) : Prop where
  finished : ∀ node ∈ builder.finished, node.IsLegible
  stack : ∀ element ∈ builder.stack,
    (∃ name, element.tag.IsLegible name ∧ isVoid name = false) ∧
      ∀ child ∈ element.children, child.IsLegible

theorem isLegible_empty : IsLegible empty :=
  ⟨fun _ member => absurd member List.not_mem_nil, fun _ member => absurd member List.not_mem_nil⟩

variable {builder : Builder} (legible : builder.IsLegible)

include legible

theorem IsLegible.add {node : Node} (legibleNode : node.IsLegible) : (builder.add node).IsLegible := by
  rcases builder with ⟨finished, stack⟩
  cases stack with
  | nil => exact ⟨List.forall_mem_cons.mpr ⟨legibleNode, legible.finished⟩, legible.stack⟩
  | cons innermost outer =>
      rcases List.forall_mem_cons.mp legible.stack with ⟨⟨tag, children⟩, others⟩
      exact ⟨legible.finished, List.forall_mem_cons.mpr
        ⟨⟨tag, List.forall_mem_cons.mpr ⟨legibleNode, children⟩⟩, others⟩⟩

theorem IsLegible.close {name : String} {built : Builder} (closed : builder.close name = .ok built) :
    built.IsLegible := by
  rcases builder with ⟨finished, stack⟩
  cases stack with
  | nil => cases closed
  | cons innermost outer =>
      rcases List.forall_mem_cons.mp legible.stack with ⟨⟨⟨type, tag, notVoid⟩, children⟩, others⟩
      unfold Builder.close at closed
      dsimp only at closed
      split at closed
      · cases closed
      · cases closed
        have outside : IsLegible ⟨finished, outer⟩ := ⟨legible.finished, others⟩
        have within : Node.AreLegible innermost.children.reverse :=
          Node.areLegible_iff.mpr fun child member => children child (List.mem_reverse.mp member)
        refine outside.add (show Node.IsLegible (.element _ _) from ⟨⟨type, tag, fun void => ?_⟩, within⟩)
        rw [notVoid] at void
        cases void

theorem IsLegible.apply {event : Event} (legibleEvent : event.IsLegible) {built : Builder}
    (applied : builder.apply event = .ok built) : built.IsLegible := by
  cases event with
  | text content =>
      cases applied
      exact legible.add legibleEvent
  | markup content =>
      cases applied
      exact legible.add legibleEvent
  | hole index => exact legibleEvent.elim
  | empty tag =>
      cases applied
      rcases legibleEvent with ⟨name, tag⟩
      exact legible.add ⟨⟨name, tag, fun _ => rfl⟩, trivial⟩
  | opening tag =>
      cases applied
      exact ⟨legible.finished, List.forall_mem_cons.mpr
        ⟨⟨legibleEvent, fun _ member => absurd member List.not_mem_nil⟩, legible.stack⟩⟩
  | closing name => exact legible.close applied

theorem IsLegible.applyAll {events : List Event} (all : ∀ event ∈ events, event.IsLegible)
    {built : Builder} (applied : builder.applyAll events = .ok built) : built.IsLegible := by
  induction events generalizing builder with
  | nil =>
      cases applied
      exact legible
  | cons event rest induction =>
      rcases List.forall_mem_cons.mp all with ⟨first, others⟩
      unfold Builder.applyAll at applied
      cases step : builder.apply event with
      | error cause =>
          rw [step] at applied
          cases applied
      | ok next =>
          rw [step] at applied
          exact induction (legible.apply first step) others applied

end Builder

/-! ## Templates -/

theorem isLegible_readFrom {reading : Reading} {builder : Builder} (legible : reading.IsLegible)
    (built : builder.IsLegible) {characters : List Char} {position : Nat} {nodes : List Node}
    (read : readFrom reading builder position (characters.map .character) = .ok nodes) :
    ∀ node ∈ nodes, node.IsLegible := by
  induction characters generalizing reading builder position with
  | nil =>
      unfold readFrom finishReading at read
      cases ended : reading.finish with
      | error cause =>
          rw [ended] at read
          cases read
      | ok events =>
          rw [ended] at read
          dsimp only [bind, Except.bind] at read
          cases applied : builder.applyAll events with
          | error cause =>
              rw [applied] at read
              cases read
          | ok last =>
              rw [applied] at read
              have legibleLast := built.applyAll (Reading.isLegible_finish legible ended) applied
              rcases last with ⟨finished, _ | ⟨innermost, outer⟩⟩
              · cases read
                exact fun node member => legibleLast.finished node (List.mem_reverse.mp member)
              · cases read
  | cons character rest induction =>
      rw [List.map_cons] at read
      unfold readFrom advance at read
      dsimp only [Reading.read] at read
      cases step : reading.readCharacter character
          (Symbol.firstCharacter? (rest.map .character)) with
      | error cause =>
          rw [step] at read
          cases read
      | ok after =>
          rcases after with ⟨next, events⟩
          rcases Reading.keepsLegible_readCharacter legible character _ next events step with
            ⟨legibleNext, legibleEvents⟩
          rw [step] at read
          dsimp only [bind, Except.bind] at read
          cases applied : builder.applyAll events with
          | error cause =>
              rw [applied] at read
              cases read
          | ok last =>
              rw [applied] at read
              exact induction legibleNext (built.applyAll legibleEvents applied) read

/-- The nodes of a template without holes are legible. -/
theorem isLegible_readStrings {source : String} {nodes : List Node}
    (read : readStrings [source] = .ok nodes) : ∀ node ∈ nodes, node.IsLegible := by
  have begins : Reading.IsLegible (.text []) := List.not_mem_nil
  exact isLegible_readFrom begins Builder.isLegible_empty read

end HtmlStream.Template
