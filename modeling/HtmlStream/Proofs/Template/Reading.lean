import HtmlStream.Proofs.Template.Openers
import HtmlStream.Proofs.Template.Source

/-!
Reading the markup of a tree. After each piece of it the reader is in a known state, whatever comes
next: in text between tags, and inside a tag where the tag may go on or end. The main statement is
`readStrings_source`.
-/
namespace HtmlStream.Template

/-- Reading some characters leads from one state to another, whatever comes after them. -/
def Reads (chars : List Char) (before after : Reading × Builder) : Prop :=
  ∀ position rest, readFrom before.1 before.2 position (chars.map .character ++ rest)
    = readFrom after.1 after.2 (position + chars.length) rest

theorem reads_nil (state : Reading × Builder) : Reads [] state state := fun _ _ => rfl

theorem Reads.append {chars others : List Char} {before between after : Reading × Builder}
    (first : Reads chars before between) (second : Reads others between after) :
    Reads (chars ++ others) before after := by
  intro position rest
  rw [List.map_append, List.append_assoc, first, second, List.length_append, Nat.add_assoc]

theorem Reads.cons {character : Char} {others : List Char}
    {before between after : Reading × Builder} (first : Reads [character] before between)
    (second : Reads others between after) : Reads (character :: others) before after :=
  first.append second

variable {reading next : Reading} {builder built : Builder} {character : Char}

theorem reads_events {events : List Event}
    (read : ∀ following, reading.readCharacter character following = .ok (next, events))
    (applied : builder.applyAll events = .ok built) :
    Reads [character] (reading, builder) (next, built) := by
  intro position rest
  have advanced : advance reading builder (.character character) (Symbol.firstCharacter? rest)
      = .ok (next, built) := by
    unfold advance Reading.read
    dsimp only
    rw [read]
    show (do return (next, ← builder.applyAll events)) = _
    rw [applied]
    rfl
  show readFrom reading builder position (.character character :: rest) = _
  rw [readFrom, advanced]
  rfl

theorem reads_quiet
    (read : ∀ following, reading.readCharacter character following = Reading.quiet next) :
    Reads [character] (reading, builder) (next, builder) :=
  reads_events read rfl

/-- Characters that are only gathered, each after those before it. -/
theorem reads_gathering (state : List Char → Reading) (chars : List Char) {run : List Char}
    (gathers : Gathers state chars run) :
    Reads chars (state run, builder) (state (chars.reverse ++ run), builder) := by
  induction chars generalizing run with
  | nil => exact reads_nil _
  | cons first others induction =>
      rw [List.reverse_cons, List.append_assoc]
      exact (reads_quiet gathers.head).cons (induction gathers.tail)

theorem mem_of_isPrefix {before chars : List Char} {character : Char}
    (within : before ++ [character] <+: chars) : character ∈ chars :=
  within.subset (List.mem_append_right before (List.mem_singleton_self character))

def Tree.toAttribute : String × Option String → Attribute
  | (name, none) => .named name .bare
  | (name, some content) => .named name (.text content)

namespace Reading

/-! ## Tags -/

/-- States from which a tag goes on to its attributes or ends. -/
structure EndsTag (tag : Tag) (reading : Reading) : Prop where
  blank : ∀ following, reading.readCharacter ' ' following = quiet (.attributes tag)
  close : ∀ following, reading.readCharacter '>' following = .ok (.text [], [openEvent tag])

theorem endsTag_attributes (tag : Tag) : EndsTag tag (.attributes tag) :=
  ⟨fun _ => rfl, fun _ => rfl⟩

theorem endsTag_attributeName (tag : Tag) (name : List Char) :
    EndsTag (withBare tag name) (.attributeName tag name) :=
  ⟨fun _ => rfl, fun _ => rfl⟩

theorem nameOf_reverse (name : String) : nameOf name.toList.reverse = name := by
  unfold nameOf
  rw [List.reverse_reverse, String.ofList_toList]

theorem endsTag_tagName {name : String} (nonempty : name ≠ "") :
    EndsTag ⟨.literal name, []⟩ (.tagName name.toList.reverse none) := by
  have begun : beginTag name.toList.reverse none = .ok ⟨.literal name, []⟩ := by
    unfold beginTag
    rw [nameOf_reverse]
    simp [nonempty]
  constructor
  · intro following
    show inTagName _ _ ' ' = _
    unfold inTagName
    rw [begun]
    rfl
  · intro following
    show inTagName _ _ '>' = _
    unfold inTagName
    rw [begun]
    rfl

theorem not_isOpener_of_isTagName {name : String} (readable : Tree.IsTagName name)
    {shorter : List Char} (within : shorter <+: name.toList) : ¬ IsOpener shorter := by
  intro opens
  rcases isOpener_iff.mp opens with rfl | keyword
  · exact readable.noComment within
  · have lowercased : (Text.lowercase name).toList = name.toList.map Text.lowercaseCharacter :=
      String.toList_ofList
    have lowered := within.map Text.lowercaseCharacter
    rw [keyword, ← lowercased] at lowered
    exact readable.noDeclaration lowered

theorem reads_tagName {name : String} (readable : Tree.IsTagName name) :
    Reads name.toList (.tagName [] none, builder) (.tagName name.toList.reverse none, builder) := by
  have gathering : Reads name.toList (.tagName [] none, builder)
      (.tagName (name.toList.reverse ++ []) none, builder) :=
    reads_gathering (fun read => .tagName read none) name.toList
      (gathers_tagName none readable.unbroken fun _ => not_isOpener_of_isTagName readable)
  rwa [List.append_nil] at gathering

theorem reads_opener {opener : List Char} (opens : IsOpener opener) (hole : Option Nat) :
    Reads opener (.tagName [] hole, builder) (afterTagName opener.reverse hole, builder) := by
  rcases opens.exists_lead hole with ⟨lead, last, rfl, gathers, ends⟩
  have gathering : Reads lead (.tagName [] hole, builder)
      (.tagName (lead.reverse ++ []) hole, builder) :=
    reads_gathering (fun read => .tagName read hole) lead gathers
  rw [List.append_nil] at gathering
  exact gathering.append (reads_quiet ends)

/-! ## Attributes -/

theorem inAttributes_of_isNameCharacter {tag : Tag} (goesOn : IsNameCharacter character)
    (noEquals : character ≠ '=') (notDouble : character ≠ '"') (notSingle : character ≠ '\'') :
    inAttributes tag character = quiet (.attributeName tag [character]) := by
  simp [inAttributes, goesOn.1, goesOn.2.1, goesOn.2.2, noEquals, notDouble, notSingle]

/-- The name of an attribute grows up to an equals sign or to what ends any name. -/
theorem gathers_attributeName (tag : Tag) {name : List Char} (run : List Char)
    (unbroken : ∀ character ∈ name, IsNameCharacter character ∧ character ≠ '=') :
    Gathers (.attributeName tag) name run := by
  intro before character within following
  rcases unbroken character (mem_of_isPrefix within)
    with ⟨⟨notBlank, noSlash, noBracket⟩, noEquals⟩
  show inAttributeName _ _ _ = _
  simp [inAttributeName, notBlank, noEquals, noSlash, noBracket]

/-- The name of an attribute, after which it may end or have a value. -/
theorem reads_attributeName {tag : Tag} {name : String} (readable : Tree.IsAttributeName name) :
    Reads name.toList (.attributes tag, builder)
      (.attributeName tag name.toList.reverse, builder) := by
  have nonempty : name.toList ≠ [] :=
    fun empty => readable.nonempty (String.toList_eq_nil_iff.mp empty)
  have unbroken : ∀ character ∈ name.toList, IsNameCharacter character ∧ character ≠ '=' := by
    intro character member
    rcases readable.unbroken character member with ⟨notBlank, noEquals, noSlash, noBracket⟩
    exact ⟨⟨notBlank, noSlash, noBracket⟩, noEquals⟩
  have unquoted := readable.unquoted
  rcases List.exists_cons_of_ne_nil nonempty with ⟨first, others, spelled⟩
  rw [spelled] at unbroken unquoted ⊢
  rcases List.forall_mem_cons.mp unbroken with ⟨⟨goesOn, noEquals⟩, later⟩
  rcases unquoted first rfl with ⟨notDouble, notSingle⟩
  have starts : Reads [first] (.attributes tag, builder) (.attributeName tag [first], builder) :=
    reads_quiet fun _ => inAttributes_of_isNameCharacter goesOn noEquals notDouble notSingle
  have gathering : Reads others (.attributeName tag [first], builder)
      (.attributeName tag (others.reverse ++ [first]), builder) :=
    reads_gathering (.attributeName tag) others (gathers_attributeName tag [first] later)
  rw [List.reverse_cons]
  exact starts.cons gathering

def valuePieces (run : List Char) : List Piece :=
  if run.isEmpty then [] else [.text (nameOf run)]

theorem appendCharacter_valuePieces (character : Char) (run : List Char) :
    appendCharacter character (valuePieces run) = valuePieces (character :: run) := by
  cases run with
  | nil => rfl
  | cons last others =>
      show [Piece.text ((nameOf (last :: others)).push character)] = [Piece.text (nameOf _)]
      have pushed : (nameOf (last :: others)).push character
          = nameOf (character :: last :: others) := by
        rw [← String.toList_inj]
        simp [nameOf]
      rw [pushed]

theorem ofPieces_valuePieces (content : String) :
    AttributeValue.ofPieces (valuePieces content.toList.reverse).reverse = .text content := by
  unfold valuePieces
  split
  next empty =>
    have noCharacters := List.reverse_eq_nil_iff.mp (List.isEmpty_iff.mp empty)
    rw [String.toList_eq_nil_iff.mp noCharacters]
    rfl
  next => exact congrArg AttributeValue.text (nameOf_reverse content)

theorem reads_quotedValue {tag : Tag} {name : List Char} {content : String}
    (unquoted : '"' ∉ content.toList) :
    Reads ('=' :: '"' :: content.toList ++ ['"']) (.attributeName tag name, builder)
      (.attributes (withAttribute tag (.named (nameOf name) (.text content))), builder) := by
  have equals : Reads ['='] (.attributeName tag name, builder)
      (.attributeValue tag name, builder) := reads_quiet fun _ => rfl
  have opens : Reads ['"'] (.attributeValue tag name, builder)
      (.quotedValue tag name '"' (valuePieces []), builder) := reads_quiet fun _ => rfl
  have gathering : Reads content.toList (.quotedValue tag name '"' (valuePieces []), builder)
      (.quotedValue tag name '"' (valuePieces (content.toList.reverse ++ [])), builder) := by
    refine reads_gathering (fun run => .quotedValue tag name '"' (valuePieces run))
      content.toList ?_
    intro before character within following
    have noQuote : character ≠ '"' := fun quote => unquoted (quote ▸ mem_of_isPrefix within)
    show inQuotedValue _ _ _ _ _ = _
    rw [inQuotedValue, if_neg noQuote, appendCharacter_valuePieces]
  have closes : Reads ['"'] (.quotedValue tag name '"' (valuePieces content.toList.reverse), builder)
      (.attributes (withAttribute tag (.named (nameOf name) (.text content))), builder) := by
    refine reads_quiet fun _ => ?_
    show quiet (.attributes (withValue tag name _)) = _
    rw [withValue, ofPieces_valuePieces]
  rw [List.append_nil] at gathering
  exact equals.cons (opens.cons (gathering.append closes))

/-- After an attribute its tag may end or go on, as it may before. -/
theorem reads_attribute {tag : Tag} (ends : EndsTag tag reading) {entry : String × Option String}
    (readable : Tree.IsAttributeName entry.1)
    (unquoted : ∀ content ∈ entry.2, '"' ∉ content.toList) :
    ∃ after, EndsTag (withAttribute tag (Tree.toAttribute entry)) after ∧
      Reads (Tree.attributeSource entry) (reading, builder) (after, builder) := by
  rcases entry with ⟨name, content?⟩
  have begins : Reads [' '] (reading, builder) (.attributes tag, builder) :=
    reads_quiet ends.blank
  have named := begins.cons (reads_attributeName readable)
  cases content? with
  | none =>
      have bare := endsTag_attributeName tag name.toList.reverse
      rw [withBare, nameOf_reverse] at bare
      exact ⟨_, bare, named⟩
  | some content =>
      have valued : Reads ('=' :: '"' :: content.toList ++ ['"'])
          (.attributeName tag name.toList.reverse, builder)
          (.attributes (withAttribute tag (.named (nameOf name.toList.reverse) (.text content))),
            builder) := reads_quotedValue (unquoted content rfl)
      rw [nameOf_reverse] at valued
      refine ⟨_, endsTag_attributes _, ?_⟩
      rw [Tree.attributeSource, List.append_assoc]
      exact named.append valued

theorem reads_attributes {tag : Tag} (ends : EndsTag tag reading)
    {attributes : List (String × Option String)}
    (readable : ∀ entry ∈ attributes, Tree.IsAttributeName entry.1)
    (unquoted : ∀ entry ∈ attributes, ∀ content ∈ entry.2, '"' ∉ content.toList) :
    ∃ after, EndsTag ⟨tag.name, (attributes.map Tree.toAttribute).reverse ++ tag.attributes⟩ after ∧
      Reads (Tree.attributesSource attributes) (reading, builder) (after, builder) := by
  induction attributes generalizing tag reading with
  | nil => exact ⟨reading, ends, reads_nil _⟩
  | cons entry others induction =>
      rcases reads_attribute ends (readable entry List.mem_cons_self)
        (unquoted entry List.mem_cons_self) with ⟨between, endsBetween, first⟩
      rcases induction endsBetween
        (fun other member => readable other (List.mem_cons_of_mem entry member))
        (fun other member => unquoted other (List.mem_cons_of_mem entry member))
        with ⟨after, endsAfter, later⟩
      refine ⟨after, ?_, first.append later⟩
      rw [List.map_cons, List.reverse_cons, List.append_assoc]
      exact endsAfter

end Reading
end HtmlStream.Template
