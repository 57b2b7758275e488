import HtmlStream.Template.Fill
import HtmlStream.Template.Holes
import HtmlStream.Value.Mention

/-!
How the tags of a template are written, and what they say about the attributes of their elements. This is
told from the source, without a reader: a tag mentions names and mappings one after the other, and each
mention has its own spelling.
-/
namespace HtmlStream.Template

inductive Mention where
  /-- A name without a value. -/
  | bare (name : List Char)
  /-- A name with what is between its quotes, or with all that follows without quotes. -/
  | valued (name : List Char) (content : List Symbol)
  /-- The attributes in a mapping. -/
  | spread (index : Nat)

/-- The tag that begins an element, as it is written. -/
structure WrittenTag where
  name : TagName
  mentions : List Mention

/-! ## Values -/

/-- What a symbol of a value contributes to a text. -/
def Symbol.written (values : List Value) : Symbol → Except Fault String
  | .character given => .ok (String.singleton given)
  | .hole index => (valueAt values index).written

/-- A single hole keeps its value as it is. Everything else is a text: the characters and the texts of
the values in the order of the source. -/
def contentValue (values : List Value) : List Symbol → Except Fault Value
  | [.hole index] => .ok (valueAt values index)
  | content => do return .text (String.join (← content.mapM (Symbol.written values)))

namespace Mention

/-- The entries that are mentioned. -/
def entries (values : List Value) : Mention → Except Fault Entries
  | .bare name => .ok [(.text (String.ofList name), .boolean true)]
  | .valued name content => do
      return [(.text (String.ofList name), ← contentValue values content)]
  | .spread index =>
      match (valueAt values index).asMapping? with
      | some entries => .ok entries
      | none => .error (.spreadNotMapping (valueAt values index).typeName)

def allEntries (values : List Value) (mentions : List Mention) : Except Fault Entries := do
  return (← mentions.mapM (entries values)).flatten

end Mention

/-! ## Spelling -/

/-- The name of an attribute. Quotes count as any other character after the first one. -/
structure IsMentionName (name : List Char) : Prop where
  nonempty : name ≠ []
  unbroken : ∀ character ∈ name, IsNameCharacter character ∧ character ≠ '='
  unquoted : ∀ first ∈ name.head?, first ≠ '"' ∧ first ≠ '\''

/-- What comes next ends a name. -/
inductive EndsName : List Symbol → Prop
  | blank {character : Char} {rest : List Symbol} (blank : Text.isBlank character = true) :
      EndsName (.character character :: rest)
  | slash {rest : List Symbol} : EndsName (.character '/' :: rest)
  | close {rest : List Symbol} : EndsName (.character '>' :: rest)

/-- What comes next ends a value without quotes. A slash does so only where it closes the tag. -/
inductive EndsValue : List Symbol → Prop
  | blank {character : Char} {rest : List Symbol} (blank : Text.isBlank character = true) :
      EndsValue (.character character :: rest)
  | close {rest : List Symbol} : EndsValue (.character '>' :: rest)
  | selfClose {rest : List Symbol} : EndsValue (.character '/' :: .character '>' :: rest)

/-- A value without quotes begins neither with a quote nor with what ends a tag. -/
def BeginsValue (symbol : Symbol) : Prop :=
  ∀ character ∈ symbol.character?,
    Text.isBlank character = false ∧ character ≠ '>' ∧ character ≠ '"' ∧ character ≠ '\''

/-- A value without quotes goes on from its first symbol to the first place where it can end. -/
structure IsUnquoted (content rest : List Symbol) : Prop where
  begins : ∃ symbol ∈ content.head?, BeginsValue symbol
  goesOn : ∀ shorter longer, content = shorter ++ longer → shorter ≠ [] → longer ≠ [] →
    ¬ EndsValue (longer ++ rest)
  ends : EndsValue rest

/-- The symbols begin with a mention; the rest comes after it. -/
inductive WritesMention : List Symbol → Mention → List Symbol → Prop
  | bare {name : List Char} {rest : List Symbol} (isName : IsMentionName name)
      (ends : EndsName rest) : WritesMention (name.map .character ++ rest) (.bare name) rest
  | quoted {name blanks : List Char} {quote : Char} {content rest : List Symbol}
      (isName : IsMentionName name)
      (blank : ∀ character ∈ blanks, Text.isBlank character = true)
      (isQuote : quote = '"' ∨ quote = '\'') (within : .character quote ∉ content) :
      WritesMention (name.map .character ++ .character '=' :: (blanks.map .character
        ++ .character quote :: (content ++ .character quote :: rest))) (.valued name content) rest
  | unquoted {name blanks : List Char} {content rest : List Symbol} (isName : IsMentionName name)
      (blank : ∀ character ∈ blanks, Text.isBlank character = true)
      (isUnquoted : IsUnquoted content rest) :
      WritesMention (name.map .character ++ .character '=' :: (blanks.map .character
        ++ (content ++ rest))) (.valued name content) rest
  | spread (index : Nat) (rest : List Symbol) :
      WritesMention ("...".toList.map .character ++ .hole index :: rest) (.spread index) rest

/-- A tag is written from the end of its name on, with some mentions; the rest comes after the tag. -/
inductive WritesMentions : List Symbol → List Mention → List Symbol → Prop
  | blank {character : Char} {source rest : List Symbol} {mentions : List Mention}
      (blank : Text.isBlank character = true) (later : WritesMentions source mentions rest) :
      WritesMentions (.character character :: source) mentions rest
  | close (rest : List Symbol) : WritesMentions (.character '>' :: rest) [] rest
  | selfClose {blanks : List Char} (blank : ∀ character ∈ blanks, Text.isBlank character = true)
      (rest : List Symbol) :
      WritesMentions (.character '/' :: (blanks.map .character ++ .character '>' :: rest)) [] rest
  | mention {mention : Mention} {source between rest : List Symbol} {mentions : List Mention}
      (first : WritesMention source mention between)
      (later : WritesMentions between mentions rest) :
      WritesMentions source (mention :: mentions) rest

/-- The hole that may stand after a bracket. -/
def holeSymbols (hole : Option Nat) : List Symbol :=
  hole.toList.map .hole

/-- The name of a tag. Characters after a hole are not part of it. -/
def tagNameOf (hole : Option Nat) (name : List Char) : TagName :=
  match hole with
  | some index => .hole index
  | none => .literal (String.ofList name)

/-- The name of a tag is spelled out, with characters or with a hole, up to where it ends. -/
structure IsSpelled (hole : Option Nat) (name : List Char) (source : List Symbol) : Prop where
  named : hole.isSome ∨ name ≠ []
  unbroken : ∀ character ∈ name, IsNameCharacter character
  plain : ∀ shorter, shorter <+: name → ¬ IsOpener shorter
  ends : EndsName source

/-- The symbols begin with a part of a template, which may be a tag that begins an element; the rest
comes after it. -/
inductive WritesPart : List Symbol → Option WrittenTag → List Symbol → Prop
  | character {character : Char} (plain : character ≠ '<') (rest : List Symbol) :
      WritesPart (.character character :: rest) none rest
  | hole (index : Nat) (rest : List Symbol) : WritesPart (.hole index :: rest) none rest
  | tag {hole : Option Nat} {name : List Char} {source rest : List Symbol}
      {mentions : List Mention} (spelled : IsSpelled hole name source)
      (written : WritesMentions source mentions rest) :
      WritesPart (.character '<' :: (holeSymbols hole ++ (name.map .character ++ source)))
        (some ⟨tagNameOf hole name, mentions⟩) rest
  | closing {inside : List Symbol} (within : .character '>' ∉ inside) (rest : List Symbol) :
      WritesPart (.character '<' :: .character '/' :: (inside ++ .character '>' :: rest)) none rest
  /-- A comment goes on to the first place where its characters end with the terminator. -/
  | comment {inside : List Symbol} (hole : Option Nat) (ends : "-->".toList <:+ staticText inside)
      (first : ∀ shorter longer, inside = shorter ++ longer → longer ≠ [] →
        ¬ "-->".toList <:+ staticText shorter) (rest : List Symbol) :
      WritesPart (.character '<' :: (holeSymbols hole ++ ("!--".toList.map .character
        ++ (inside ++ rest)))) none rest
  | declaration {opener inside : List Char} (hole : Option Nat)
      (opens : Text.lowercase (String.ofList opener) = "!doctype") (within : '>' ∉ inside)
      (rest : List Symbol) :
      WritesPart (.character '<' :: (holeSymbols hole ++ (opener.map .character
        ++ (inside.map .character ++ .character '>' :: rest)))) none rest

/-- The symbols are a template in which some tags begin elements, in the order of the source. -/
inductive WritesTags : List Symbol → List WrittenTag → Prop
  | nil : WritesTags [] []
  | part {tag? : Option WrittenTag} {source rest : List Symbol} {tags : List WrittenTag}
      (first : WritesPart source tag? rest) (later : WritesTags rest tags) :
      WritesTags source (tag?.toList ++ tags)

/-! ## Elements -/

mutual
/-- The elements that are made of a node, in the order of the source. Values that stand in holes are not
among them. -/
def Node.elementsMade : Node → Value → List Element
  | .element _ nodes, .element identity type attributes children =>
      ⟨identity, type, attributes, children⟩ :: elementsMadeOf nodes children
  | _, _ => []

def elementsMadeOf : List Node → List Value → List Element
  | node :: nodes, value :: values => node.elementsMade value ++ elementsMadeOf nodes values
  | _, _ => []
end

/-- The elements that are made of all nodes of a template: a single one stands for itself, and several
roots are the children of a fragment. -/
def forestElements (nodes : List Node) (value : Value) : List Element :=
  match nodes, value with
  | [.element tag children], value => (Node.element tag children).elementsMade value
  | nodes, .element _ _ _ children => elementsMadeOf nodes children
  | _, _ => []

/-- An element has the type that its tag names, and the attributes that the tag mentions. -/
structure IsMadeAs (values : List Value) (tag : WrittenTag) (element : Element) : Prop where
  type : element.type = tag.name.fill values
  attributes : ∃ mentioned, Mention.allEntries values tag.mentions = .ok mentioned ∧
    Entries.HoldsLast mentioned element.attributes

end HtmlStream.Template
