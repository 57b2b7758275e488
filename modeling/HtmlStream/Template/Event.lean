import HtmlStream.Template.Node
import HtmlStream.Text.Blank
import HtmlStream.Text.Lowercase
import HtmlStream.Text.Quoted

/-!
Events of a template: its leaves, its opening tags and its closing tags in the order in which they
end in the source. A reader turns the symbols of the source into events one at a time. It knows
nothing about nesting; that is the business of the tree builder.
-/
namespace HtmlStream.Template

/-- One position of a template: a static character, or the hole for an interpolated value. -/
inductive Symbol where
  | character (character : Char)
  | hole (index : Nat)
  deriving DecidableEq

namespace Symbol

/-- The length of the symbol in the source that messages show. -/
def width : Symbol → Nat
  | .character _ => 1
  | .hole _ => 3

def ofText (text : String) : List Symbol :=
  text.toList.map .character

/-- The symbols of static strings, with the holes from `index` on between them. -/
def ofStringsFrom (index : Nat) : List String → List Symbol
  | [] => []
  | [last] => ofText last
  | head :: tail => ofText head ++ .hole index :: ofStringsFrom (index + 1) tail

def ofStrings (strings : List String) : List Symbol :=
  ofStringsFrom 0 strings

/-- The static character that comes first, if one does. -/
def firstCharacter? : List Symbol → Option Char
  | .character first :: _ => some first
  | _ => none

end Symbol

inductive Event where
  | text (content : String)
  | markup (content : String)
  | hole (index : Nat)
  /-- An element that has no closing tag. -/
  | empty (tag : Tag)
  | opening (tag : Tag)
  | closing (name : String)
  deriving DecidableEq

/-- Why a template cannot be read. -/
inductive SyntaxCause where
  | missingTagName
  | unexpectedInTag (character : Char)
  | missingAttributeValue (name : String)
  | unexpectedAfterSlash
  | holeInTagName
  | holeInAttributeName
  | holeOutOfPlace
  | unterminatedTag
  | valueNotGiven
  | unterminatedAttributeValue
  | unterminatedClosingTag
  | unterminatedComment
  | unterminatedDeclaration
  | unexpectedClosing (name : String)
  | mismatchedClosing (expected given : String)
  | unclosed (name : TagName)
  deriving DecidableEq

/-- The elements that never have content and that their opening tag also ends. -/
def voidElements : List String :=
  ["area", "base", "br", "col", "embed", "hr", "img", "input", "link", "meta", "source", "track",
    "wbr"]

def isVoid (name : String) : Bool :=
  voidElements.contains (Text.lowercase name)

/-- Where the reader is. Names, text runs and lists are kept with their last member first; `tag` is
the tag whose attributes are being read. -/
inductive Reading where
  | text (run : List Char)
  | tagName (name : List Char) (hole : Option Nat)
  | attributes (tag : Tag)
  | attributeName (tag : Tag) (name : List Char)
  | attributeValue (tag : Tag) (name : List Char)
  | quotedValue (tag : Tag) (name : List Char) (quote : Char) (pieces : List Piece)
  | unquotedValue (tag : Tag) (name : List Char) (pieces : List Piece)
  | selfClosing (tag : Tag)
  | closingTag (name : List Char)
  /-- `tail` holds the last characters of the comment, at most two. -/
  | comment (tail : List Char)
  | declaration (name : List Char)

namespace Reading

def nameOf (reversed : List Char) : String :=
  String.ofList reversed.reverse

/-- The text event of a run, unless trimming leaves nothing of it. -/
def textEvents (run : List Char) : List Event :=
  let trimmed := Text.trimBreaks run.reverse
  if trimmed.isEmpty then [] else [.text (String.ofList trimmed)]

/-- Add a character to the last piece of a value, or start a new piece with it. -/
def appendCharacter (character : Char) : List Piece → List Piece
  | .text content :: rest => .text (content.push character) :: rest
  | pieces => .text (String.singleton character) :: pieces

/-- A tag with one more attribute; its attributes are in reverse order while it is being read. -/
def withAttribute (tag : Tag) (added : Attribute) : Tag :=
  { tag with attributes := added :: tag.attributes }

def withBare (tag : Tag) (name : List Char) : Tag :=
  withAttribute tag (.named (nameOf name) .bare)

def withValue (tag : Tag) (name : List Char) (pieces : List Piece) : Tag :=
  withAttribute tag (.named (nameOf name) (.ofPieces pieces.reverse))

def finished (tag : Tag) : Tag :=
  { tag with attributes := tag.attributes.reverse }

/-- The tag that a name or a hole begins. A hole is the name whatever was read besides it. -/
def beginTag (name : List Char) (hole : Option Nat) : Except SyntaxCause Tag :=
  match hole with
  | some index => .ok ⟨.hole index, []⟩
  | none => if name.isEmpty then .error .missingTagName else .ok ⟨.literal (nameOf name), []⟩

/-- The event of a tag at its closing bracket: a void element has no content. -/
def openEvent (tag : Tag) : Event :=
  match tag.name with
  | .literal name => if isVoid name then .empty (finished tag) else .opening (finished tag)
  | .hole _ => .opening (finished tag)

/-- After one more character of a tag name: some names begin a comment or a declaration. -/
def afterTagName (name : List Char) (hole : Option Nat) : Reading :=
  if nameOf name = "!--" then .comment []
  else if Text.lowercase (nameOf name) = "!doctype" then .declaration name
  else .tagName name hole

abbrev Result := Except SyntaxCause (Reading × List Event)

def quiet (reading : Reading) : Result := .ok (reading, [])

def inText (run : List Char) (character : Char) : Result :=
  if character = '<' then .ok (.tagName [] none, textEvents run)
  else quiet (.text (character :: run))

def inTagName (name : List Char) (hole : Option Nat) (character : Char) : Result :=
  if character = '/' && name.isEmpty && hole.isNone then quiet (.closingTag [])
  else if Text.isBlank character then do quiet (.attributes (← beginTag name hole))
  else if character = '>' then do .ok (.text [], [openEvent (← beginTag name hole)])
  else if character = '/' then do quiet (.selfClosing (← beginTag name hole))
  else quiet (afterTagName (character :: name) hole)

def inAttributes (tag : Tag) (character : Char) : Result :=
  if Text.isBlank character then quiet (.attributes tag)
  else if character = '>' then .ok (.text [], [openEvent tag])
  else if character = '/' then quiet (.selfClosing tag)
  else if character = '"' || character = '\'' || character = '=' then
    .error (.unexpectedInTag character)
  else quiet (.attributeName tag [character])

def inAttributeName (tag : Tag) (name : List Char) (character : Char) : Result :=
  if character = '=' then quiet (.attributeValue tag name)
  else if Text.isBlank character then quiet (.attributes (withBare tag name))
  else if character = '>' then .ok (.text [], [openEvent (withBare tag name)])
  else if character = '/' then quiet (.selfClosing (withBare tag name))
  else quiet (.attributeName tag (character :: name))

def inAttributeValue (tag : Tag) (name : List Char) (character : Char) : Result :=
  if character = '"' || character = '\'' then quiet (.quotedValue tag name character [])
  else if Text.isBlank character then quiet (.attributeValue tag name)
  else if character = '>' then .error (.missingAttributeValue (nameOf name))
  else quiet (.unquotedValue tag name (appendCharacter character []))

def inQuotedValue (tag : Tag) (name : List Char) (quote : Char) (pieces : List Piece)
    (character : Char) : Result :=
  if character = quote then quiet (.attributes (withValue tag name pieces))
  else quiet (.quotedValue tag name quote (appendCharacter character pieces))

/-- A slash ends an unquoted value only where it closes the tag. -/
def inUnquotedValue (tag : Tag) (name : List Char) (pieces : List Piece) (character : Char)
    (next : Option Char) : Result :=
  if Text.isBlank character then quiet (.attributes (withValue tag name pieces))
  else if character = '>' then .ok (.text [], [openEvent (withValue tag name pieces)])
  else if character = '/' && next = some '>' then quiet (.selfClosing (withValue tag name pieces))
  else quiet (.unquotedValue tag name (appendCharacter character pieces))

def inSelfClosing (tag : Tag) (character : Char) : Result :=
  if character = '>' then .ok (.text [], [.empty (finished tag)])
  else if Text.isBlank character then quiet (.selfClosing tag)
  else .error .unexpectedAfterSlash

def inClosingTag (name : List Char) (character : Char) : Result :=
  if character = '>' then .ok (.text [], [.closing (nameOf name)])
  else if Text.isBlank character || character = '/' then quiet (.closingTag name)
  else quiet (.closingTag (character :: name))

def inComment (tail : List Char) (character : Char) : Result :=
  if character = '>' && tail = ['-', '-'] then quiet (.text [])
  else quiet (.comment ((character :: tail).take 2))

def inDeclaration (name : List Char) (character : Char) : Result :=
  if character = '>' then .ok (.text [], [.markup ("<" ++ nameOf name ++ ">")])
  else quiet (.declaration (character :: name))

/-- Read a static character; `next` is the static character right after it. -/
def readCharacter (reading : Reading) (character : Char) (next : Option Char) : Result :=
  match reading with
  | .text run => inText run character
  | .tagName name hole => inTagName name hole character
  | .attributes tag => inAttributes tag character
  | .attributeName tag name => inAttributeName tag name character
  | .attributeValue tag name => inAttributeValue tag name character
  | .quotedValue tag name quote pieces => inQuotedValue tag name quote pieces character
  | .unquotedValue tag name pieces => inUnquotedValue tag name pieces character next
  | .selfClosing tag => inSelfClosing tag character
  | .closingTag name => inClosingTag name character
  | .comment tail => inComment tail character
  | .declaration name => inDeclaration name character

/-- Read a hole. Comments and closing tags pay no heed to it. -/
def readHole (reading : Reading) (index : Nat) : Result :=
  match reading with
  | .text run => .ok (.text [], textEvents run ++ [.hole index])
  | .tagName name hole =>
      if name.isEmpty && hole.isNone then quiet (.tagName [] (some index))
      else .error .holeInTagName
  | .attributeName tag name =>
      if nameOf name = "..." then quiet (.attributes (withAttribute tag (.spread index)))
      else .error .holeInAttributeName
  | .attributeValue tag name => quiet (.unquotedValue tag name [.hole index])
  | .quotedValue tag name quote pieces =>
      quiet (.quotedValue tag name quote (.hole index :: pieces))
  | .unquotedValue tag name pieces => quiet (.unquotedValue tag name (.hole index :: pieces))
  | .closingTag name => quiet (.closingTag name)
  | .comment tail => quiet (.comment tail)
  | .attributes _ | .selfClosing _ | .declaration _ => .error .holeOutOfPlace

def read (reading : Reading) (symbol : Symbol) (next : Option Char) : Result :=
  match symbol with
  | .character character => reading.readCharacter character next
  | .hole index => reading.readHole index

/-- The end of the template: only in text nothing is left unfinished. -/
def finish : Reading → Except SyntaxCause (List Event)
  | .text run => .ok (textEvents run)
  | .tagName .. | .attributes _ | .attributeName .. | .unquotedValue .. | .selfClosing _ =>
      .error .unterminatedTag
  | .attributeValue .. => .error .valueNotGiven
  | .quotedValue .. => .error .unterminatedAttributeValue
  | .closingTag _ => .error .unterminatedClosingTag
  | .comment _ => .error .unterminatedComment
  | .declaration _ => .error .unterminatedDeclaration

end Reading
end HtmlStream.Template
