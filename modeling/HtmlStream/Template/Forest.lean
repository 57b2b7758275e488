import HtmlStream.Template.Basic
import HtmlStream.Template.Event
import HtmlStream.Failure.Basic

/-!
Building the nodes of a template from its events, and the reading of whole templates.

A builder holds the elements that are open; each event adds a leaf, opens an element or closes the
innermost one. Reading stops at the first symbol that no template can continue with.
-/
namespace HtmlStream.Template

/-- An element that is open, with the children read so far, last one first. -/
structure OpenElement where
  tag : Tag
  children : List Node

/-- The open elements, innermost first, and the finished nodes outside all of them, last one
first. -/
structure Builder where
  finished : List Node
  stack : List OpenElement

namespace Builder

def empty : Builder := ⟨[], []⟩

def add (builder : Builder) (node : Node) : Builder :=
  match builder.stack with
  | [] => { builder with finished := node :: builder.finished }
  | innermost :: rest =>
      { builder with stack := { innermost with children := node :: innermost.children } :: rest }

/-- A closing tag fits if it has no name, if the element's type is a hole, or if it repeats the
element's name. -/
def closingFault? (tag : Tag) (name : String) : Option SyntaxCause :=
  match tag.name with
  | .hole _ => none
  | .literal expected =>
      if name ≠ "" && name ≠ expected then some (.mismatchedClosing expected name) else none

def close (builder : Builder) (name : String) : Except SyntaxCause Builder :=
  match builder.stack with
  | [] => .error (.unexpectedClosing name)
  | innermost :: rest =>
      match closingFault? innermost.tag name with
      | some cause => .error cause
      | none =>
          .ok ({ builder with stack := rest }.add
            (.element innermost.tag innermost.children.reverse))

def apply (builder : Builder) : Event → Except SyntaxCause Builder
  | .text content => .ok (builder.add (.text content))
  | .markup content => .ok (builder.add (.markup content))
  | .hole index => .ok (builder.add (.hole index))
  | .empty tag => .ok (builder.add (.element tag []))
  | .opening tag => .ok { builder with stack := ⟨tag, []⟩ :: builder.stack }
  | .closing name => builder.close name

def applyAll (builder : Builder) : List Event → Except SyntaxCause Builder
  | [] => .ok builder
  | event :: rest => do (← builder.apply event).applyAll rest

/-- All nodes, provided that every element was closed. -/
def finish (builder : Builder) : Except SyntaxCause (List Node) :=
  match builder.stack with
  | [] => .ok builder.finished.reverse
  | innermost :: _ => .error (.unclosed innermost.tag.name)

end Builder

structure SyntaxFault where
  cause : SyntaxCause
  position : Nat
  deriving DecidableEq

/-- Read one symbol and give its events to the builder. -/
def advance (reading : Reading) (builder : Builder) (symbol : Symbol) (next : Option Char) :
    Except SyntaxCause (Reading × Builder) := do
  let (reading, events) ← reading.read symbol next
  return (reading, ← builder.applyAll events)

def finishReading (reading : Reading) (builder : Builder) : Except SyntaxCause (List Node) := do
  (← builder.applyAll (← reading.finish)).finish

def readFrom (reading : Reading) (builder : Builder) (position : Nat) :
    List Symbol → Except SyntaxFault (List Node)
  | [] =>
      match finishReading reading builder with
      | .ok nodes => .ok nodes
      | .error cause => .error ⟨cause, position⟩
  | symbol :: rest =>
      match advance reading builder symbol (Symbol.firstCharacter? rest) with
      | .ok (reading, builder) => readFrom reading builder (position + symbol.width) rest
      | .error cause => .error ⟨cause, position⟩

def readSymbols (symbols : List Symbol) : Except SyntaxFault (List Node) :=
  readFrom (.text []) .empty 0 symbols

def readStrings (strings : List String) : Except SyntaxFault (List Node) :=
  readSymbols (Symbol.ofStrings strings)

/-! ## Reporting -/

namespace SyntaxCause

def message : SyntaxCause → String
  | .missingTagName => "Expected a tag name after '<'"
  | .unexpectedInTag character =>
      "Unexpected " ++ Text.quoted (String.singleton character) ++ " in tag"
  | .missingAttributeValue name => "Missing value for attribute " ++ Text.quoted name
  | .unexpectedAfterSlash => "Expected '>' after '/'"
  | .holeInTagName => "Interpolation inside a tag name"
  | .holeInAttributeName => "Interpolation inside an attribute name"
  | .holeOutOfPlace => "Interpolation must be an attribute value or '...' spread"
  | .unterminatedTag => "Unterminated tag"
  | .valueNotGiven => "Missing attribute value"
  | .unterminatedAttributeValue => "Unterminated attribute value"
  | .unterminatedClosingTag => "Unterminated closing tag"
  | .unterminatedComment => "Unterminated comment"
  | .unterminatedDeclaration => "Unterminated declaration"
  | .unexpectedClosing name => "Unexpected closing tag </" ++ name ++ ">"
  | .mismatchedClosing expected given =>
      "Mismatched closing tag: expected </" ++ expected ++ ">, got </" ++ given ++ ">"
  | .unclosed (.literal name) => "Unclosed tag <" ++ name ++ ">"
  | .unclosed (.hole _) => "Unclosed tag <" ++ placeholder ++ ">"

end SyntaxCause

/-- The line of a position, counted from one by line feeds, and its column, counted from zero. -/
def lineAndColumn (source : List Char) (position : Nat) : Nat × Nat :=
  let before := source.take position
  (before.count '\n' + 1, (before.reverse.takeWhile (· ≠ '\n')).length)

def SyntaxFault.toError (fault : SyntaxFault) (strings : List String) : EngineError :=
  let source := placeholderSource strings
  let (line, column) := lineAndColumn source.toList fault.position
  .templateSyntax fault.cause.message (some source) (some line) (some column)

end HtmlStream.Template
