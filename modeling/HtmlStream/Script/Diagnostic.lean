import HtmlStream.Component.Signature
import HtmlStream.Script.Expression
import HtmlStream.Terminal

/-!
The texts of diagnostics, asked for by name. Where nothing is coloured, what is given comes back as
it is, even if it is no text.
-/
namespace HtmlStream.Script

inductive Diagnostic where
  | isColored
  | colorize
  | stripped
  | errorCode
  | location
  | hint
  | dimmed
  | errorHeader
  | sourceLine
  deriving DecidableEq

namespace Diagnostic

def all : List Diagnostic :=
  [.isColored, .colorize, .stripped, .errorCode, .location, .hint, .dimmed, .errorHeader, .sourceLine]

def name : Diagnostic → String
  | .isColored => "supports_color"
  | .colorize => "colorize"
  | .stripped => "strip_colors"
  | .errorCode => "error_code"
  | .location => "location"
  | .hint => "hint"
  | .dimmed => "dim_text"
  | .errorHeader => "format_error_header"
  | .sourceLine => "format_source_line"

def ofName? (name : String) : Option Diagnostic :=
  all.find? fun diagnostic => diagnostic.name == name

def signature (diagnostic : Diagnostic) : Signature :=
  let positional : List Parameter := match diagnostic with
    | .isColored => []
    | .errorHeader => [⟨"code", none⟩, ⟨"message", none⟩]
    | .sourceLine => [⟨"lineno", none⟩, ⟨"content", none⟩, ⟨"is_error", some (.boolean false)⟩]
    | _ => [⟨"text", none⟩]
  ⟨[], positional, [], none⟩

/-- Colour a value. Only a coloured one has to be a text. -/
def colored (palette : Palette) (styles : List TextStyle) (value : Value) : Value :=
  match palette, styles with
  | .plain, _ | _, [] => value
  | palette, styles => .text (palette.colorize styles value.toText)

def styleOf (value : Value) : Except Fault TextStyle :=
  match value.unhashablePart? with
  | some part => .error (.unhashable part.typeName)
  | none =>
      match value with
      | .text name | .markup name =>
          match TextStyle.ofName? name with
          | some style => .ok style
          | none => .error (.missingKey value)
      | other => .error (.missingKey other)

/-- A numbered line; the number may be any value that can be aligned in three places. -/
def numberedLine (palette : Palette) (number content : Value) (offending : Bool) :
    Except Fault Value := do
  let aligned ← (number.format ">3").mapError .format
  let gutter := palette.colorize [.yellow] ((if offending then ">" else " ") ++ aligned)
  let body := colored palette [if offending then .brightRed else .dim] content
  return .text (gutter ++ " | " ++ body.toText)

def result (diagnostic : Diagnostic) (palette : Palette) (styles : List Value)
    (argument : String → Value) : Except Fault Value := do
  let text := argument "text"
  match diagnostic with
  | .isColored => return .boolean (palette == .colored)
  | .colorize =>
      match palette with
      | .plain => return text
      | .colored => return colored palette (← styles.mapM styleOf) text
  | .stripped =>
      match text with
      | .text content | .markup content => return .text (stripColors content)
      | other => throw (.textExpected other.typeName)
  | .errorCode => return colored palette [.brightRed, .bold] text
  | .location => return colored palette [.cyan] text
  | .hint => return colored palette [.green] text
  | .dimmed => return colored palette [.dim] text
  | .errorHeader =>
      let code := argument "code"
      if code.truth then
        return .text (palette.errorHeader (some code.toText) (argument "message").toText)
      else return argument "message"
  | .sourceLine =>
      numberedLine palette (argument "lineno") (argument "content") (argument "is_error").truth

/-- Ask for a text. All arguments after the first one of a colouring are styles. -/
def ask (diagnostic : Diagnostic) (palette : Palette) (positional : List Value)
    (named : Bindings) : Except Fault Value := do
  let (own, styles) :=
    if diagnostic = .colorize then positional.splitAt 1 else (positional, [])
  let bindings ← diagnostic.signature.bindBoth diagnostic.name own named
  diagnostic.result palette styles fun name =>
    ((bindings.find? fun entry => entry.1 == name).map Prod.snd).getD .null

end Diagnostic
end HtmlStream.Script
