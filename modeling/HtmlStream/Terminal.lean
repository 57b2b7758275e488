/-!
Colours of diagnostics on a terminal. A palette decides whether text is coloured at all; coloured
text is the plain text with escape sequences around its parts, and `stripColors` takes every escape
sequence out again.
-/
namespace HtmlStream

inductive TextStyle where
  | reset
  | bold
  | dim
  | cyan
  | green
  | yellow
  | brightRed
  deriving DecidableEq

namespace TextStyle

def parameter : TextStyle → String
  | .reset => "0"
  | .bold => "1"
  | .dim => "2"
  | .cyan => "36"
  | .green => "32"
  | .yellow => "33"
  | .brightRed => "91"

def sequence (style : TextStyle) : String :=
  "\x1b[" ++ style.parameter ++ "m"

def ofName? : String → Option TextStyle
  | "reset" => some .reset
  | "bold" => some .bold
  | "dim" => some .dim
  | "cyan" => some .cyan
  | "green" => some .green
  | "yellow" => some .yellow
  | "bright_red" => some .brightRed
  | _ => none

end TextStyle

inductive Palette where
  | plain
  | colored
  deriving DecidableEq

namespace Palette

/-- Colours may be forced or forbidden by a setting that is present and not empty; else a terminal
gets them. -/
def choose (forced forbidden : Option String) (isTerminal : Bool) : Palette :=
  let isSet (setting : Option String) := (setting.getD "") != ""
  if isSet forced then .colored
  else if isSet forbidden then .plain
  else if isTerminal then .colored else .plain

def colorize (palette : Palette) (styles : List TextStyle) (text : String) : String :=
  match palette, styles with
  | .plain, _ | _, [] => text
  | .colored, styles =>
      String.join (styles.map TextStyle.sequence) ++ text ++ TextStyle.reset.sequence

def errorCode (palette : Palette) (text : String) : String :=
  palette.colorize [.brightRed, .bold] text

def location (palette : Palette) (text : String) : String :=
  palette.colorize [.cyan] text

def hint (palette : Palette) (text : String) : String :=
  palette.colorize [.green] text

def dimmed (palette : Palette) (text : String) : String :=
  palette.colorize [.dim] text

def errorHeader (palette : Palette) (code : Option String) (message : String) : String :=
  match code.filter (· != "") with
  | some code => palette.errorCode code ++ ": " ++ message
  | none => message

/-- A line number, right-aligned in three places. -/
def lineNumber (number : Int) : String :=
  let digits := toString number
  String.ofList (List.replicate (3 - digits.length) ' ') ++ digits

/-- One numbered line of a source, marked if it is the offending one. -/
def sourceLine (palette : Palette) (number : Int) (content : String) (offending : Bool) : String :=
  let gutter := palette.colorize [.yellow] ((if offending then ">" else " ") ++ lineNumber number)
  let body := if offending then palette.colorize [.brightRed] content else palette.dimmed content
  gutter ++ " | " ++ body

end Palette

/-! ## Taking escape sequences out -/

def escapeCharacter : Char := '\x1b'

/-- How far an escape sequence was read. A control sequence is a bracket, then parameters, then
intermediate characters, then a final one; `read` holds what was read of it, last character
first. -/
inductive EscapeReading where
  | outside
  | afterEscape
  | parameters (read : List Char)
  | intermediates (read : List Char)

namespace EscapeReading

/-- What was held back, in case that no escape sequence ends it. -/
def pending : EscapeReading → List Char
  | .outside => []
  | .afterEscape => [escapeCharacter]
  | .parameters read | .intermediates read => read.reverse

def isParameter (character : Char) : Bool := '0' ≤ character && character ≤ '?'
def isIntermediate (character : Char) : Bool := ' ' ≤ character && character ≤ '/'
def isFinal (character : Char) : Bool := '@' ≤ character && character ≤ '~'

/-- The characters that make an escape sequence of two characters. -/
def isShortFinal (character : Char) : Bool :=
  ('@' ≤ character && character ≤ 'Z') || ('\\' ≤ character && character ≤ '_')

/-- A character that continues no sequence: what was held back is text after all. -/
def giveUp (reading : EscapeReading) (character : Char) : EscapeReading × List Char :=
  if character = escapeCharacter then (.afterEscape, reading.pending)
  else (.outside, reading.pending ++ [character])

/-- Read one character; the second part is the text that is certain now. -/
def step (reading : EscapeReading) (character : Char) : EscapeReading × List Char :=
  match reading with
  | .outside => giveUp .outside character
  | .afterEscape =>
      if character = '[' then (.parameters ['[', escapeCharacter], [])
      else if isShortFinal character then (.outside, [])
      else giveUp .afterEscape character
  | .parameters read =>
      if isParameter character then (.parameters (character :: read), [])
      else if isIntermediate character then (.intermediates (character :: read), [])
      else if isFinal character then (.outside, [])
      else giveUp (.parameters read) character
  | .intermediates read =>
      if isIntermediate character then (.intermediates (character :: read), [])
      else if isFinal character then (.outside, [])
      else giveUp (.intermediates read) character

def strip (reading : EscapeReading) : List Char → List Char
  | [] => reading.pending
  | character :: rest =>
      let (next, certain) := reading.step character
      certain ++ next.strip rest

end EscapeReading

def stripColors (text : String) : String :=
  String.ofList (EscapeReading.outside.strip text.toList)

end HtmlStream
