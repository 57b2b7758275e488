import HtmlStream.Text.Printable

/-!
Quoted text: how a text is shown inside another value or in a message. Single quotes are used
unless the text holds one and no double quote; backslashes, the quote in use and characters that
cannot be printed are escaped.
-/
namespace HtmlStream.Text

/-- The quote that needs the fewer escapes: double quotes only around a text that holds a single
one and no double one. -/
def quoteFor (text : List Char) : Char :=
  if text.contains '\'' && !text.contains '"' then '"' else '\''

def hexadecimalDigits (count code : Nat) : List Char :=
  let digits := Nat.toDigits 16 code
  List.replicate (count - digits.length) '0' ++ digits

/-- The numeric escape of a character: two, four or eight hexadecimal digits, the fewest that
suffice. -/
def numericEscape (character : Char) : List Char :=
  let code := character.toNat
  if code < 0x100 then '\\' :: 'x' :: hexadecimalDigits 2 code
  else if code < 0x10000 then '\\' :: 'u' :: hexadecimalDigits 4 code
  else '\\' :: 'U' :: hexadecimalDigits 8 code

/-- One character inside quotes. `shown` decides which characters stand for themselves. -/
def quotedCharacter (shown : Char → Bool) (quote character : Char) : List Char :=
  if character = quote || character = '\\' then ['\\', character]
  else if character = '\n' then ['\\', 'n']
  else if character = '\r' then ['\\', 'r']
  else if character = '\t' then ['\\', 't']
  else if shown character then [character]
  else numericEscape character

def quoted (text : String) : String :=
  let characters := text.toList
  let quote := quoteFor characters
  String.ofList (quote :: characters.flatMap (quotedCharacter isPrintable quote) ++ [quote])

/-- Escape everything outside ASCII in a text that is already in quotes. -/
def asciiOnly (text : String) : String :=
  String.ofList (text.toList.flatMap fun character =>
    if character.toNat < 0x80 then [character] else numericEscape character)

end HtmlStream.Text
