/-!
Blank characters, and the trimming of text runs at line breaks.

A run of markup text that touches a line break is layout, not content: the blanks around the
break are dropped. Blanks that contain no break are kept, so `a <b>c</b>` keeps its space.
-/
namespace HtmlStream.Text

/-- The blank characters of Unicode text: the separators, the line and paragraph breaks and the
control characters that separate fields. Zero-width characters are not blank. -/
def isBlank (character : Char) : Bool :=
  let code := character.toNat
  (9 ≤ code && code ≤ 13) || (0x1c ≤ code && code ≤ 0x20) || code == 0x85 || code == 0xa0
    || code == 0x1680 || (0x2000 ≤ code && code ≤ 0x200a) || code == 0x2028 || code == 0x2029
    || code == 0x202f || code == 0x205f || code == 0x3000

/-- Drop the leading blanks, provided that they contain a line break. -/
def trimLeadingBreak (run : List Char) : List Char :=
  if (run.takeWhile isBlank).contains '\n' then run.dropWhile isBlank else run

/-- Drop the trailing blanks, provided that they contain a line break. -/
def trimTrailingBreak (run : List Char) : List Char :=
  (trimLeadingBreak run.reverse).reverse

/-- Drop the blanks at either end that contain a line break. -/
def trimBreaks (run : List Char) : List Char :=
  trimTrailingBreak (trimLeadingBreak run)

def trimBlanks (run : List Char) : List Char :=
  ((run.dropWhile isBlank).reverse.dropWhile isBlank).reverse

end HtmlStream.Text
