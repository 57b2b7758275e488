/-!
The lines of a text: each of the ten line boundaries ends a line, a carriage return together with
the line feed after it counts once, and a boundary at the very end opens no further line.
-/
namespace HtmlStream.Text

def isLineBoundary (character : Char) : Bool :=
  let code := character.toNat
  (10 ≤ code && code ≤ 13) || (0x1c ≤ code && code ≤ 0x1e) || code == 0x85
    || code == 0x2028 || code == 0x2029

/-- The lines of `text`, where `line` holds what was read of the present line, last character
first. -/
def linesFrom (line : List Char) : List Char → List (List Char)
  | [] => if line.isEmpty then [] else [line.reverse]
  | '\r' :: '\n' :: rest => line.reverse :: linesFrom [] rest
  | character :: rest =>
      if isLineBoundary character then line.reverse :: linesFrom [] rest
      else linesFrom (character :: line) rest

def lines (text : String) : List String :=
  (linesFrom [] text.toList).map String.ofList

end HtmlStream.Text
