import HtmlStream.Template.Forest

/-!
How far the reading of a template has come, and where that is in the source that messages show: the
symbols that have been read, the reader and the builder after them, and the symbols that are left.
-/
namespace HtmlStream.Template

/-- The symbols in `read` are read without a fault, and `rest` is left. -/
inductive ReadsTo (symbols : List Symbol) :
    List Symbol → Reading → Builder → List Symbol → Prop
  | start : ReadsTo symbols [] (.text []) .empty symbols
  | next {read rest : List Symbol} {symbol : Symbol} {reading later : Reading}
      {builder built : Builder}
      (reached : ReadsTo symbols read reading builder (symbol :: rest))
      (advanced : advance reading builder symbol (Symbol.firstCharacter? rest)
        = .ok (later, built)) :
      ReadsTo symbols (read ++ [symbol]) later built rest

/-- The characters that a symbol is shown as. -/
def Symbol.shown : Symbol → List Char
  | .character given => [given]
  | .hole _ => placeholder.toList

def Symbol.character? : Symbol → Option Char
  | .character given => some given
  | .hole _ => none

/-- The source of symbols as messages show it. -/
def shownSource (symbols : List Symbol) : List Char :=
  symbols.flatMap Symbol.shown

/-- The static characters among symbols. -/
def staticText (symbols : List Symbol) : List Char :=
  symbols.filterMap Symbol.character?

/-! ## Lines and columns -/

/-- The offset of a column in a line that is counted from one; line feeds end the lines. -/
def offsetOf (source : List Char) (line column : Nat) : Nat :=
  (((source.splitOn '\n').take (line - 1)).flatMap (· ++ ['\n'])).length + column

/-- A line and a column that name an offset of a source. -/
structure IsAt (source : List Char) (line column offset : Nat) : Prop where
  counted : 1 ≤ line
  within : ∃ content, (source.splitOn '\n')[line - 1]? = some content ∧ column ≤ content.length
  offset : offsetOf source line column = offset

end HtmlStream.Template
