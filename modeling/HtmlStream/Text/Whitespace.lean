import HtmlStream.Text.Blank

/-!
What is white space in Unicode text, and what a run of text is without the white space at its edges that
is layout.
-/
namespace HtmlStream.Text

/-! ## Properties of characters -/

/-- The characters of the general category of space separators. -/
def spaceSeparators : List Nat :=
  [0x20, 0xa0, 0x1680] ++ List.range' 0x2000 11 ++ [0x202f, 0x205f, 0x3000]

/-- The characters that are white space where text runs in both directions. -/
def bidirectionalSpaces : List Nat :=
  [0xc, 0x20, 0x1680] ++ List.range' 0x2000 11 ++ [0x2028, 0x205f, 0x3000]

/-- The characters that separate paragraphs where text runs in both directions. -/
def paragraphSeparators : List Nat :=
  [0xa, 0xd, 0x1c, 0x1d, 0x1e, 0x85, 0x2029]

/-- The characters that separate segments where text runs in both directions. -/
def segmentSeparators : List Nat :=
  [0x9, 0xb, 0x1f]

/-- White space: a space separator, or white space or a separator where text runs in both directions. -/
def IsWhitespace (character : Char) : Prop :=
  character.toNat ∈ spaceSeparators ∨ character.toNat ∈ bidirectionalSpaces ∨
    character.toNat ∈ paragraphSeparators ∨ character.toNat ∈ segmentSeparators

/-! ## Edges of a run -/

/-- What stays of white space at an edge: nothing if there is a line break in it. -/
def keptEdge (edge : List Char) : List Char :=
  if '\n' ∈ edge then [] else edge

/-- What a run is without the layout at its edges. The white space at an edge is all that is there; a
run that is white space from end to end has only one edge. -/
inductive IsWithoutLayout : List Char → List Char → Prop
  | blank {run : List Char} (blank : ∀ character ∈ run, IsWhitespace character) :
      IsWithoutLayout run (keptEdge run)
  | around {leading content trailing : List Char}
      (leadingBlank : ∀ character ∈ leading, IsWhitespace character)
      (trailingBlank : ∀ character ∈ trailing, IsWhitespace character)
      (first : ∃ character ∈ content.head?, ¬ IsWhitespace character)
      (last : ∃ character ∈ content.getLast?, ¬ IsWhitespace character) :
      IsWithoutLayout (leading ++ content ++ trailing)
        (keptEdge leading ++ content ++ keptEdge trailing)

end HtmlStream.Text
