import HtmlStream.Text.Blank

/-!
Patterns over text, matched by backtracking: of several ways in which a pattern matches at a place the
first one is taken, and repetition tries to go on before it stops.
-/
namespace HtmlStream.Text

/-- A place in a text: how many characters are before it, and what comes after it. -/
structure Place where
  before : Nat
  rest : List Char
  deriving DecidableEq

namespace Place

def start (text : List Char) : Place := ⟨0, text⟩

/-- Whether one place comes later in a text than another one. -/
def isAfter (later earlier : Place) : Bool :=
  later.rest.length < earlier.rest.length

end Place

inductive Pattern where
  /-- One character of a class. -/
  | one (accepts : Char → Bool)
  | beginning
  /-- The end of the text, or the place before a line break that ends it. -/
  | ending
  | inOrder (first second : Pattern)
  | either (first second : Pattern)
  /-- Any number of times, the more the better. -/
  | repeated (pattern : Pattern)

namespace Pattern

/-- Where repeated matches from a place may end. A match of nothing is not repeated. -/
def repetitions (ends : Place → List Place) (place : Place) : List Place :=
  ((ends place).filter (·.isAfter place)).attach.flatMap (fun next => repetitions ends next.1)
    ++ [place]
termination_by place.rest.length
decreasing_by
  have later := (List.mem_filter.mp next.2).2
  exact of_decide_eq_true later

theorem repetitions_eq (ends : Place → List Place) (place : Place) :
    repetitions ends place
      = ((ends place).filter (·.isAfter place)).flatMap (repetitions ends) ++ [place] := by
  rw [repetitions, List.flatMap_subtype (fun _ _ => rfl), List.unattach_attach]

/-- Where a match at a place may end, the first choice first. -/
def ends : Pattern → Place → List Place
  | .one accepts, place =>
      match place.rest with
      | [] => []
      | first :: rest => if accepts first then [⟨place.before + 1, rest⟩] else []
  | .beginning, place => if place.before = 0 then [place] else []
  | .ending, place => if place.rest = [] ∨ place.rest = ['\n'] then [place] else []
  | .inOrder first second, place => (first.ends place).flatMap second.ends
  | .either first second, place => first.ends place ++ second.ends place
  | .repeated pattern, place => repetitions pattern.ends place

/-- The text from a place on without the matches of a pattern. After a match the search goes on where
it ends, and where nothing matches, at the next character. -/
def removedFrom (pattern : Pattern) (place : Place) : List Char :=
  match _found : (pattern.ends place).find? (·.isAfter place) with
  | some next => pattern.removedFrom next
  | none =>
      match _left : place.rest with
      | [] => []
      | first :: rest => first :: pattern.removedFrom ⟨place.before + 1, rest⟩
termination_by place.rest.length
decreasing_by
  · have later := List.find?_some _found
    exact of_decide_eq_true later
  · rw [_left]
    exact Nat.lt_succ_self _

/-- What is left of a text when all matches of a pattern are removed from it. -/
def removed (pattern : Pattern) (text : List Char) : List Char :=
  pattern.removedFrom (.start text)

def blanks : Pattern := .repeated (.one isBlank)

def lineBreak : Pattern := .one (· == '\n')

/-- Blanks that hold a line break. -/
def brokenBlanks : Pattern := .inOrder blanks (.inOrder lineBreak blanks)

/-- Blanks with a line break at either edge of a text. -/
def brokenEdge : Pattern :=
  .either (.inOrder .beginning brokenBlanks) (.inOrder brokenBlanks .ending)

end Pattern
end HtmlStream.Text
