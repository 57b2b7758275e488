import HtmlStream.Template.Forest

/-!
What the events of a template say about its tree, without a builder: where a closing tag fits,
which events are balanced, and the forest that reading them by recursive descent gives.
-/
namespace HtmlStream.Template

/-! ## The events of a template -/

/-- The events that a reader finds in symbols, up to the end of the template. -/
def eventsFrom (reading : Reading) : List Symbol → Except SyntaxCause (List Event)
  | [] => reading.finish
  | symbol :: rest => do
      let (reading, events) ← reading.read symbol (Symbol.firstCharacter? rest)
      return events ++ (← eventsFrom reading rest)

def eventsOf (strings : List String) : Except SyntaxCause (List Event) :=
  eventsFrom (.text []) (Symbol.ofStrings strings)

/-! ## Balance -/

/-- The elements that are open after an event, innermost first. -/
def Event.openAfter (opened : List Tag) : Event → List Tag
  | .opening tag => tag :: opened
  | .closing _ => opened.tail
  | .text _ | .markup _ | .hole _ | .empty _ => opened

def openAfter (events : List Event) : List Tag :=
  events.foldl Event.openAfter []

/-- A closing tag fits if an element is open and a name that is given repeats its literal type. -/
def Fits (name : String) (opened : List Tag) : Prop :=
  ∃ innermost outer, opened = innermost :: outer ∧
    ∀ expected, innermost.name = .literal expected → name ≠ "" → name = expected

def ClosingsFit (events : List Event) : Prop :=
  ∀ before name after, events = before ++ .closing name :: after → Fits name (openAfter before)

structure IsBalanced (events : List Event) : Prop where
  closingsFit : ClosingsFit events
  allClosed : openAfter events = []

/-- What is wrong with a closing tag that does not fit. -/
inductive IsRefused (name : String) : List Tag → SyntaxCause → Prop where
  | unexpected : IsRefused name [] (.unexpectedClosing name)
  | mismatched {innermost : Tag} {outer : List Tag} {expected : String}
      (literal : innermost.name = .literal expected) (given : name ≠ "")
      (different : name ≠ expected) :
      IsRefused name (innermost :: outer) (.mismatchedClosing expected name)

/-- What is wrong first with events that are not balanced. -/
inductive IsViolated (events : List Event) : SyntaxCause → Prop where
  | closing {before after : List Event} {name : String} {cause : SyntaxCause}
      (split : events = before ++ .closing name :: after) (fitting : ClosingsFit before)
      (refused : IsRefused name (openAfter before) cause) : IsViolated events cause
  | unclosed {innermost : Tag} {outer : List Tag} (fitting : ClosingsFit events)
      (remaining : openAfter events = innermost :: outer) :
      IsViolated events (.unclosed innermost.name)

/-! ## Recursive descent -/

/-- The nodes read from at most `limit` events, and the events that were not read. -/
structure Descent (limit : Nat) where
  nodes : List Node
  rest : List Event
  within : rest.length ≤ limit

namespace Descent

def add {limit : Nat} (node : Node) (descent : Descent limit) : Descent (limit + 1) :=
  ⟨node :: descent.nodes, descent.rest, Nat.le_succ_of_le descent.within⟩

end Descent

/-- Read siblings up to a closing tag or the end. An opening tag begins an element whose children
are read the same way; its siblings follow after the closing tag that ended them. -/
def descend (events : List Event) : Descent events.length :=
  match events with
  | [] => ⟨[], [], Nat.le_refl _⟩
  | .text content :: rest => (descend rest).add (.text content)
  | .markup content :: rest => (descend rest).add (.markup content)
  | .hole index :: rest => (descend rest).add (.hole index)
  | .empty tag :: rest => (descend rest).add (.element tag [])
  | .closing name :: rest => ⟨[], .closing name :: rest, Nat.le_refl _⟩
  | .opening tag :: rest =>
      let children := descend rest
      have shorter : children.rest.tail.length ≤ rest.length := by
        rw [List.length_tail]
        exact Nat.le_trans (Nat.sub_le _ _) children.within
      let siblings := descend children.rest.tail
      ⟨.element tag children.nodes :: siblings.nodes, siblings.rest,
        Nat.le_succ_of_le (Nat.le_trans siblings.within shorter)⟩
termination_by events.length
decreasing_by
  all_goals first | exact Nat.lt_succ_self _ | exact Nat.lt_succ_of_le shorter

end HtmlStream.Template
