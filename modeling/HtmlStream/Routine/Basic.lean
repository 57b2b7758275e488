import HtmlStream.Failure.Basic

/-!
Routines: the bodies of components, as trees. A routine is what a body still has to do: it has
finished, or it asks for something and goes on with the answer. The tree has a branch for every
answer and no infinite branch, so no body asks for ever.

Whatever leaves a body suspends it; an answer is a value, or a failure that is raised where the body
was suspended.
-/
namespace HtmlStream

/-- What a body receives when it goes on. -/
abbrev Reply := Except Failure Value

inductive Pending where
  /-- A bare value handed to whoever drives the body. The null value lets the event loop turn
  once, a token asks for what it stands for. -/
  | value (value : Value)
  | forever
  | task (index : Nat)

inductive Suspension where
  /-- A value yielded to whoever drives the body. -/
  | effect (value : Value)
  | wait (pending : Pending)
  /-- Another body takes over until it ends; its result is the answer. -/
  | delegate (target : RoutineReference)
  /-- An element takes over, in a body of its own that is made now. -/
  | iterate (node : Element)

inductive ContextField where
  | routeName
  | maxDepth
  | stylesEmitted
  | contextStack
  deriving DecidableEq

/-- What a body does without being suspended. -/
inductive Action where
  | log (value : Value)
  | lookup (name : String)
  | call (callee : Value) (arguments : Entries)
  /-- Call a component with the attributes and children of its element. -/
  | expand (component : Value) (attributes : Entries) (children : List Value)
  | readContext (field : ContextField)
  | readMeta (key : String) (default : Value)
  | writeMeta (key : String) (value : Value)
  /-- Register a provider for a token with the route. -/
  | register (token provider : Value)
  /-- Close a generator that nobody needs any more; whatever that comes to is ignored. -/
  | discard (index : Nat)
  /-- Let go of generators. Those that neither the result nor anything that outlives the body holds
  are closed. -/
  | release (generators : List Nat) (result : Value)
  | outcome (index : Nat)

inductive Advanced where
  | item (value : Value)
  | ended
  | failed (failure : Failure)

inductive Routine where
  | finish (result : Reply)
  /-- Take `count` fresh identities; the answer is the first. -/
  | reserve (count : Nat) (next : Nat → Routine)
  | act (action : Action) (next : Reply → Routine)
  /-- Advance the generator with number `index` to its next item. -/
  | advance (index : Nat) (next : Advanced → Routine)
  | start (body : Routine) (next : RoutineReference → Routine)
  | suspend (suspension : Suspension) (next : Reply → Routine)

namespace Routine

/-- Yield the given effects, whatever is answered, and return nothing. A failure among them, or one
that is raised by the driver, ends the body. -/
def yieldAll : List (Except Failure Value) → Routine
  | [] => .finish (.ok .null)
  | .error failure :: _ => .finish (.error failure)
  | .ok effect :: rest => .suspend (.effect effect) fun
      | .ok _ => yieldAll rest
      | .error failure => .finish (.error failure)

end Routine
end HtmlStream
