import HtmlStream.Routine.Basic

/-!
Work: a piece of a body, from which the rest of the body goes on. Pieces of work are put together
in order, and a failure of one skips those after it.
-/
namespace HtmlStream

/-- Given what follows with a value or a failure, the routine of both together. -/
def Work (α : Type) : Type :=
  (Except Failure α → Routine) → Routine

namespace Work

instance : Monad Work where
  pure value := fun rest => rest (.ok value)
  bind work next := fun rest => work fun
    | .ok value => next value rest
    | .error failure => rest (.error failure)

def ofExcept {α : Type} (result : Except Failure α) : Work α :=
  fun rest => rest result

def fail {α : Type} (failure : Failure) : Work α :=
  ofExcept (.error failure)

def ofFault {α : Type} (result : Except Fault α) : Work α :=
  ofExcept (result.mapError .fault)

def attempt {α : Type} (work : Work α) : Work (Except Failure α) :=
  fun rest => work fun result => rest (.ok result)

def act (action : Action) : Work Value :=
  fun rest => .act action rest

def reserve (count : Nat) : Work Nat :=
  fun rest => .reserve count fun first => rest (.ok first)

def advance (index : Nat) : Work Advanced :=
  fun rest => .advance index fun advanced => rest (.ok advanced)

def start (body : Routine) : Work RoutineReference :=
  fun rest => .start body fun task => rest (.ok task)

def suspend (suspension : Suspension) : Work Value :=
  fun rest => .suspend suspension rest

def yield (effect : Value) : Work Value :=
  suspend (.effect effect)

def wait (pending : Pending) : Work Value :=
  suspend (.wait pending)

def toRoutine (work : Work Value) : Routine :=
  work .finish

end Work
end HtmlStream
