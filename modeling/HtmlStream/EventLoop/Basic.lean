import HtmlStream.Routine.Basic

/-!
The event loop: who takes the next step. Steps are taken one at a time, in the order in which they
became due. Nothing here takes time, so a worker waits either for another one or for ever.
-/
namespace HtmlStream

inductive Worker where
  | consumer
  | task (index : Nat)
  /-- One of several renders that the consumer runs together. -/
  | render (index : Nat)
  deriving DecidableEq

/-- How a worker waits: for what is pending itself, or beside a body that waits for it. -/
structure LoopWait where
  pending : Pending
  beside : Bool

inductive Awaited where
  | nothing
  | task (index : Nat)
  /-- To be told that a task has ended, or nothing. -/
  | beside (task : Option Nat)
  /-- To be told that the first `count` renders have ended, and whether they were cancelled. -/
  | renders (count : Nat) (cancelled : Bool)

inductive DueStep where
  /-- A worker takes a step with what it is answered. -/
  | resume (worker : Worker) (reply : Reply)
  /-- A worker is told that what it waits for is over, and becomes due. -/
  | tell (worker : Worker)

structure EventLoop where
  /-- What is due, first step first. -/
  due : List DueStep
  /-- Who waits for what, in the order in which the waits began. -/
  waits : List (Worker × Awaited)
  /-- The number of the render context that is current for a worker while others run. -/
  contexts : List (Worker × Option Nat)

namespace EventLoop

def empty : EventLoop := ⟨[], [], []⟩

def schedule (loop : EventLoop) (step : DueStep) : EventLoop :=
  { loop with due := loop.due ++ [step] }

/-! ## Contexts -/

def context (loop : EventLoop) (worker : Worker) : Option Nat :=
  (loop.contexts.find? fun entry => entry.1 == worker).bind Prod.snd

def setContext (loop : EventLoop) (worker : Worker) (context : Option Nat) : EventLoop :=
  { loop with
    contexts := (worker, context) :: loop.contexts.filter fun entry => entry.1 != worker }

/-! ## Waiting -/

def beginWait (loop : EventLoop) (worker : Worker) (awaited : Awaited) : EventLoop :=
  { loop with waits := loop.waits ++ [(worker, awaited)] }

def endWait (loop : EventLoop) (worker : Worker) : EventLoop :=
  { loop with waits := loop.waits.filter fun wait => wait.1 != worker }

def awaited? (loop : EventLoop) (worker : Worker) : Option Awaited :=
  (loop.waits.find? fun wait => wait.1 == worker).map Prod.snd

/-- What becomes due for a waiting worker because a task has ended. -/
def stepAfter (ended : Nat) (wait : Worker × Awaited) : Option DueStep :=
  match wait with
  | (worker, .task index) => if index = ended then some (.resume worker (.ok .null)) else none
  | (worker, .beside (some index)) => if index = ended then some (.tell worker) else none
  | _ => none

/-- Whether a worker that waited still does after a task has ended: who waits beside it does until
it is told. -/
def outlasts (ended : Nat) (wait : Worker × Awaited) : Bool :=
  match wait with
  | (_, .task index) => index != ended
  | _ => true

/-- A task has ended: the workers that wait for it become due. -/
def wake (loop : EventLoop) (ended : Nat) : EventLoop :=
  { loop with
    due := loop.due ++ loop.waits.filterMap (stepAfter ended)
    waits := loop.waits.filter (outlasts ended) }

/-- A worker that still waits is told that its wait is over. Renders that were cancelled end their
wait by a cancellation. -/
def tell (loop : EventLoop) (worker : Worker) : EventLoop :=
  match loop.awaited? worker with
  | some (.renders _ true) =>
      (loop.endWait worker).schedule (.resume worker (.error .cancellation))
  | some _ => (loop.endWait worker).schedule (.resume worker (.ok .null))
  | none => loop

/-! ## Cancelling -/

def isDue (loop : EventLoop) (worker : Worker) : Bool :=
  loop.due.any fun
    | .resume other _ => other == worker
    | .tell _ => false

/-- The step with a cancellation for the answer, if `worker` takes it. -/
def cancelledStep (worker : Worker) : DueStep → DueStep
  | .resume other reply => .resume other (if other = worker then .error .cancellation else reply)
  | .tell other => .tell other

/-- Cancel a worker, through at most `links` others that it waits for. A worker that is due receives
the cancellation in its turn. One that waits for a task passes it on to the task, and what the task
makes of it decides how the worker goes on; one that waits for renders passes it on to each of them.
Every other wait ends with it. -/
def cancelThrough : (links : Nat) → Worker → EventLoop → EventLoop
  | 0, _, loop => loop
  | links + 1, worker, loop =>
      if loop.isDue worker then { loop with due := loop.due.map (cancelledStep worker) }
      else match loop.awaited? worker with
        | some (.task index) => cancelThrough links (.task index) loop
        | some (.renders count _) =>
            let loop := (loop.endWait worker).beginWait worker (.renders count true)
            (List.range count).foldl
              (fun loop index => cancelThrough links (.render index) loop) loop
        | some _ => (loop.endWait worker).schedule (.resume worker (.error .cancellation))
        | none => loop

def cancel (loop : EventLoop) (worker : Worker) : EventLoop :=
  cancelThrough (loop.waits.length + 1) worker loop

end EventLoop
end HtmlStream
