import HtmlStream.Routine.Resume

/-!
Waiting on the event loop. While the consumer waits, whatever is due takes its steps. When nothing is
due, everything waits for ever, and the consumer gives up: its wait is cancelled.
-/
namespace HtmlStream

/-- How many steps may be taken during one wait; no body takes more steps than its tree is deep. -/
def stepsPerWait : Nat := 1 <<< 62

namespace Session

/-- A worker begins to wait. A turn of the loop is a wait that is over in the next step of the
worker; for a value that the loop does not know, it fails there. -/
def beginWait (session : Session) (worker : Worker) (wait : LoopWait) : Session :=
  match wait.pending with
  | .value .null => session.schedule (.resume worker (.ok .null))
  | .value other => session.schedule (.resume worker (.error (.fault (.unknownWait other))))
  | .forever =>
      session.withLoop fun loop =>
        loop.beginWait worker (if wait.beside then .beside none else .nothing)
  | .task index =>
      if !session.isOver wait.pending then
        session.withLoop fun loop =>
          loop.beginWait worker (if wait.beside then .beside (some index) else .task index)
      else if wait.beside then
        (session.withLoop fun loop => loop.beginWait worker (.beside none)).schedule (.tell worker)
      else session.schedule (.resume worker (.ok .null))

/-- Go on with a worker in the render context that was current for it. -/
def switchTo (session : Session) (worker : Worker) : Session :=
  { session with current := session.loop.context worker }

def stepTask (library : Library) (index : Nat) (reply : Reply) (session : Session) : Session :=
  match resume library index reply (session.switchTo (.task index)) with
  | (.waiting pending, session) => session.beginWait (.task index) ⟨pending, false⟩
  | (_, session) => session.withLoop fun loop => loop.wake index

/-- How a render among several takes a step, where the state of all of them is `σ`. -/
abbrev RenderStep (σ : Type) := Nat → Reply → σ → Session → σ × Session

/-- Take due steps until it is the consumer's turn; what the consumer is answered comes first in the
result. -/
def runUntilConsumer {σ : Type} (library : Library) (stepRender : RenderStep σ) :
    (steps : Nat) → σ → Session → Reply × σ × Session
  | 0, renders, session => (.error .cancellation, renders, session)
  | steps + 1, renders, session =>
      match session.loop.due with
      | [] =>
          runUntilConsumer library stepRender steps renders
            (session.withLoop fun loop => loop.cancel .consumer)
      | step :: rest =>
          let session := session.withLoop fun loop => { loop with due := rest }
          match step with
          | .resume .consumer reply => (reply, renders, session)
          | .resume (.task index) reply =>
              runUntilConsumer library stepRender steps renders
                (session.stepTask library index reply)
          | .resume (.render index) reply =>
              let (renders, session) := stepRender index reply renders session
              runUntilConsumer library stepRender steps renders session
          | .tell worker =>
              runUntilConsumer library stepRender steps renders
                (session.withLoop fun loop => loop.tell worker)

/-- Have the consumer wait; the result is what it is answered. -/
def await (library : Library) (wait : LoopWait) (session : Session) : Reply × Session :=
  let (reply, _, waited) :=
    runUntilConsumer library (fun _ _ renders session => (renders, session)) stepsPerWait ()
      (session.beginWait .consumer wait)
  (reply, { waited with current := session.current })

def cancelPending (session : Session) (pending : Pending) : Session :=
  match pending with
  | .task index => session.withLoop fun loop => loop.cancel (.task index)
  | _ => session

end Session

/-- What a consumer gets when it asks for output. -/
inductive Delivery (α : Type) where
  | chunk (content : α)
  | finished
  | failed (failure : Failure)
  /-- The consumer has to wait first, and to ask again with what it is answered then. -/
  | waiting (wait : LoopWait)
  deriving Inhabited

namespace Session

/-- Ask for output until it is there, waiting as often as it takes. -/
def obtain {α σ : Type} (library : Library)
    (ask : Reply → σ → Session → Delivery α × σ × Session) (reply : Reply) (state : σ)
    (session : Session) : Delivery α × σ × Session :=
  match ask reply state session with
  | (.waiting wait, state, session) =>
      let (reply, session) := session.await library wait
      -- The call stands in a tactic block so that the fixed point does not record its source position.
      (by exact obtain library ask : Reply → σ → Session → Delivery α × σ × Session)
        reply state session
  | delivered => delivered
partial_fixpoint

/-- Ask for output until it is there, waiting at most `waits` times. -/
def deliver {α σ : Type} (library : Library)
    (ask : Reply → σ → Session → Delivery α × σ × Session) :
    (waits : Nat) → Reply → σ → Session → Delivery α × σ × Session
  | 0, _, state, session => (.finished, state, session)
  | waits + 1, reply, state, session =>
      match ask reply state session with
      | (.waiting wait, state, session) =>
          let (reply, session) := session.await library wait
          deliver library ask waits reply state session
      | delivered => delivered

end Session
end HtmlStream
