import HtmlStream.Route.Reception

/-!
What the consumer of a stream receives, one step of the stream at a time. A consumer who had to wait
asks again with what the event loop answered, so the statements are about asking with any answer; the
first question is the one without an answer.
-/
namespace HtmlStream

namespace Session

variable {α σ : Type} {library : Library} {ask : Reply → σ → Session → Delivery α × σ × Session}
  {reply other : Reply} {state later : σ} {session after : Session}

/-- Asking goes on as it does from any other place that gives the same. -/
theorem obtain_congr (same : ask reply state session = ask other later after) :
    session.obtain library ask reply state = after.obtain library ask other later := by
  rw [obtain.eq_1, same, ← obtain.eq_1]

/-- What is there at once does not have to be waited for. -/
theorem obtain_of_there (there : ∀ wait, (ask reply state session).1 ≠ .waiting wait) :
    session.obtain library ask reply state = ask reply state session := by
  rw [obtain.eq_1]
  generalize ask reply state session = delivered at there
  rcases delivered with ⟨delivery, rest⟩
  cases delivery with
  | waiting wait => exact absurd rfl (there wait)
  | _ => rfl

/-- Whoever had to wait asks again with what the event loop answers. -/
theorem obtain_of_waiting {wait : LoopWait}
    (waits : ask reply state session = (.waiting wait, later, after)) :
    session.obtain library ask reply state
      = (after.await library wait).2.obtain library ask (after.await library wait).1 later := by
  rw [obtain.eq_1, waits]

end Session

namespace Run

theorem leaving_leaving (mode : RenderMode) (failure : Failure) :
    leaving mode (leaving mode failure) = leaving mode failure := by
  unfold leaving leavingAsync
  grind

@[simp] theorem leavingWith_sync (delivered : TextDelivered) :
    leavingWith .sync delivered = delivered := by
  rcases delivered with ⟨delivery, run, session⟩
  cases delivery <;> rfl

/-- A failure that has left a stream leaves another one as it is. -/
theorem leaving_of_leavingWith {mode : RenderMode} {delivered : TextDelivered} {failure : Failure}
    {rest : Run × Session} (left : leavingWith mode delivered = (.failed failure, rest)) :
    leaving mode failure = failure := by
  rcases delivered with ⟨delivery, between⟩
  cases delivery with
  | failed inner =>
      cases left
      exact leaving_leaving mode inner
  | chunk | finished | waiting => cases left

end Run

namespace ByteStream

/-- What a consumer receives who asks for the next chunk with an answer, and for all later ones. -/
def receivedWith (library : Library) (reply : Reply) (stream : ByteStream) (session : Session) :
    Option Reception :=
  match session.obtain library (fun reply stream session => stream.next library reply session)
      reply stream with
  | (.chunk bytes, stream, session) =>
      (stream.received library session).map (Reception.after · [bytes])
  | (.finished, _, session) | (.waiting _, _, session) => some ⟨[], none, session⟩
  | (.failed failure, _, session) => some ⟨[], some failure, session⟩

variable (library : Library) {stream other later : ByteStream} {session after : Session}
  {reply answer : Reply}

theorem received_eq_receivedWith (stream : ByteStream) (session : Session) :
    stream.received library session = stream.receivedWith library (.ok .null) session := by
  rw [received.eq_1]
  unfold nextWaiting receivedWith
  generalize session.obtain library _ (.ok .null) stream = delivered
  rcases delivered with ⟨delivery, stream, session⟩
  cases delivery with
  | chunk bytes =>
      dsimp only
      cases stream.received library session <;> rfl
  | _ => rfl

theorem receivedWith_of_waiting {wait : LoopWait}
    (waits : stream.next library reply session = (.waiting wait, later, after)) :
    stream.receivedWith library reply session
      = later.receivedWith library (after.await library wait).1 (after.await library wait).2 := by
  unfold receivedWith
  rw [Session.obtain_of_waiting waits]

/-- The chunk that a stream hands over stands before all later ones. -/
theorem receivedWith_of_chunk {bytes : Bytes}
    (handed : stream.next library reply session = (.chunk bytes, later, after)) :
    stream.receivedWith library reply session
      = (later.received library after).map (Reception.after · [bytes]) := by
  unfold receivedWith
  rw [Session.obtain_of_there (by simp [handed]), handed]

theorem receivedWith_of_finished
    (handed : stream.next library reply session = (.finished, later, after)) :
    stream.receivedWith library reply session = some ⟨[], none, after⟩ := by
  unfold receivedWith
  rw [Session.obtain_of_there (by simp [handed]), handed]

theorem receivedWith_of_failed {failure : Failure}
    (handed : stream.next library reply session = (.failed failure, later, after)) :
    stream.receivedWith library reply session = some ⟨[], some failure, after⟩ := by
  unfold receivedWith
  rw [Session.obtain_of_there (by simp [handed]), handed]

/-! ## Steps of a render -/

variable {rendering : Rendering} {run : Run} {buffer : TextBuffer} {text released : String}

/-- What is gathered does not depend on the state that the stream was in before. -/
theorem gather_inState (stream : ByteStream) (state : StreamState) :
    (stream.inState state).gather library = stream.gather library := by
  delta gather
  rfl

/-- In the middle of a render, the next chunk is gathered from it. -/
theorem next_rendering (stream : ByteStream) (reply : Reply) (rendering : Rendering)
    (session : Session) :
    (stream.inState (.rendering rendering)).next library reply session
      = stream.gather library reply rendering session :=
  congrArg (fun gather => gather reply rendering session)
    (gather_inState library stream (.rendering rendering))

/-- A stream begins with the first chunk of its render. -/
theorem next_of_enter (fresh : stream.state = .unstarted) {entered : Session}
    (enters : stream.enter library session = (.ok rendering, entered)) :
    stream.next library reply session
      = (stream.inState (.rendering rendering)).next library (.ok .null) entered := by
  rw [next_rendering]
  unfold next begin
  rw [fresh, enters]

/-- Text that the buffer holds back is nothing to the consumer. -/
theorem next_of_held
    (handed : rendering.run.nextText library stream.mode reply session = (.chunk text, run, after))
    (held : rendering.buffer.accept text = (none, buffer)) :
    (stream.inState (.rendering rendering)).next library reply session
      = (stream.inState (.rendering { rendering with run, buffer })).next library (.ok .null)
          after := by
  rw [next_rendering, next_rendering, gather.eq_1, handed]
  dsimp only
  rw [held]

theorem next_of_released
    (handed : rendering.run.nextText library stream.mode reply session = (.chunk text, run, after))
    (accepted : rendering.buffer.accept text = (some released, buffer)) {bytes : Bytes}
    (encoded : stream.encode released = .ok bytes) :
    (stream.inState (.rendering rendering)).next library reply session
      = (.chunk bytes, stream.inState (.rendering { rendering with run, buffer }), after) := by
  rw [next_rendering, gather.eq_1, handed]
  dsimp only
  rw [accepted]
  dsimp only
  unfold release
  rw [encoded]

theorem next_of_waits {wait : LoopWait}
    (handed : rendering.run.nextText library stream.mode reply session
      = (.waiting wait, run, after)) :
    (stream.inState (.rendering rendering)).next library reply session
      = (.waiting wait, stream.inState (.rendering { rendering with run }), after) := by
  rw [next_rendering, gather.eq_1, handed]

theorem next_of_finished (stream : ByteStream) (rendering : Rendering)
    (handed : rendering.run.nextText library stream.mode reply session = (.finished, run, after)) :
    (stream.inState (.rendering rendering)).next library reply session
      = stream.drain { rendering with run } after := by
  rw [next_rendering, gather.eq_1, handed]

theorem exists_fail (stream : ByteStream) (outer : Option Nat) (failure : Failure)
    (session : Session) :
    ∃ later after, stream.fail outer failure session
      = (.failed (Run.leaving stream.mode failure), later, after) :=
  ⟨_, _, rfl⟩

/-- A stream fails with what its run failed with; what its buffer holds is lost. -/
theorem next_of_failed (stream : ByteStream) (rendering : Rendering) {failure : Failure}
    (handed : rendering.run.nextText library stream.mode reply session
      = (.failed failure, run, after)) :
    ∃ later last, (stream.inState (.rendering rendering)).next library reply session
      = (.failed failure, later, last) := by
  rcases exists_fail stream rendering.outer failure after with ⟨later, last, failed⟩
  rw [Run.leaving_of_leavingWith handed] at failed
  refine ⟨later, last, ?_⟩
  rw [next_rendering, gather.eq_1, handed]
  exact failed

/-- What a stream still gives after the end of its run, and the failure that it ends with then. -/
def remains (stream : ByteStream) (buffer : TextBuffer) : List Bytes × Option Failure :=
  match buffer.remainder? with
  | none => ([], none)
  | some text =>
      match stream.encode text with
      | .ok bytes => ([bytes], none)
      | .error failure => ([], some failure)

/-- The session after a stream has ended, with a failure or without one. -/
def endedBy (stream : ByteStream) (failure? : Option Failure) (context : Nat) (outer : Option Nat)
    (session : Session) : Session :=
  match failure? with
  | none => (stream.conclude context outer session).2.2
  | some failure => (stream.fail outer failure session).2.2

/-! ## Whole streams -/

/-- A stream that is driven from a state with an answer gives chunks and then ends, with a failure
or without one, in a last session. Where its consumer has to wait, the event loop answers. -/
inductive Gives (library : Library) (stream : ByteStream) :
    Reply → StreamState → Session → List Bytes → Option Failure → Session → Prop
  | chunk {reply : Reply} {state later : StreamState} {session after last : Session} {bytes : Bytes}
      {chunks : List Bytes} {failure? : Option Failure}
      (handed : (stream.inState state).next library reply session
        = (.chunk bytes, stream.inState later, after))
      (rest : Gives library stream (.ok .null) later after chunks failure? last) :
      Gives library stream reply state session (bytes :: chunks) failure? last
  | waits {reply : Reply} {state later : StreamState} {session after last : Session}
      {wait : LoopWait} {chunks : List Bytes} {failure? : Option Failure}
      (handed : (stream.inState state).next library reply session
        = (.waiting wait, stream.inState later, after))
      (rest : Gives library stream (after.await library wait).1 later (after.await library wait).2
        chunks failure? last) :
      Gives library stream reply state session chunks failure? last
  | finishes {reply : Reply} {state : StreamState} {session last : Session} {later : ByteStream}
      (handed : (stream.inState state).next library reply session = (.finished, later, last)) :
      Gives library stream reply state session [] none last
  | fails {reply : Reply} {state : StreamState} {session last : Session} {later : ByteStream}
      {failure : Failure}
      (handed : (stream.inState state).next library reply session
        = (.failed failure, later, last)) :
      Gives library stream reply state session [] (some failure) last

variable {library} {state : StreamState} {chunks : List Bytes} {failure? : Option Failure}
  {last : Session}

/-- What a stream gives depends only on what it hands over next. -/
theorem Gives.of_next_eq {between : StreamState}
    (gives : stream.Gives library answer between after chunks failure? last)
    (same : (stream.inState state).next library reply session
      = (stream.inState between).next library answer after) :
    stream.Gives library reply state session chunks failure? last := by
  cases gives with
  | chunk handed rest => exact .chunk (same.trans handed) rest
  | waits handed rest => exact .waits (same.trans handed) rest
  | finishes handed => exact .finishes (same.trans handed)
  | fails handed => exact .fails (same.trans handed)

/-- The consumer receives what the stream gives. -/
theorem Gives.receivedWith (gives : stream.Gives library reply state session chunks failure? last) :
    (stream.inState state).receivedWith library reply session
      = some ⟨chunks, failure?, last⟩ := by
  induction gives with
  | chunk handed rest induction =>
      rw [receivedWith_of_chunk library handed, received_eq_receivedWith, induction]
      rfl
  | waits handed rest induction => exact (receivedWith_of_waiting library handed).trans induction
  | finishes handed => exact receivedWith_of_finished library handed
  | fails handed => exact receivedWith_of_failed library handed

/-- What remains after the end of a run is handed over, and then the stream ends. -/
theorem gives_of_drain
    (drains : (stream.inState state).next library reply session = stream.drain rendering after) :
    stream.Gives library reply state session (stream.remains rendering.buffer).1
      ((stream.remains rendering.buffer).2.map (Run.leaving stream.mode))
      (stream.endedBy (stream.remains rendering.buffer).2 rendering.context rendering.outer
        after) := by
  unfold drain at drains
  unfold remains
  cases pending : rendering.buffer.remainder? with
  | none =>
      rw [pending] at drains
      exact .finishes drains
  | some text =>
      rw [pending] at drains
      dsimp only at drains ⊢
      cases encoded : stream.encode text with
      | error failure =>
          rw [encoded] at drains
          exact .fails drains
      | ok bytes =>
          rw [encoded] at drains
          exact .chunk drains (.finishes rfl)

end ByteStream
end HtmlStream
