import HtmlStream.Proofs.Renderer.Iteration
import HtmlStream.Proofs.Route.Receiving

/-!
Whole streams, stage by stage. A render takes one turn after another, its texts are buffered and
encoded, and what it waits for is over at once or takes the event loop. Every stream comes to its end
that way, with an event loop or without one. The main statements are `exists_renders` and
`Renders.received`.
-/
namespace HtmlStream

/-! ## Progress while the event loop runs -/

namespace Session

variable (library : Library)

theorem progresses_beginWait (worker : Worker) (wait : LoopWait) (session : Session) :
    Progresses session (session.beginWait worker wait) := by
  apply Progresses.of_routines_eq
  unfold beginWait
  split
  · rfl
  · rfl
  · rfl
  · split
    · rfl
    · split <;> rfl

theorem progresses_stepTask (index : Nat) (reply : Reply) (session : Session) :
    Progresses session (session.stepTask library index reply) := by
  have switched : Progresses session (session.switchTo (.task index)) := .of_routines_eq rfl
  have advanced := switched.trans
    (advancing_resume library index reply (session.switchTo (.task index))).1
  unfold stepTask
  generalize resume library index reply (session.switchTo (.task index)) = stepped at advanced
  rcases stepped with ⟨progress, after⟩
  cases progress with
  | waiting pending => exact advanced.trans (progresses_beginWait _ _ after)
  | _ => exact advanced.trans (.of_routines_eq rfl)

/-- The induction is on the steps that may still be taken. -/
theorem progresses_runUntilConsumer (steps : Nat) (session : Session) :
    Progresses session (runUntilConsumer library (fun _ _ renders session => (renders, session))
      steps () session).2.2 := by
  induction steps generalizing session with
  | zero => exact .refl session
  | succ steps induction =>
      unfold runUntilConsumer
      split
      · exact Progresses.trans (.of_routines_eq rfl) (induction _)
      · next step rest _ =>
          dsimp only
          have taken : Progresses session (session.withLoop fun loop => { loop with due := rest }) :=
            .of_routines_eq rfl
          cases step with
          | tell worker => exact taken.trans (Progresses.trans (.of_routines_eq rfl) (induction _))
          | resume worker reply =>
              cases worker with
              | consumer => exact taken
              | task index =>
                  exact (taken.trans (progresses_stepTask library index reply _)).trans (induction _)
              | render index => exact taken.trans (induction _)

/-- Bodies only go on while the consumer waits. -/
theorem progresses_await (wait : LoopWait) (session : Session) :
    Progresses session (session.await library wait).2 :=
  ((progresses_beginWait .consumer wait session).trans
    (progresses_runUntilConsumer library stepsPerWait _)).trans (.of_routines_eq rfl)

end Session

namespace Wait

/-- The body that is advanced during a wait; any number if there is none. -/
def generatorIndex : Wait → Nat
  | .step generator _ => generator.index
  | .settle _ => 0

/-- A wait that goes on is over with one of its answers, or less is left of the async generator that
is waited for. -/
theorem hasContinued (library : Library) (wait : Wait) (given : Reply) {first between : Session}
    (earlier : first.Progresses between) :
    match between.continueRunWait library wait given with
    | (.over reply, after) => wait.IsAnswered library first reply after
    | (.pending _, after) => between.Progresses after ∧
        Session.Descends callLimit between after wait.generatorIndex := by
  unfold Session.continueRunWait
  cases wait with
  | settle pending =>
      cases given with
      | ok answer => exact .settles earlier
      | error failure =>
          refine .fails (earlier.trans (.of_routines_eq ?_))
          cases pending <;> rfl
  | step generator answer =>
      have advanced := Session.advancing_resume library generator.index given between
      dsimp only
      unfold Session.stepAsyncGenerator
      rcases resumed : between.resume library generator.index given with ⟨progress, after⟩
      rw [resumed] at advanced
      cases progress with
      | produced effect => exact .gives earlier resumed (.refl after)
      | waiting pending => exact ⟨advanced.1, advanced.2 trivial⟩
      | returned | raised => exact .fails (earlier.trans advanced.1)

end Wait

/-! ## Stages -/

/-- How far a render got: what its last turn came to, or what takes the event loop before a wait is
over. -/
inductive Stage where
  | turned (turned : Turned)
  | waiting (wait : Wait) (pending : LoopWait) (renderer : Renderer) (session : Session)

/-- The session that a render has at a stage. -/
def Stage.session : Stage → Session
  | .turned reached => reached.2.2
  | .waiting _ _ _ session => session

/-- The same stage in another session. -/
def Stage.withSession (session : Session) : Stage → Stage
  | .turned (turn, renderer, _) => .turned (turn, renderer, session)
  | .waiting wait pending renderer _ => .waiting wait pending renderer session

namespace Run

/-- What is delivered after a step of a run. -/
def delivered (library : Library) (mode : RenderMode) : Stepped → TextDelivered
  | (.chunk text, run, session) => (.chunk text, run, session)
  | (.finished, run, session) => (.finished, run, session)
  | (.failed failure, run, session) => (.failed failure, run, session)
  | (.wait wait, run, session) =>
      match mode with
      | .sync => refuseWait library run session
      | .async =>
          match session.beginRunWait library wait with
          | (.over reply, session) => nextTextAsync library reply run session
          | (.pending wait, session) => (.waiting wait, run, session)

/-- What is delivered next from a stage of a render. -/
def deliveredFrom (library : Library) (mode : RenderMode) : Stage → TextDelivered
  | .turned turned => leavingWith mode (delivered library mode (proceed library turned))
  | .waiting wait pending renderer session => (.waiting pending, ⟨renderer, .atWait wait⟩, session)

variable (library : Library) {mode : RenderMode}

theorem nextTextAsync_eq_delivered (reply : Reply) (run : Run) (session : Session) :
    nextTextAsync library reply run session
      = delivered library .async (run.resume library reply session) := by
  rw [nextTextAsync.eq_1]
  unfold delivered
  generalize run.resume library reply session = stepped
  rcases stepped with ⟨step, next, after⟩
  cases step <;> rfl

/-- A run that is not in the middle of a wait is driven on by resuming it. -/
theorem nextText_of_resume {run : Run} {session : Session} {turned : Turned}
    (awake : ∀ wait, run.position ≠ .atWait wait)
    (resumed : run.resume library (.ok .null) session = proceed library turned) :
    run.nextText library mode (.ok .null) session = deliveredFrom library mode (.turned turned) := by
  show _ = leavingWith mode (delivered library mode (proceed library turned))
  unfold nextText
  rw [← resumed]
  cases mode with
  | sync =>
      show leavingWith .sync (run.nextTextSync library session) = _
      unfold nextTextSync delivered
      generalize run.resume library (.ok .null) session = stepped
      rcases stepped with ⟨step, next, after⟩
      cases step <;> rfl
  | async =>
      rw [← nextTextAsync_eq_delivered]
      rcases run with ⟨renderer, position⟩
      cases position with
      | atWait wait => exact absurd rfl (awake wait)
      | _ => rfl

theorem deliveredFrom_proceed (renderer : Renderer) (session : Session) :
    deliveredFrom library mode (.turned (.proceed, renderer, session))
      = deliveredFrom library mode (.turned (renderer.turn library session)) := by
  unfold deliveredFrom
  dsimp only
  rw [Renderer.proceed_turn]

/-- A run goes on at once with a wait that is over at once. -/
theorem deliveredFrom_wait {wait : Wait} {renderer : Renderer} {session after : Session}
    {reply : Reply} (begins : session.beginRunWait library wait = (.over reply, after)) :
    deliveredFrom library .async (.turned (.wait wait, renderer, session))
      = deliveredFrom library .async (.turned (renderer.afterWait library wait reply after)) := by
  show leavingWith .async (match session.beginRunWait library wait with
    | (.over reply, session) => nextTextAsync library reply ⟨renderer, .atWait wait⟩ session
    | (.pending pending, session) => (.waiting pending, ⟨renderer, .atWait wait⟩, session)) = _
  rw [begins]
  dsimp only
  rw [nextTextAsync_eq_delivered]
  rfl

theorem deliveredFrom_pending {wait : Wait} {pending : LoopWait} {renderer : Renderer}
    {session after : Session} (begins : session.beginRunWait library wait = (.pending pending, after)) :
    deliveredFrom library .async (.turned (.wait wait, renderer, session))
      = deliveredFrom library .async (.waiting wait pending renderer after) := by
  show leavingWith .async (match session.beginRunWait library wait with
    | (.over reply, session) => nextTextAsync library reply ⟨renderer, .atWait wait⟩ session
    | (.pending pending, session) => (.waiting pending, ⟨renderer, .atWait wait⟩, session)) = _
  rw [begins]
  rfl

/-- Without an event loop nothing can be waited for. -/
theorem deliveredFrom_refused {wait : Wait} {renderer : Renderer} {session after : Session}
    {refusal : Failure} {run : Run}
    (refuses : refuseWait library ⟨renderer, .atWait wait⟩ session = (.failed refusal, run, after)) :
    deliveredFrom library .sync (.turned (.wait wait, renderer, session))
      = (.failed refusal, run, after) := by
  show leavingWith .sync (refuseWait library ⟨renderer, .atWait wait⟩ session) = _
  rw [refuses]
  rfl

theorem deliveredFrom_failed {renderer : Renderer} {session after : Session}
    {failure raised : Failure} {run : Run}
    (aborts : abort library failure renderer session = (.failed raised, run, after)) :
    deliveredFrom library mode (.turned (.failed failure, renderer, session))
      = (.failed (leaving mode raised), run, after) := by
  show leavingWith mode (delivered library mode (abort library failure renderer session)) = _
  rw [aborts]
  rfl

/-- What the event loop answered ends the wait, or the run waits again. -/
theorem nextText_atWait {wait : Wait} {renderer : Renderer} {given : Reply} {session after : Session}
    {progress : WaitProgress} {stage : Stage}
    (continues : session.continueRunWait library wait given = (progress, after))
    (comes : match progress with
      | .over reply => stage = .turned (renderer.afterWait library wait reply after)
      | .pending pending => stage = .waiting wait pending renderer after) :
    (Run.mk renderer (.atWait wait)).nextText library .async given session
      = deliveredFrom library .async stage := by
  unfold nextText
  dsimp only
  rw [continues]
  rcases progress with reply | pending
  · subst comes
    dsimp only
    rw [nextTextAsync_eq_delivered]
    rfl
  · subst comes
    rfl

end Run

namespace ByteStream

open Run

/-- What a stream gives when something is delivered to its buffer. -/
def gathered (library : Library) (stream : ByteStream) (buffer : TextBuffer) (context : Nat)
    (outer : Option Nat) : TextDelivered → BytesDelivered
  | (.chunk text, run, session) =>
      match buffer.accept text with
      | (some released, buffer) =>
          stream.release library ⟨run, buffer, context, outer⟩ released session
      | (none, buffer) => stream.gather library (.ok .null) ⟨run, buffer, context, outer⟩ session
  | (.waiting wait, run, session) =>
      (.waiting wait, stream.inState (.rendering ⟨run, buffer, context, outer⟩), session)
  | (.finished, run, session) => stream.drain ⟨run, buffer, context, outer⟩ session
  | (.failed failure, _, session) => stream.fail outer failure session

/-- A stream that goes on from a stage of its render, where the buffer holds back some text, gives
chunks and then ends, with a failure or without one, in a last session. Each rule is one turn of the
render or one step of what happens to its texts and waits. -/
inductive RendersFrom (library : Library) (stream : ByteStream) (context : Nat)
    (outer : Option Nat) : TextBuffer → Stage → List Bytes → Option Failure → Session → Prop
  | turn {buffer : TextBuffer} {renderer : Renderer} {session last : Session}
      {chunks : List Bytes} {failure? : Option Failure}
      (later : RendersFrom library stream context outer buffer
        (.turned (renderer.turn library session)) chunks failure? last) :
      RendersFrom library stream context outer buffer (.turned (.proceed, renderer, session))
        chunks failure? last
  | held {buffer kept : TextBuffer} {renderer : Renderer} {session last : Session} {text : String}
      {chunks : List Bytes} {failure? : Option Failure}
      (accepted : buffer.accept text = (none, kept))
      (later : RendersFrom library stream context outer kept
        (.turned (.proceed, renderer, session)) chunks failure? last) :
      RendersFrom library stream context outer buffer (.turned (.chunk text, renderer, session))
        chunks failure? last
  | released {buffer kept : TextBuffer} {renderer : Renderer} {session last : Session}
      {text released : String} {bytes : Bytes} {chunks : List Bytes} {failure? : Option Failure}
      (accepted : buffer.accept text = (some released, kept))
      (encoded : stream.encode released = .ok bytes)
      (later : RendersFrom library stream context outer kept
        (.turned (.proceed, renderer, session)) chunks failure? last) :
      RendersFrom library stream context outer buffer (.turned (.chunk text, renderer, session))
        (bytes :: chunks) failure? last
  | unencodable {buffer kept : TextBuffer} {renderer : Renderer} {session last : Session}
      {text released : String} {failure raised : Failure} {closed : ByteStream}
      (accepted : buffer.accept text = (some released, kept))
      (encoded : stream.encode released = .error failure)
      (failed : stream.failRendering library ⟨⟨renderer, .atChunk⟩, kept, context, outer⟩ failure
        session = (.failed raised, closed, last)) :
      RendersFrom library stream context outer buffer (.turned (.chunk text, renderer, session)) []
        (some raised) last
  | refused {buffer : TextBuffer} {renderer : Renderer} {session after : Session} {wait : Wait}
      {refusal : Failure} {run : Run} (sync : stream.mode = .sync)
      (refuses : refuseWait library ⟨renderer, .atWait wait⟩ session
        = (.failed refusal, run, after)) :
      RendersFrom library stream context outer buffer (.turned (.wait wait, renderer, session)) []
        (some refusal) (stream.fail outer refusal after).2.2
  | answered {buffer : TextBuffer} {renderer : Renderer} {session after last : Session}
      {wait : Wait} {reply : Reply} {chunks : List Bytes} {failure? : Option Failure}
      (async : stream.mode = .async)
      (begins : session.beginRunWait library wait = (.over reply, after))
      (later : RendersFrom library stream context outer buffer
        (.turned (renderer.afterWait library wait reply after)) chunks failure? last) :
      RendersFrom library stream context outer buffer (.turned (.wait wait, renderer, session))
        chunks failure? last
  | waits {buffer : TextBuffer} {renderer : Renderer} {session after last : Session} {wait : Wait}
      {pending : LoopWait} {chunks : List Bytes} {failure? : Option Failure}
      (async : stream.mode = .async)
      (begins : session.beginRunWait library wait = (.pending pending, after))
      (later : RendersFrom library stream context outer buffer
        (.waiting wait pending renderer after) chunks failure? last) :
      RendersFrom library stream context outer buffer (.turned (.wait wait, renderer, session))
        chunks failure? last
  | goesOn {buffer : TextBuffer} {renderer : Renderer} {session after last : Session} {wait : Wait}
      {pending : LoopWait} {reply : Reply} {chunks : List Bytes} {failure? : Option Failure}
      (async : stream.mode = .async)
      (continues : (session.await library pending).2.continueRunWait library wait
        (session.await library pending).1 = (.over reply, after))
      (later : RendersFrom library stream context outer buffer
        (.turned (renderer.afterWait library wait reply after)) chunks failure? last) :
      RendersFrom library stream context outer buffer (.waiting wait pending renderer session)
        chunks failure? last
  | waitsAgain {buffer : TextBuffer} {renderer : Renderer} {session after last : Session}
      {wait : Wait} {pending another : LoopWait} {chunks : List Bytes} {failure? : Option Failure}
      (async : stream.mode = .async)
      (continues : (session.await library pending).2.continueRunWait library wait
        (session.await library pending).1 = (.pending another, after))
      (later : RendersFrom library stream context outer buffer
        (.waiting wait another renderer after) chunks failure? last) :
      RendersFrom library stream context outer buffer (.waiting wait pending renderer session)
        chunks failure? last
  | finishes (buffer : TextBuffer) (renderer : Renderer) (session : Session) :
      RendersFrom library stream context outer buffer (.turned (.finished, renderer, session))
        (stream.remains buffer).1 ((stream.remains buffer).2.map (leaving stream.mode))
        (stream.endedBy (stream.remains buffer).2 context outer session)
  | fails {buffer : TextBuffer} {renderer : Renderer} {session after : Session}
      {failure raised : Failure} {run : Run}
      (aborts : abort library failure renderer session = (.failed raised, run, after)) :
      RendersFrom library stream context outer buffer (.turned (.failed failure, renderer, session))
        [] (some (leaving stream.mode raised))
        (stream.fail outer (leaving stream.mode raised) after).2.2

/-- A stream, from its beginning on. -/
inductive Renders (library : Library) (stream : ByteStream) (session : Session) :
    List Bytes → Option Failure → Session → Prop
  | refuses {failure : Failure} {entered : Session}
      (refused : stream.enter library session = (.error failure, entered)) :
      Renders library stream session [] (some (leaving stream.mode failure))
        (stream.fail session.current failure entered).2.2
  | enters {renderer : Renderer} {root : Value} {buffer : TextBuffer} {context : Nat}
      {outer : Option Nat} {entered last : Session} {chunks : List Bytes}
      {failure? : Option Failure} (empty : renderer.frames = [])
      (began : stream.enter library session
        = (.ok ⟨.start renderer root, buffer, context, outer⟩, entered))
      (later : RendersFrom library stream context outer buffer
        (.turned (renderer.opening library root entered)) chunks failure? last) :
      Renders library stream session chunks failure? last

variable (library : Library) {stream : ByteStream} {context : Nat} {outer : Option Nat}
  {buffer : TextBuffer} {chunks : List Bytes} {failure? : Option Failure} {last : Session}

/-! ## What the consumer is given -/

theorem gather_eq_gathered (stream : ByteStream) (reply : Reply) (run : Run) (session : Session) :
    stream.gather library reply ⟨run, buffer, context, outer⟩ session
      = stream.gathered library buffer context outer
          (run.nextText library stream.mode reply session) := by
  rw [gather.eq_1]
  generalize run.nextText library stream.mode reply session = delivered
  rcases delivered with ⟨delivery, next, after⟩
  cases delivery with
  | chunk text =>
      unfold gathered
      rcases buffer.accept text with ⟨_ | released, kept⟩ <;> rfl
  | _ => rfl

/-- Where a run goes on after a text, so does its stream. -/
theorem gather_atChunk (stream : ByteStream) (renderer : Renderer) (session : Session) :
    stream.gather library (.ok .null) ⟨⟨renderer, .atChunk⟩, buffer, context, outer⟩ session
      = stream.gathered library buffer context outer
          (deliveredFrom library stream.mode (.turned (.proceed, renderer, session))) := by
  have resumed : (Run.mk renderer .atChunk).resume library (.ok .null) session
      = proceed library (.proceed, renderer, session) := rfl
  rw [gather_eq_gathered, nextText_of_resume library (fun _ equal => by cases equal) resumed]

/-- A text that the buffer holds back. -/
theorem gathered_of_held {kept : TextBuffer} {text : String} (renderer : Renderer) (session : Session)
    (accepted : buffer.accept text = (none, kept)) :
    stream.gathered library buffer context outer
        (deliveredFrom library stream.mode (.turned (.chunk text, renderer, session)))
      = stream.gather library (.ok .null) ⟨⟨renderer, .atChunk⟩, kept, context, outer⟩ session := by
  show (match buffer.accept text with | (some _, _) => _ | (none, _) => _) = _
  rw [accepted]

theorem gathered_of_accepted {kept : TextBuffer} {text released : String} (renderer : Renderer)
    (session : Session) (accepted : buffer.accept text = (some released, kept)) :
    stream.gathered library buffer context outer
        (deliveredFrom library stream.mode (.turned (.chunk text, renderer, session)))
      = stream.release library ⟨⟨renderer, .atChunk⟩, kept, context, outer⟩ released session := by
  show (match buffer.accept text with | (some _, _) => _ | (none, _) => _) = _
  rw [accepted]

/-- The stream gives what its stages come to. The induction is on the stages. -/
theorem RendersFrom.gives {stage : Stage}
    (renders : stream.RendersFrom library context outer buffer stage chunks failure? last)
    {reply : Reply} {state : StreamState} {session : Session}
    (next : (stream.inState state).next library reply session
      = stream.gathered library buffer context outer (deliveredFrom library stream.mode stage)) :
    stream.Gives library reply state session chunks failure? last := by
  induction renders generalizing reply state session with
  | turn later induction =>
      rw [deliveredFrom_proceed] at next
      exact induction next
  | @held _ kept renderer between _ text _ _ accepted later induction =>
      apply induction
      rw [next, ← gather_atChunk, gathered_of_held library renderer between accepted]
  | @released _ kept renderer between _ text released bytes _ _ accepted encoded later induction =>
      have handed : (stream.inState state).next library reply session = (.chunk bytes,
          stream.inState (.rendering ⟨⟨renderer, .atChunk⟩, kept, context, outer⟩), between) := by
        rw [next, gathered_of_accepted library renderer between accepted, release, encoded]
      refine .chunk handed (induction ?_)
      rw [next_rendering, gather_atChunk]
  | @unencodable _ kept renderer between _ text released _ _ closed accepted encoded failed =>
      apply Gives.fails
      rw [next, gathered_of_accepted library renderer between accepted, release, encoded]
      exact failed
  | @refused _ renderer between after wait refusal run sync refuses =>
      have failed : leaving stream.mode refusal = refusal := by rw [sync]; rfl
      apply Gives.fails
      rw [next, sync, deliveredFrom_refused library refuses]
      show stream.fail outer refusal after = _
      rw [fail, failed]
  | answered async begins later induction =>
      rw [async, deliveredFrom_wait library begins, ← async] at next
      exact induction next
  | waits async begins later induction =>
      rw [async, deliveredFrom_pending library begins, ← async] at next
      exact induction next
  | goesOn async continues later induction =>
      refine .waits next (induction ?_)
      rw [next_rendering, gather_eq_gathered, async, nextText_atWait library continues rfl]
  | waitsAgain async continues later induction =>
      refine .waits next (induction ?_)
      rw [next_rendering, gather_eq_gathered, async, nextText_atWait library continues rfl]
  | finishes buffer renderer between => exact gives_of_drain next
  | @fails _ renderer between after failure raised run aborts =>
      apply Gives.fails
      rw [next, deliveredFrom_failed library aborts]
      show stream.fail outer (leaving stream.mode raised) after = _
      rw [fail, leaving_leaving]

/-- The consumer of a stream receives what its stages come to. -/
theorem Renders.received {route : Route} {mode : RenderMode} {session : Session}
    (renders : (ofRoute route mode).Renders library session chunks failure? last) :
    (ofRoute route mode).received library session = some ⟨chunks, failure?, last⟩ := by
  rw [received_eq_receivedWith]
  have begins : (ofRoute route mode).next library (.ok .null) session
      = (ofRoute route mode).begin library session := rfl
  cases renders with
  | @refuses failure entered refused =>
      apply receivedWith_of_failed
      rw [begins]
      unfold begin
      rw [refused]
      rfl
  | @enters renderer root buffer context outer entered _ _ _ empty began later =>
      have resumed := @Renderer.begin_eq_proceed library renderer root entered empty
      refine (@RendersFrom.gives library _ _ _ _ _ _ _ _ later (.ok .null) .unstarted session ?_).receivedWith
      show (ofRoute route mode).begin library session = _
      unfold begin
      rw [began]
      dsimp only
      rw [gather_eq_gathered]
      exact congrArg _ (@nextText_of_resume library mode (.start renderer root) entered _
        (fun _ equal => by cases equal) resumed)

/-! ## Every stream comes to its end -/

theorem exists_failed_of_failRendering {rendering : Rendering} {failure : Failure}
    {session last : Session} {delivery : Delivery Bytes} {closed : ByteStream}
    (failed : stream.failRendering library rendering failure session = (delivery, closed, last)) :
    ∃ raised, delivery = .failed raised := by
  unfold failRendering fail at failed
  split at failed
  · cases failed
    exact ⟨_, rfl⟩
  · cases failed
    exact ⟨_, rfl⟩

open Renderer

/-- After a wait that takes the event loop a render comes to its end, if it does whatever the wait is
answered with. An async generator may wait again, but each time less is left of it. -/
theorem exists_rendersFrom_waiting (async : stream.mode = .async) {wait : Wait}
    {renderer : Renderer} {first session : Session}
    (ends : ∀ reply after, wait.IsAnswered library first reply after →
      ∃ chunks failure? last, stream.RendersFrom library context outer buffer
        (.turned (renderer.afterWait library wait reply after)) chunks failure? last)
    (earlier : first.Progresses session) (pending : LoopWait) :
    ∃ chunks failure? last, stream.RendersFrom library context outer buffer
      (.waiting wait pending renderer session) chunks failure? last := by
  have descends := Session.acc_descends callLimit wait.generatorIndex session
  induction descends generalizing pending with
  | intro session _ induction =>
      have waited := session.progresses_await library pending
      have continued := Wait.hasContinued library wait (session.await library pending).1
        (earlier.trans waited)
      rcases continues : (session.await library pending).2.continueRunWait library wait
        (session.await library pending).1 with ⟨reply | another, after⟩
      · rw [continues] at continued
        rcases ends reply after continued with ⟨chunks, failure?, last, later⟩
        exact ⟨chunks, failure?, last, .goesOn async continues later⟩
      · rw [continues] at continued
        have lower := waited.trans continued.1
        rcases induction after ⟨lower, waited.descends continued.2⟩ (earlier.trans lower) another
          with ⟨chunks, failure?, last, later⟩
        exact ⟨chunks, failure?, last, .waitsAgain async continues later⟩

/-- A render that comes to its end does so as a stream. The induction is on its iterations. -/
theorem exists_rendersFrom {turned : Turned} (ends : Renderer.Ends library turned)
    (buffer : TextBuffer) :
    ∃ chunks failure? last, stream.RendersFrom library context outer buffer (.turned turned) chunks
      failure? last := by
  induction ends generalizing buffer with
  | intro turned _ induction =>
      rcases turned with ⟨turn, renderer, session⟩
      cases turn with
      | proceed =>
          rcases induction _ (.turns renderer session) buffer with ⟨chunks, failure?, last, later⟩
          exact ⟨chunks, failure?, last, .turn later⟩
      | chunk text =>
          have goesOn := induction _ (.handsOut text renderer (.refl session))
          rcases accepted : buffer.accept text with ⟨_ | released, kept⟩
          · rcases goesOn kept with ⟨chunks, failure?, last, later⟩
            exact ⟨chunks, failure?, last, .held accepted later⟩
          · rcases encoded : stream.encode released with failure | bytes
            · rcases failed : stream.failRendering library
                ⟨⟨renderer, .atChunk⟩, kept, context, outer⟩ failure session with
                ⟨delivery, closed, last⟩
              rcases exists_failed_of_failRendering library failed with ⟨raised, rfl⟩
              exact ⟨[], some raised, last, .unencodable accepted encoded failed⟩
            · rcases goesOn kept with ⟨chunks, failure?, last, later⟩
              exact ⟨bytes :: chunks, failure?, last, .released accepted encoded later⟩
      | wait wait =>
          rcases mode : stream.mode with _ | _
          · exact ⟨_, _, _, .refused mode rfl⟩
          · have answered := isAnswered_atOnce library wait session
            unfold answeringAtOnce at answered
            rcases begins : session.beginRunWait library wait with ⟨reply | pending, after⟩
            · rw [begins] at answered
              rcases induction _ (.goesOn renderer answered) buffer with
                ⟨chunks, failure?, last, later⟩
              exact ⟨chunks, failure?, last, .answered mode begins later⟩
            · rw [begins] at answered
              have ends (reply : Reply) (after : Session)
                  (answered : wait.IsAnswered library session reply after) :=
                induction _ (.goesOn renderer answered) buffer
              rcases exists_rendersFrom_waiting library mode ends answered.progresses pending with
                ⟨chunks, failure?, last, later⟩
              exact ⟨chunks, failure?, last, .waits mode begins later⟩
      | finished => exact ⟨_, _, _, .finishes buffer renderer session⟩
      | failed failure => exact ⟨_, _, _, .fails rfl⟩

/-- A render begins with nothing on its stack. -/
theorem exists_of_enter {session entered : Session} {rendering : Rendering}
    (enters : stream.enter library session = (.ok rendering, entered)) :
    ∃ renderer root buffer context outer,
      rendering = ⟨.start renderer root, buffer, context, outer⟩ ∧ renderer.frames = [] := by
  unfold enter at enters
  dsimp only at enters
  split at enters
  · cases enters
  · cases enters
    exact ⟨_, _, _, _, _, rfl, rfl⟩

/-- Every stream comes to its end, with an event loop or without one. -/
theorem exists_renders (stream : ByteStream) (session : Session) :
    ∃ chunks failure? last, stream.Renders library session chunks failure? last := by
  rcases entered : stream.enter library session with ⟨failure | rendering, after⟩
  · exact ⟨_, _, _, .refuses entered⟩
  · rcases exists_of_enter library entered with ⟨renderer, root, buffer, context, outer, rfl, empty⟩
    rcases exists_rendersFrom library (ends_opening library empty root after) buffer with
      ⟨chunks, failure?, last, later⟩
    exact ⟨chunks, failure?, last, .enters empty entered later⟩

end ByteStream
end HtmlStream
