import HtmlStream.Proofs.Route.Entering
import HtmlStream.Proofs.Route.Stages

/-!
What whole streams keep: a property of sessions that no step of a body, of a render, of the event loop
or of a stream touches holds of the last session if it holds of the first. The main statement is
`KeptByStreams.renders`.
-/
namespace HtmlStream.Session

/-- Neither bodies nor the event loop have a part in a property of sessions. -/
structure KeptByLoop (property : Session → Prop) : Prop extends KeptByBodies property where
  withCurrent : ∀ {session}, property session → ∀ current, property { session with current }

/-- Nothing that happens during a stream has a part in a property of sessions. -/
structure KeptByStreams (property : Session → Prop) : Prop extends
    KeptByRenders property, KeptByLoop property where
  addContext : ∀ {session}, property session → ∀ context, property (session.addContext context).2

/-! ## The event loop -/

namespace KeptByLoop

variable {property : Session → Prop} (kept : KeptByLoop property) {session : Session}
  (library : Library)

include kept

theorem withLoop (holds : property session) (change : EventLoop → EventLoop) :
    property (session.withLoop change) :=
  kept.blind holds ..

theorem beginWait (holds : property session) (worker : Worker) (wait : LoopWait) :
    property (session.beginWait worker wait) := by
  unfold Session.beginWait
  split
  · exact kept.withLoop holds _
  · exact kept.withLoop holds _
  · exact kept.withLoop holds _
  · split
    · exact kept.withLoop holds _
    · split
      · exact kept.withLoop (kept.withLoop holds _) _
      · exact kept.withLoop holds _

theorem stepTask (holds : property session) (index : Nat) (reply : Reply) :
    property (session.stepTask library index reply) := by
  have switched : property (session.switchTo (.task index)) := kept.withCurrent holds _
  have advanced := kept.resume library switched index reply
  unfold Session.stepTask
  generalize Session.resume library index reply (session.switchTo (.task index)) = stepped
    at advanced
  rcases stepped with ⟨progress, after⟩
  cases progress with
  | waiting pending => exact kept.beginWait advanced _ _
  | _ => exact kept.withLoop advanced _

/-- The induction is on the steps that may still be taken. -/
theorem runUntilConsumer (holds : property session) (steps : Nat) :
    property (runUntilConsumer library (fun _ _ renders session => (renders, session)) steps ()
      session).2.2 := by
  induction steps generalizing session with
  | zero => exact holds
  | succ steps induction =>
      unfold Session.runUntilConsumer
      split
      · exact induction (kept.withLoop holds _)
      · next step rest _ =>
          have taken := kept.withLoop holds fun loop => { loop with due := rest }
          dsimp only
          cases step with
          | tell worker => exact induction (kept.withLoop taken _)
          | resume worker reply =>
              cases worker with
              | consumer => exact taken
              | task index => exact induction (kept.stepTask library taken index reply)
              | render index => exact induction taken

theorem await (holds : property session) (wait : LoopWait) :
    property (session.await library wait).2 :=
  kept.withCurrent (kept.runUntilConsumer library (kept.beginWait holds .consumer wait)
    stepsPerWait) session.current

theorem stepAsyncGenerator (holds : property session) (index : Nat) (reply : Reply) :
    property (session.stepAsyncGenerator library index reply).2 := by
  have advanced := kept.resume library holds index reply
  unfold Session.stepAsyncGenerator
  generalize Session.resume library index reply session = stepped at advanced
  rcases stepped with ⟨progress, after⟩
  cases progress <;> exact advanced

theorem beginRunWait (holds : property session) (wait : Wait) :
    property (session.beginRunWait library wait).2 := by
  unfold Session.beginRunWait
  split
  · split
    · exact holds
    · exact kept.stepAsyncGenerator library holds _ _
  all_goals exact holds

theorem continueRunWait (holds : property session) (wait : Wait) (reply : Reply) :
    property (session.continueRunWait library wait reply).2 := by
  unfold Session.continueRunWait
  split
  · exact kept.stepAsyncGenerator library holds _ _
  · exact holds
  · next pending _ =>
      unfold cancelPending
      dsimp only
      split
      · exact kept.withLoop holds _
      · exact holds

end KeptByLoop

/-! ## Renders -/

namespace KeptByStreams

open Renderer Run ByteStream

variable {property : Session → Prop} (kept : KeptByStreams property) {session : Session}
  (library : Library)

include kept

theorem afterWait (holds : property session) (renderer : Renderer) (wait : Wait) (reply : Reply) :
    property (renderer.afterWait library wait reply session).2.2 :=
  let readable := library.readsOnly_of_all fun _ => trivial
  (isAlike_afterWait readable kept.renderCongruence ⟨rfl, holds⟩ renderer wait reply).2.2.2

theorem opening (holds : property session) (renderer : Renderer) (root : Value) :
    property (renderer.opening library root session).2.2 := by
  unfold Renderer.opening
  split
  · next frame after framed =>
      refine kept.push library ?_ renderer frame
      cases root with
      | element =>
          cases framed
          exact kept.blind holds ..
      | routine =>
          cases framed
          exact holds
      | _ => cases framed
  · exact holds

theorem fail (holds : property session) (stream : ByteStream) (outer : Option Nat)
    (failure : Failure) : property (stream.fail outer failure session).2.2 := by
  unfold ByteStream.fail
  dsimp only
  split
  · exact kept.withCurrent (kept.diagnose holds _ _) _
  · exact kept.withCurrent holds _

theorem conclude (holds : property session) (stream : ByteStream) (context : Nat)
    (outer : Option Nat) : property (stream.conclude context outer session).2.2 :=
  kept.withCurrent (kept.diagnose holds _ _) _

theorem endedBy (holds : property session) (stream : ByteStream) (failure? : Option Failure)
    (context : Nat) (outer : Option Nat) :
    property (stream.endedBy failure? context outer session) := by
  unfold ByteStream.endedBy
  split
  · exact kept.conclude holds stream context outer
  · exact kept.fail holds stream outer _

theorem failRendering (holds : property session) (stream : ByteStream) (rendering : Rendering)
    (failure : Failure) :
    property (stream.failRendering library rendering failure session).2.2 := by
  unfold ByteStream.failRendering
  split
  · exact kept.close library (kept.fail holds stream rendering.outer failure) rendering.run
  · exact kept.fail (kept.close library holds rendering.run) stream rendering.outer _

/-- The induction is on the stages. -/
theorem rendersFrom {stream : ByteStream} {context : Nat} {outer : Option Nat}
    {buffer : TextBuffer} {stage : Stage} {chunks : List Bytes} {failure? : Option Failure}
    {last : Session}
    (renders : stream.RendersFrom library context outer buffer stage chunks failure? last)
    (holds : property stage.session) : property last := by
  induction renders with
  | turn later induction => exact induction (kept.turn library holds _)
  | held accepted later induction | released accepted encoded later induction =>
      exact induction holds
  | @unencodable _ remaining renderer session _ _ _ failure _ _ accepted encoded failed =>
      have ended : property (stream.failRendering library
          ⟨⟨renderer, .atChunk⟩, remaining, context, outer⟩ failure session).2.2 :=
        kept.failRendering library holds stream _ failure
      rw [failed] at ended
      exact ended
  | @refused _ renderer session _ wait _ _ sync refuses =>
      have closed := kept.close library holds ⟨renderer, .atWait wait⟩
      cases refuses
      exact kept.fail closed stream outer _
  | @answered _ renderer session _ _ wait reply _ _ async begins later induction =>
      have begun : property (session.beginRunWait library wait).2 :=
        kept.beginRunWait library holds wait
      rw [begins] at begun
      exact induction (kept.afterWait library begun renderer wait reply)
  | @waits _ _ session _ _ wait _ _ _ async begins later induction =>
      have begun : property (session.beginRunWait library wait).2 :=
        kept.beginRunWait library holds wait
      rw [begins] at begun
      exact induction begun
  | @goesOn _ renderer session _ _ wait pending reply _ _ async continues later induction =>
      have awaited : property (session.await library pending).2 := kept.await library holds pending
      have continued := kept.continueRunWait library awaited wait (session.await library pending).1
      rw [continues] at continued
      exact induction (kept.afterWait library continued renderer wait reply)
  | @waitsAgain _ _ session _ _ wait pending _ _ _ async continues later induction =>
      have awaited : property (session.await library pending).2 := kept.await library holds pending
      have continued := kept.continueRunWait library awaited wait (session.await library pending).1
      rw [continues] at continued
      exact induction continued
  | finishes => exact kept.endedBy holds stream _ context outer
  | @fails _ renderer _ _ _ _ _ aborts =>
      have closed := kept.close library holds ⟨renderer, .over⟩
      cases aborts
      exact kept.fail closed stream outer _

theorem root (holds : property session) (route : Route) :
    property (route.root library session).2 :=
  let readable := library.readsOnly_of_all fun _ => trivial
  (route.after_root readable kept.congruence ⟨rfl, holds⟩).2.2

theorem enter (holds : property session) (stream : ByteStream) :
    property (stream.enter library session).2 := by
  have entered : property (session.enterContext (some stream.route.name)
      stream.route.settings.maxDepth none).2 := kept.withCurrent (kept.addContext holds _) _
  have rooted := kept.root library (kept.diagnose entered .route
    ("Rendering route " ++ stream.route.name ++ modeRemark stream.mode)) stream.route
  unfold ByteStream.enter
  dsimp only
  generalize stream.route.root library _ = given at rooted
  rcases given with ⟨reply, after⟩
  cases reply <;> exact rooted

/-- What holds when a stream begins holds when it has ended. -/
theorem renders {stream : ByteStream} {chunks : List Bytes} {failure? : Option Failure}
    {last : Session} (renders : stream.Renders library session chunks failure? last)
    (holds : property session) : property last := by
  have entered := kept.enter library holds stream
  cases renders with
  | refuses refused =>
      rw [refused] at entered
      exact kept.fail entered stream _ _
  | enters empty began later =>
      rw [began] at entered
      exact kept.rendersFrom library later (kept.opening library entered _ _)

end KeptByStreams
end HtmlStream.Session
