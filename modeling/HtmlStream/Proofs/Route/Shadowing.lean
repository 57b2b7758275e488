import HtmlStream.Proofs.Renderer.Shadowing
import HtmlStream.Proofs.Route.Keeping
import Mathlib

/-!
Registrations that are made during a render. They are not seen by it: a stream gives what it gives
with them removed from all bodies, unless they change which bodies the registry holds; and they are
all there, in their order, for the next render. The main statement is
`received_without_registrations`.
-/
namespace HtmlStream

namespace Session

variable {origin left right : Session} (library : Library)

theorem keptByStreams_isEntangled (origin : Session) : KeptByStreams origin.IsEntangled where
  toKeptByRenders := keptByRenders_isEntangled origin
  withCurrent entangled _ := entangled
  addContext entangled _ := entangled

/-! ## The event loop -/

namespace Shadows

variable (shadows : origin.Shadows left right)

include shadows

theorem withLoop (change : EventLoop → EventLoop) :
    origin.Shadows (left.withLoop change) (right.withLoop change) :=
  shadows.write (Session.withLoop · change)

theorem beginWait (worker : Worker) (wait : LoopWait) :
    origin.Shadows (left.beginWait worker wait) (right.beginWait worker wait) := by
  unfold Session.beginWait
  split
  · exact shadows.withLoop _
  · exact shadows.withLoop _
  · exact shadows.withLoop _
  · rw [shadows.isOver_eq]
    split
    · exact shadows.withLoop _
    · split
      · exact (shadows.withLoop _).withLoop _
      · exact shadows.withLoop _

theorem switchTo (worker : Worker) :
    origin.Shadows (left.switchTo worker) (right.switchTo worker) :=
  shadows.write (Session.switchTo · worker)

theorem cancelPending (pending : Pending) :
    origin.Shadows (left.cancelPending pending) (right.cancelPending pending) := by
  unfold Session.cancelPending
  split
  · exact shadows.withLoop _
  · exact shadows

end Shadows

theorem follows_stepTask (shadows : origin.Shadows left right) (index : Nat) (reply : Reply) :
    origin.IsEntangled (left.stepTask library index reply) ∨
      origin.Shadows (left.stepTask library index reply)
        (right.stepTask library.stripped index reply) := by
  have kept := keptByStreams_isEntangled origin
  unfold stepTask
  rcases (follows_resume origin library index reply (shadows.switchTo (.task index))).cases with
    entangled | ⟨progress, leftAfter, rightAfter, onLeft, onRight, after⟩
  · refine .inl ?_
    generalize resume library index reply (left.switchTo (.task index)) = stepped at entangled
    rcases stepped with ⟨progress, later⟩
    cases progress with
    | waiting pending => exact kept.beginWait entangled _ _
    | _ => exact kept.withLoop entangled _
  · rw [onLeft, onRight]
    cases progress with
    | waiting pending => exact .inr (after.beginWait _ _)
    | _ => exact .inr (after.withLoop _)

/-- The induction is on the steps that may still be taken. -/
theorem follows_runUntilConsumer (shadows : origin.Shadows left right) (steps : Nat) :
    FollowsBoth origin
      (runUntilConsumer library (fun _ _ renders session => (renders, session)) steps () left)
      (runUntilConsumer library.stripped (fun _ _ renders session => (renders, session)) steps ()
        right) := by
  have kept := keptByStreams_isEntangled origin
  induction steps generalizing left right with
  | zero => exact shadows.followsBoth _ _
  | succ steps induction =>
      unfold runUntilConsumer
      rw [shadows.read_eq (fun session => session.loop.due) fun _ _ _ _ => rfl]
      split
      · exact induction (shadows.withLoop _)
      · next step rest _ =>
          have taken := shadows.withLoop fun loop => { loop with due := rest }
          dsimp only
          cases step with
          | tell worker => exact induction (taken.withLoop _)
          | resume worker reply =>
              cases worker with
              | consumer => exact taken.followsBoth _ _
              | task index =>
                  rcases follows_stepTask library taken index reply with entangled | after
                  · exact .inl (kept.runUntilConsumer library entangled steps)
                  · exact induction after
              | render index => exact induction taken

theorem follows_await (shadows : origin.Shadows left right) (wait : LoopWait) :
    Follows origin (left.await library wait) (right.await library.stripped wait) := by
  have kept := keptByStreams_isEntangled origin
  have current := shadows.read_eq Session.current fun _ _ _ _ => rfl
  unfold await
  rcases (follows_runUntilConsumer library (shadows.beginWait .consumer wait) stepsPerWait).cases
    with entangled | ⟨reply, _, leftAfter, rightAfter, onLeft, onRight, after⟩
  · exact .inl (kept.withCurrent entangled left.current)
  · rw [onLeft, onRight]
    dsimp only
    rw [current]
    exact (after.write fun session => { session with current := left.current }).follows reply

theorem follows_stepAsyncGenerator (shadows : origin.Shadows left right) (index : Nat)
    (reply : Reply) :
    Follows origin (left.stepAsyncGenerator library index reply)
      (right.stepAsyncGenerator library.stripped index reply) := by
  unfold stepAsyncGenerator
  rcases (follows_resume origin library index reply shadows).cases with
    entangled | ⟨progress, leftAfter, rightAfter, onLeft, onRight, after⟩
  · refine .inl ?_
    generalize resume library index reply left = stepped at entangled
    rcases stepped with ⟨progress, later⟩
    cases progress <;> exact entangled
  · rw [onLeft, onRight]
    cases progress <;> exact after.follows _

theorem Shadows.isWaiting_eq (shadows : origin.Shadows left right) (index : Nat) :
    right.isWaiting index = left.isWaiting index := by
  unfold isWaiting
  rw [shadows.routine?_eq]
  rcases left.routine? index with _ | ⟨kind, state⟩
  · rfl
  · cases state <;> rfl

theorem follows_beginRunWait (shadows : origin.Shadows left right) (wait : Wait) :
    Follows origin (left.beginRunWait library wait) (right.beginRunWait library.stripped wait) := by
  unfold beginRunWait
  split
  · next generator answer =>
      rw [shadows.isWaiting_eq]
      split
      · exact shadows.follows _
      · exact follows_stepAsyncGenerator library shadows generator.index (.ok answer)
  all_goals exact shadows.follows _

theorem follows_continueRunWait (shadows : origin.Shadows left right) (wait : Wait)
    (reply : Reply) :
    Follows origin (left.continueRunWait library wait reply)
      (right.continueRunWait library.stripped wait reply) := by
  unfold continueRunWait
  split
  · exact follows_stepAsyncGenerator library shadows _ _
  · exact shadows.follows _
  · next pending failure => exact (shadows.cancelPending pending).follows _

theorem follows_awaited (shadows : origin.Shadows left right) (wait : Wait) (pending : LoopWait) :
    Follows origin
      ((left.await library pending).2.continueRunWait library wait (left.await library pending).1)
      ((right.await library.stripped pending).2.continueRunWait library.stripped wait
        (right.await library.stripped pending).1) := by
  rcases (follows_await library shadows pending).cases with
    entangled | ⟨reply, leftAfter, rightAfter, onLeft, onRight, after⟩
  · exact .inl ((keptByStreams_isEntangled origin).continueRunWait library entangled wait _)
  · rw [onLeft, onRight]
    exact follows_continueRunWait library after wait reply

end Session

/-! ## Streams -/

namespace Run

open Session

variable {origin left right : Session} (library : Library)

theorem follows_close (shadows : origin.Shadows left right) (run : Run) :
    FollowsBoth origin (run.close library left) (run.close library.stripped right) := by
  unfold close closeFrames
  rcases (follows_closeFrames library shadows run.renderer.context run.renderer.frames).cases with
    entangled | ⟨failure?, frames, leftAfter, rightAfter, onLeft, onRight, after⟩
  · exact .inl entangled
  · rw [onLeft, onRight]
    exact after.followsBoth _ _

theorem follows_abort (shadows : origin.Shadows left right) (failure : Failure)
    (renderer : Renderer) :
    FollowsBoth origin (abort library failure renderer left)
      (abort library.stripped failure renderer right) := by
  rcases (follows_close library shadows ⟨renderer, .over⟩).cases with
    entangled | ⟨failure?, run, leftAfter, rightAfter, onLeft, onRight, after⟩
  · exact .inl entangled
  · unfold close at onLeft onRight
    unfold abort
    rw [onLeft, onRight]
    exact after.followsBoth _ _

theorem follows_refuseWait (shadows : origin.Shadows left right) (run : Run) :
    FollowsBoth origin (run.refuseWait library left) (run.refuseWait library.stripped right) := by
  unfold refuseWait
  rw [shadows.labels_eq]
  rcases (follows_close library shadows run).cases with
    entangled | ⟨failure?, ended, leftAfter, rightAfter, onLeft, onRight, after⟩
  · exact .inl entangled
  · rw [onLeft, onRight]
    exact after.followsBoth _ _

end Run

namespace ByteStream

open Session Run Renderer

variable {origin left right : Session} (library : Library) {stream : ByteStream}

theorem shadows_fail (shadows : origin.Shadows left right) (outer : Option Nat)
    (failure : Failure) :
    origin.Shadows (stream.fail outer failure left).2.2 (stream.fail outer failure right).2.2 := by
  unfold fail leave
  dsimp only
  split
  · exact (shadows.write (Session.diagnose · .route _)).write (Session.leaveContext · outer)
  · exact shadows.write (Session.leaveContext · outer)

theorem shadows_conclude (shadows : origin.Shadows left right) (context : Nat)
    (outer : Option Nat) :
    origin.Shadows (stream.conclude context outer left).2.2
      (stream.conclude context outer right).2.2 := by
  unfold conclude leave
  dsimp only
  rw [shadows.read_eq (Session.context? · context) fun _ _ _ _ => rfl]
  exact (shadows.write (Session.diagnose · .route _)).write (Session.leaveContext · outer)

theorem shadows_endedBy (shadows : origin.Shadows left right) (failure? : Option Failure)
    (context : Nat) (outer : Option Nat) :
    origin.Shadows (stream.endedBy failure? context outer left)
      (stream.endedBy failure? context outer right) := by
  unfold endedBy
  split
  · exact shadows_conclude shadows context outer
  · exact shadows_fail shadows outer _

theorem follows_failRendering (shadows : origin.Shadows left right) (rendering : Rendering)
    (failure : Failure) :
    FollowsBoth origin (stream.failRendering library rendering failure left)
      (stream.failRendering library.stripped rendering failure right) := by
  have kept := keptByStreams_isEntangled origin
  unfold failRendering closeText
  split
  · rcases (Run.follows_close library (shadows_fail shadows rendering.outer failure)
      rendering.run).cases with
      entangled | ⟨closing, run, leftAfter, rightAfter, onLeft, onRight, after⟩
    · exact .inl entangled
    · dsimp only
      rw [onLeft, onRight]
      exact after.followsBoth _ _
  · rcases (Run.follows_close library shadows rendering.run).cases with
      entangled | ⟨closing, run, leftAfter, rightAfter, onLeft, onRight, after⟩
    · exact .inl (kept.fail entangled stream rendering.outer _)
    · dsimp only
      rw [onLeft, onRight]
      exact .inr ⟨rfl, rfl, shadows_fail after rendering.outer _⟩

variable {context : Nat} {outer : Option Nat} {buffer : TextBuffer} {chunks : List Bytes}
  {failure? : Option Failure} {last : Session}

/-- What a stream gives from a stage on, it gives without registrations as well, unless the session is
entangled in the end. -/
def GivesStripped (origin : Session) (library : Library) (stream : ByteStream) (context : Nat)
    (outer : Option Nat) (buffer : TextBuffer) (stage : Stage) (chunks : List Bytes)
    (failure? : Option Failure) (last : Session) : Prop :=
  origin.IsEntangled last ∨ ∃ other,
    stream.RendersFrom library.stripped context outer buffer stage chunks failure? other ∧
      origin.Shadows last other

theorem GivesStripped.map {earlier stage : Stage} {before : TextBuffer} {given : List Bytes}
    (gives : GivesStripped origin library stream context outer buffer stage chunks failure? last)
    (onward : ∀ other,
      stream.RendersFrom library.stripped context outer buffer stage chunks failure? other →
      stream.RendersFrom library.stripped context outer before earlier given failure? other) :
    GivesStripped origin library stream context outer before earlier given failure? last := by
  refine gives.imp_right ?_
  rintro ⟨other, renders, after⟩
  exact ⟨other, onward other renders, after⟩

/-- What a stream gives after a turn it gives after the same turn without registrations, if it does so
from wherever both turns come to. -/
theorem RendersFrom.of_followsBoth {leftTurned rightTurned : Turned}
    (later : stream.RendersFrom library context outer buffer (.turned leftTurned) chunks failure? last)
    (turns : FollowsBoth origin leftTurned rightTurned)
    (onward : ∀ {right}, origin.Shadows leftTurned.2.2 right →
      GivesStripped origin library stream context outer buffer
        ((Stage.turned leftTurned).withSession right) chunks failure? last) :
    GivesStripped origin library stream context outer buffer (.turned rightTurned) chunks failure?
      last := by
  rcases turns.cases with entangled | ⟨turn, next, leftAfter, rightAfter, rfl, rfl, after⟩
  · exact .inl ((keptByStreams_isEntangled origin).rendersFrom library later entangled)
  · exact onward after

/-- From a stage on, a stream gives what it gives from the same stage without registrations. The
induction is on the stages. -/
theorem RendersFrom.follows {stage : Stage}
    (renders : stream.RendersFrom library context outer buffer stage chunks failure? last)
    (shadows : origin.Shadows stage.session right) :
    GivesStripped origin library stream context outer buffer (stage.withSession right) chunks failure?
      last := by
  have kept := keptByStreams_isEntangled origin
  -- In each case the session is entangled from some point on, and stays so to the end, or the same
  -- stage comes next on both sides.
  induction renders generalizing right with
  | @turn _ renderer session _ _ _ later induction =>
      replace shadows : origin.Shadows session right := shadows
      exact (later.of_followsBoth library (follows_turn shadows library renderer) induction).map
        library fun _ => .turn
  | held accepted later induction =>
      exact (induction shadows).map library fun _ => .held accepted
  | released accepted encoded later induction =>
      exact (induction shadows).map library fun _ => .released accepted encoded
  | @unencodable _ remaining renderer session _ _ _ failure _ _ accepted encoded failed =>
      replace shadows : origin.Shadows session right := shadows
      rcases (follows_failRendering library shadows
        ⟨⟨renderer, .atChunk⟩, remaining, context, outer⟩ failure).of_eq failed with
        entangled | ⟨other, fails, after⟩
      · exact .inl entangled
      · exact .inr ⟨other, .unencodable accepted encoded fails, after⟩
  | @refused _ renderer session _ wait refusal _ sync refuses =>
      replace shadows : origin.Shadows session right := shadows
      rcases (Run.follows_refuseWait library shadows ⟨renderer, .atWait wait⟩).of_eq refuses with
        entangled | ⟨_, refusesToo, after⟩
      · exact .inl (kept.fail entangled stream outer refusal)
      · exact .inr ⟨_, .refused sync refusesToo, shadows_fail after outer refusal⟩
  | @answered _ renderer session _ _ wait reply _ _ async begins later induction =>
      replace shadows : origin.Shadows session right := shadows
      rcases (follows_beginRunWait library shadows wait).of_eq begins with
        entangled | ⟨_, beginsToo, after⟩
      · exact .inl (kept.rendersFrom library later
          (kept.afterWait library entangled renderer wait reply))
      · exact (later.of_followsBoth library (follows_afterWait after library renderer wait reply)
          induction).map library fun _ => .answered async beginsToo
  | @waits _ _ session _ _ wait _ _ _ async begins later induction =>
      replace shadows : origin.Shadows session right := shadows
      rcases (follows_beginRunWait library shadows wait).of_eq begins with
        entangled | ⟨_, beginsToo, after⟩
      · exact .inl (kept.rendersFrom library later entangled)
      · exact (induction after).map library fun _ => .waits async beginsToo
  | @goesOn _ renderer session _ _ wait pending reply _ _ async continues later induction =>
      replace shadows : origin.Shadows session right := shadows
      rcases (follows_awaited library shadows wait pending).of_eq continues with
        entangled | ⟨_, continuesToo, after⟩
      · exact .inl (kept.rendersFrom library later
          (kept.afterWait library entangled renderer wait reply))
      · exact (later.of_followsBoth library (follows_afterWait after library renderer wait reply)
          induction).map library fun _ => .goesOn async continuesToo
  | @waitsAgain _ _ session _ _ wait pending _ _ _ async continues later induction =>
      replace shadows : origin.Shadows session right := shadows
      rcases (follows_awaited library shadows wait pending).of_eq continues with
        entangled | ⟨_, continuesToo, after⟩
      · exact .inl (kept.rendersFrom library later entangled)
      · exact (induction after).map library fun _ => .waitsAgain async continuesToo
  | finishes buffer renderer session =>
      exact .inr ⟨_, .finishes buffer renderer right, shadows_endedBy shadows _ context outer⟩
  | @fails _ renderer session _ failure raised _ aborts =>
      replace shadows : origin.Shadows session right := shadows
      rcases (Run.follows_abort library shadows failure renderer).of_eq aborts with
        entangled | ⟨_, abortsToo, after⟩
      · exact .inl (kept.fail entangled stream outer _)
      · exact .inr ⟨_, .fails abortsToo, shadows_fail after outer _⟩

theorem follows_opening (shadows : origin.Shadows left right) (renderer : Renderer)
    (root : Value) :
    FollowsBoth origin (renderer.opening library root left)
      (renderer.opening library.stripped root right) := by
  unfold opening
  rcases frameOf?_shadows shadows root with
    ⟨onLeft, onRight⟩ | ⟨frame, leftAfter, rightAfter, onLeft, onRight, after⟩
  · rw [onLeft, onRight]
    exact shadows.followsBoth _ _
  · rw [onLeft, onRight]
    exact follows_push after library renderer frame

theorem follows_root (shadows : origin.Shadows left right) (route : Route) :
    Follows origin (route.root library left) (route.root library.stripped right) := by
  have kept := keptByBodies_isEntangled origin
  unfold Route.root
  split
  · exact shadows.follows _
  · rcases (@follows_call origin _ _ library _ _ (follows_resume origin library) shadows
      route.application []).cases with
      entangled | ⟨reply, leftAfter, rightAfter, onLeft, onRight, after⟩
    · refine .inl ?_
      generalize left.call library (resume library) route.application [] = called at entangled
      rcases called with ⟨reply, later⟩
      cases reply with
      | error failure => exact entangled
      | ok result =>
          cases result with
          | routine reference =>
              have closed := kept.closeRoutine library entangled reference.index
              dsimp only
              cases reference.kind with
              | generator | asyncGenerator => exact entangled
              | coroutine =>
                  dsimp only at closed ⊢
                  generalize closeRoutine library reference.index later = closing at closed
                  rcases closing with ⟨failure?, after⟩
                  cases failure? <;> exact closed
          | _ => exact entangled
    · rw [onLeft, onRight]
      cases reply with
      | error failure => exact after.follows _
      | ok result =>
          cases result with
          | routine reference =>
              dsimp only
              cases reference.kind with
              | generator | asyncGenerator => exact after.follows _
              | coroutine =>
                  rcases (follows_closeRoutine library after reference.index).cases with
                    entangled | ⟨failure?, leftClosed, rightClosed, onLeft, onRight, closed⟩
                  · refine .inl ?_
                    dsimp only
                    generalize closeRoutine library reference.index leftAfter = closing at entangled
                    rcases closing with ⟨failure?, after⟩
                    cases failure? <;> exact entangled
                  · dsimp only
                    rw [onLeft, onRight]
                    cases failure? <;> exact closed.follows _
          | _ => exact after.follows _

theorem follows_enter (stream : ByteStream) (session : Session) :
    Follows session (stream.enter library session)
      (stream.enter library.stripped session.stripped) := by
  have begins := ((Shadows.refl session).write fun session =>
    (session.enterContext (some stream.route.name) stream.route.settings.maxDepth none).2).write
    (Session.diagnose · .route ("Rendering route " ++ stream.route.name ++ modeRemark stream.mode))
  unfold enter
  dsimp only
  rcases (follows_root library begins stream.route).cases with
    entangled | ⟨reply, leftAfter, rightAfter, onLeft, onRight, after⟩
  · refine .inl ?_
    generalize stream.route.root library _ = given at entangled
    rcases given with ⟨reply, later⟩
    cases reply <;> exact entangled
  · rw [onLeft, onRight]
    cases reply <;> exact after.follows _

/-- A stream gives what it gives without registrations. -/
theorem Renders.follows {session : Session}
    (renders : stream.Renders library session chunks failure? last) :
    session.IsEntangled last ∨ ∃ other,
      stream.Renders library.stripped session.stripped chunks failure? other ∧
        session.Shadows last other := by
  have kept := keptByStreams_isEntangled session
  cases renders with
  | refuses refused =>
      rcases (follows_enter library stream session).of_eq refused with
        entangled | ⟨_, refusedToo, after⟩
      · exact .inl (kept.fail entangled stream _ _)
      · exact .inr ⟨_, .refuses refusedToo, shadows_fail after _ _⟩
  | @enters renderer root buffer context outer _ _ _ _ empty began later =>
      rcases (follows_enter library stream session).of_eq began with
        entangled | ⟨_, beganToo, after⟩
      · exact .inl (kept.rendersFrom library later (kept.opening library entangled renderer root))
      · have gives : GivesStripped session library stream context outer buffer _ chunks failure?
            last := later.of_followsBoth library (follows_opening library after renderer root)
          (later.follows library)
        refine gives.imp_right ?_
        rintro ⟨other, onward, afterwards⟩
        exact ⟨other, .enters empty beganToo onward, afterwards⟩

end ByteStream

/-! ## Whole renders -/

namespace ByteStream

end ByteStream

/-! ## Pages with a single text -/

namespace ByteStream

end ByteStream

namespace Sample

/-- The turns of a page without an event loop. -/
def turnsOf (library : Library) (root : Value) (session : Session) : Nat → Turned
  | 0 => (Renderer.start session.registry Settings.standard 0).opening library root
      ((ByteStream.ofRoute themedRoute .sync).enter library session).2
  | turns + 1 => (turnsOf library root session turns).2.1.turn library
      (turnsOf library root session turns).2.2

end Sample

namespace ByteStream

end ByteStream
end HtmlStream
