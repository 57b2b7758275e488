import HtmlStream.Proofs.Context.History
import HtmlStream.Proofs.Route.FrontEnds

/-!
What the steps of a stream without an event loop do to the current context. No turn of its render
changes what is current; a step enters a new context, leaves the one that the stream has, or does
neither. The main statements are `ByteStream.passes_next` and `ByteStream.passes_close`.
-/
namespace HtmlStream

/-! ## What is current during a render -/

namespace Session

/-- What is current stays so, and there are as many contexts as before. -/
def KeepsCurrent (before after : Session) : Prop :=
  after.current = before.current ∧ after.contexts.size = before.contexts.size

theorem keptByRenders_current (before : Session) : KeptByRenders before.KeepsCurrent where
  blind same _ _ _ _ := same
  enroll same _ := same
  withMeta same _ _ _ := ⟨same.1, Array.size_modify.trans same.2⟩
  withLiveFrames same _ := same
  modifyContext same _ _ := ⟨same.1, Array.size_modify.trans same.2⟩

variable {before between after : Session}

theorem KeepsCurrent.refl (session : Session) : session.KeepsCurrent session := ⟨rfl, rfl⟩

theorem KeepsCurrent.trans (earlier : before.KeepsCurrent between)
    (later : between.KeepsCurrent after) : before.KeepsCurrent after :=
  ⟨later.1.trans earlier.1, later.2.trans earlier.2⟩

end Session

namespace Run

open Renderer

/-- Where the turns begin of a run that is asked for its next text. -/
def opens (library : Library) (run : Run) (session : Session) : Turned :=
  match run.position with
  | .unstarted root => run.renderer.opening library root session
  | _ => (.proceed, run.renderer, session)

variable (library : Library) {context : Nat} {run : Run} (can : CanStream context run)
  (session : Session)

include can

theorem resume_eq_proceed :
    run.resume library (.ok .null) session = proceed library (run.opens library session) := by
  cases can with
  | start renderer root empty _ => exact begin_eq_proceed library empty
  | resume renderer ready _ => rfl

omit can in
theorem keepsCurrent_opens : session.KeepsCurrent (run.opens library session).2.2 := by
  have kept := Session.keptByRenders_current session
  have same := Session.KeepsCurrent.refl session
  unfold opens
  split
  · next root _ =>
      unfold opening
      cases root with
      | element identity type attributes children =>
          exact kept.push library (kept.addRoutine same .generator "element" _) run.renderer _
      | routine body => exact kept.push library same run.renderer _
      | _ => exact same
  · exact same

theorem keepsCurrent_resume :
    session.KeepsCurrent (run.resume library (.ok .null) session).2.2 :=
  (Session.keptByRenders_current session).resumeRun library (.refl session) can

end Run

namespace Renderer

theorem ProceedsTo.keepsCurrent {library : Library} {depth : Nat} {first last : Turned}
    (proceeds : ProceedsTo library depth first last) : first.2.2.KeepsCurrent last.2.2 := by
  induction proceeds with
  | here => exact .refl _
  | @turns renderer session _ _ _ induction =>
      exact ((Session.keptByRenders_current session).turn library (.refl session) renderer).trans
        induction

end Renderer

namespace Rendering

open Run Renderer

/-- A turn that a renderer takes while its stream is asked for the next chunk. -/
inductive TakesTurn (library : Library) : Rendering → Session → Renderer × Session → Prop
  | now {rendering : Rendering} {paused : Session} {turn : Renderer × Session}
      (proceeds : ProceedsTo library 0 (rendering.run.opens library paused) (.proceed, turn)) :
      TakesTurn library rendering paused turn
  /-- The buffer has held back a text. -/
  | later {rendering : Rendering} {run : Run} {buffer : TextBuffer} {text : String}
      {paused after : Session} {turn : Renderer × Session}
      (resumed : rendering.run.resume library (.ok .null) paused = (.chunk text, run, after))
      (held : rendering.buffer.accept text = (none, buffer))
      (takes : TakesTurn library { rendering with run, buffer } after turn) :
      TakesTurn library rendering paused turn

/-- While a stream is asked for its next chunk, what was current before stays so. -/
theorem TakesTurn.keepsCurrent {library : Library} {rendering : Rendering} {paused : Session}
    {turn : Renderer × Session} {context : Nat} (can : CanStream context rendering.run)
    (takes : TakesTurn library rendering paused turn) : paused.KeepsCurrent turn.2 := by
  induction takes with
  | now proceeds => exact (keepsCurrent_opens library _).trans proceeds.keepsCurrent
  | later resumed _ _ induction =>
      have kept := keepsCurrent_resume library can
      have first := resumed ▸ kept _
      exact first.trans (induction (canStream_of_advances library can ⟨_, resumed⟩))

end Rendering

/-! ## Steps of a stream -/

/-- How far something has come that has a render context of its own while it is under way. -/
inductive Phase where
  | unentered
  /-- The context that was entered, and what was current before. -/
  | within (context : Nat) (outer : Option Nat)
  | left

def ByteStream.phase (stream : ByteStream) : Phase :=
  match stream.state with
  | .unstarted => .unentered
  | .rendering rendering => .within rendering.context rendering.outer
  | .exhausted context outer => .within context outer
  | .closed => .left

namespace Phase

/-- What a step can do: nothing, enter a new context, leave it, or both at once. -/
inductive Passes (before : Session) : Phase → Phase → Session → Prop
  | stays (phase : Phase) {after : Session} (keeps : before.KeepsCurrent after) :
      Passes before phase phase after
  | enters {after : Session} (current : after.current = some before.contexts.size)
      (grows : before.contexts.size < after.contexts.size) :
      Passes before .unentered (.within before.contexts.size before.current) after
  | leaves (context : Nat) {outer : Option Nat} {after : Session} (current : after.current = outer)
      (grows : before.contexts.size ≤ after.contexts.size) :
      Passes before (.within context outer) .left after
  | skips {after : Session} (current : after.current = before.current)
      (grows : before.contexts.size ≤ after.contexts.size) :
      Passes before .unentered .left after

/-- The mark that a step leaves. -/
def marks : Phase → Phase → History
  | .unentered, .within context _ => [.entered context]
  | .within context _, .left => [.left context]
  | _, _ => []

end Phase

/-- The application of a route is called in the context that is current. -/
theorem Route.keepsCurrent_root (library : Library) (route : Route) (session : Session) :
    session.KeepsCurrent (route.root library session).2 :=
  let congruence := (Session.keptByRenders_current session).toKeptByBodies.congruence
  (Route.after_root (library.readsOnly_of_all fun _ => trivial) congruence route
    ⟨rfl, .refl session⟩).2.2

namespace ByteStream

open Run Renderer

variable (library : Library) {stream : ByteStream} {context : Nat} {outer : Option Nat}

/-- A stream without an event loop whose run can be driven on. -/
structure IsDrivable (stream : ByteStream) : Prop where
  sync : stream.mode = .sync
  can : ∀ rendering, stream.state = .rendering rendering →
    CanStream rendering.context rendering.run

/-- What a render inside a context comes to: it goes on there, or leaves it. -/
structure IsGathered (context : Nat) (outer : Option Nat) (paused : Session)
    (later : ByteStream) (after : Session) : Prop where
  drivable : later.IsDrivable
  passes : Phase.Passes paused (.within context outer) later.phase after

theorem isDrivable_inState (sync : stream.mode = .sync) {state : StreamState}
    (ended : ∀ rendering, state ≠ .rendering rendering) : (stream.inState state).IsDrivable :=
  ⟨sync, fun rendering equal => absurd equal (ended rendering)⟩

theorem isGathered_closed (sync : stream.mode = .sync) {paused after : Session}
    (current : after.current = outer) (grows : paused.contexts.size ≤ after.contexts.size) :
    IsGathered context outer paused (stream.inState .closed) after :=
  ⟨isDrivable_inState sync (fun _ equal => by cases equal), .leaves context current grows⟩

/-- A stream that fails is closed, and leaves its context. -/
theorem exists_left_of_fail (stream : ByteStream) (outer : Option Nat) (failure : Failure)
    (session : Session) :
    ∃ after, stream.fail outer failure session
        = (.failed (Run.leaving stream.mode failure), stream.inState .closed, after) ∧
      after.current = outer ∧ after.contexts.size = session.contexts.size := by
  unfold fail
  dsimp only
  split <;> exact ⟨_, rfl, rfl, rfl⟩

theorem isGathered_fail (sync : stream.mode = .sync) (failure : Failure) {paused after : Session}
    (keeps : paused.KeepsCurrent after) :
    IsGathered context outer paused (stream.fail outer failure after).2.1
      (stream.fail outer failure after).2.2 := by
  rcases exists_left_of_fail stream outer failure after with ⟨failed, left, current, size⟩
  rw [left]
  exact isGathered_closed sync current (size.trans keeps.2).ge

theorem isGathered_conclude (sync : stream.mode = .sync) {paused after : Session}
    (keeps : paused.KeepsCurrent after) :
    IsGathered context outer paused (stream.conclude context outer after).2.1
      (stream.conclude context outer after).2.2 :=
  isGathered_closed sync rfl keeps.2.ge

theorem isGathered_drain (sync : stream.mode = .sync) (rendering : Rendering)
    {paused after : Session} (keeps : paused.KeepsCurrent after) :
    IsGathered rendering.context rendering.outer paused (stream.drain rendering after).2.1
      (stream.drain rendering after).2.2 := by
  unfold drain
  split
  · exact isGathered_conclude sync keeps
  · split
    · exact ⟨isDrivable_inState sync (fun _ equal => by cases equal), .stays _ keeps⟩
    · exact isGathered_fail sync _ keeps

theorem keepsCurrent_closeText (mode : RenderMode) (run : Run) (session : Session) :
    session.KeepsCurrent (run.closeText library mode session).2.2 :=
  (Session.keptByRenders_current session).close library (.refl session) run

/-- Without an event loop the frames are closed when the context has been left already. -/
theorem isGathered_failRendering (sync : stream.mode = .sync) (rendering : Rendering)
    (failure : Failure) {paused after : Session} (keeps : paused.KeepsCurrent after) :
    IsGathered rendering.context rendering.outer paused
      (stream.failRendering library rendering failure after).2.1
      (stream.failRendering library rendering failure after).2.2 := by
  rcases exists_left_of_fail stream rendering.outer failure after with ⟨failed, left, current, size⟩
  have closed := keepsCurrent_closeText library .sync rendering.run failed
  unfold failRendering
  rw [sync]
  dsimp only
  rw [left]
  exact isGathered_closed sync (closed.1.trans current)
    ((closed.2.trans size).trans keeps.2).ge

/-- The induction is on the texts that the run hands out, of which there are only so many. -/
theorem isGathered_gather (sync : stream.mode = .sync) {rendering : Rendering}
    (can : CanStream rendering.context rendering.run) {paused between : Session}
    (keeps : paused.KeepsCurrent between) :
    IsGathered rendering.context rendering.outer paused
      (stream.gather library (.ok .null) rendering between).2.1
      (stream.gather library (.ok .null) rendering between).2.2 := by
  have advances := acc_advances library can between
  generalize position : (rendering.run, between) = before at advances
  induction advances generalizing rendering between with
  | intro _ _ induction =>
      subst position
      rcases resumed : rendering.run.resume library (.ok .null) between with ⟨step, run, after⟩
      have kept : between.KeepsCurrent after := by
        have kept := keepsCurrent_resume library can between
        rwa [resumed] at kept
      have stays := keeps.trans kept
      have handed : rendering.run.nextText library stream.mode (.ok .null) between
          = rendering.run.nextTextSync library between := by
        rw [sync]
        exact leavingWith_sync _
      rw [gather.eq_1, handed, nextTextSync, resumed]
      cases step with
      | chunk text =>
          have advanced : Advances library (run, after) (rendering.run, between) := ⟨text, resumed⟩
          have canNext := canStream_of_advances library can advanced
          rcases accepted : rendering.buffer.accept text with ⟨_ | released, buffer⟩
          · let rendering : Rendering := { rendering with run, buffer }
            have later : IsGathered rendering.context rendering.outer paused
                (stream.gather library (.ok .null) rendering after).2.1
                (stream.gather library (.ok .null) rendering after).2.2 :=
              induction _ advanced canNext stays rfl
            simpa only [accepted] using later
          · simp only [accepted]
            unfold release
            split
            · exact ⟨⟨sync, fun _ equal => by cases equal; exact canNext⟩, .stays _ stays⟩
            · exact isGathered_failRendering library sync { rendering with run, buffer } _ stays
      | wait wait =>
          have closed := stays.trans (keepsCurrent_closeText library .sync run after)
          exact isGathered_fail sync _ closed
      | finished => exact isGathered_drain sync { rendering with run } stays
      | failed failure => exact isGathered_fail sync failure stays

/-- A stream that begins enters a new context, in which its render starts. -/
theorem entered_of_enter {session entered : Session} {result : Except Failure Rendering}
    (enters : stream.enter library session = (result, entered)) :
    entered.current = some session.contexts.size ∧
      entered.contexts.size = session.contexts.size + 1 ∧
      ∀ rendering, result = .ok rendering →
        rendering.context = session.contexts.size ∧ rendering.outer = session.current ∧
          CanStream rendering.context rendering.run := by
  have size : (session.enterContext (some stream.route.name) stream.route.settings.maxDepth
      none).2.contexts.size = session.contexts.size + 1 := Array.size_push ..
  unfold enter at enters
  dsimp only at enters
  have kept := stream.route.keepsCurrent_root library
    ((session.enterContext (some stream.route.name) stream.route.settings.maxDepth none).2.diagnose
      .route ("Rendering route " ++ stream.route.name ++ modeRemark stream.mode))
  split at enters
  · next failure after given =>
      cases enters
      rw [given] at kept
      exact ⟨kept.1, kept.2.trans size, fun _ equal => by cases equal⟩
  · next root after given =>
      cases enters
      rw [given] at kept
      refine ⟨kept.1, kept.2.trans size, ?_⟩
      rintro _ ⟨rfl⟩
      exact ⟨rfl, rfl, .start _ root rfl rfl⟩

/-- A stream that begins goes on in its new context, or has left it again. -/
theorem passes_begin (sync : stream.mode = .sync) (session : Session) :
    (stream.begin library session).2.1.IsDrivable ∧
      Phase.Passes session .unentered (stream.begin library session).2.1.phase
        (stream.begin library session).2.2 := by
  unfold begin
  rcases enters : stream.enter library session with ⟨result, entered⟩
  rcases entered_of_enter library enters with ⟨current, size, starts⟩
  have grows : session.contexts.size < entered.contexts.size := size ▸ Nat.lt_succ_self _
  cases result with
  | error failure =>
      rcases exists_left_of_fail stream session.current failure entered with
        ⟨failed, left, restored, same⟩
      dsimp only
      rw [left]
      exact ⟨isDrivable_inState sync (fun _ equal => by cases equal),
        .skips restored (same ▸ grows.le)⟩
  | ok rendering =>
      rcases starts rendering rfl with ⟨own, before, can⟩
      have gathered := isGathered_gather library sync can (.refl entered)
      refine ⟨gathered.drivable, ?_⟩
      have passes := gathered.passes
      rw [own, before] at passes
      dsimp only
      generalize (stream.gather library (.ok .null) rendering entered).2.1.phase = phase at passes ⊢
      cases passes with
      | stays _ keeps => exact .enters (keeps.1.trans current) (keeps.2 ▸ grows)
      | leaves _ restored further => exact .skips restored (grows.le.trans further)

/-- What asking a stream for its next chunk can do. -/
theorem passes_next (drivable : stream.IsDrivable) (session : Session) :
    (stream.next library (.ok .null) session).2.1.IsDrivable ∧
      Phase.Passes session stream.phase (stream.next library (.ok .null) session).2.1.phase
        (stream.next library (.ok .null) session).2.2 := by
  have same := Session.KeepsCurrent.refl session
  unfold next phase
  cases state : stream.state with
  | unstarted => exact passes_begin library drivable.sync session
  | rendering rendering =>
      have gathered := isGathered_gather library drivable.sync (drivable.can rendering state) same
      exact ⟨gathered.drivable, gathered.passes⟩
  | exhausted context outer =>
      have concluded : IsGathered context outer session (stream.conclude context outer session).2.1
          (stream.conclude context outer session).2.2 := isGathered_conclude drivable.sync same
      exact ⟨concluded.drivable, concluded.passes⟩
  | closed =>
      rw [state]
      exact ⟨drivable, .stays _ same⟩

/-- What closing a stream can do. Its bodies are closed inside its context. -/
theorem passes_close (drivable : stream.IsDrivable) (session : Session) :
    (stream.close library session).2.1.IsDrivable ∧
      Phase.Passes session stream.phase (stream.close library session).2.1.phase
        (stream.close library session).2.2 := by
  have ended : (stream.inState .closed).IsDrivable :=
    isDrivable_inState drivable.sync fun _ equal => by cases equal
  unfold close phase
  cases state : stream.state with
  | unstarted => exact ⟨ended, .skips rfl le_rfl⟩
  | closed => exact ⟨ended, .stays _ (.refl session)⟩
  | exhausted context outer => exact ⟨ended, .leaves context rfl le_rfl⟩
  | rendering rendering =>
      have closed := keepsCurrent_closeText library .sync rendering.run session
      dsimp only
      rw [drivable.sync]
      exact ⟨ended, .leaves _ rfl closed.2.ge⟩

end ByteStream

end HtmlStream
