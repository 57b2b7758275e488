import HtmlStream.Proofs.Renderer.Termination
import HtmlStream.Proofs.Routine.Evolution

/-!
What one move of a render can come to. A move begins with a quiet stack, on which nothing is pending:
the innermost body has just been advanced, or what it waits for is over. `Moves` says once what the
stack and the session are afterwards; the main statements are `moves_turn` and `moves_afterWait`.
-/
namespace HtmlStream

theorem Session.Evolves.countStyle (session : Session) (index context : Nat) :
    Session.Evolves context session (session.countStyle index) where
  progresses := .of_routines_eq rfl
  stack labels found := by
    refine Eq.trans (Session.stack?_modifyContext_of_keeps ?_) found
    exact fun _ => rfl

/-- The wait is one of the body of this frame. -/
def Wait.Concerns (wait : Wait) (frame : Frame) : Prop :=
  match wait with
  | .step generator _ => generator = frame.routine ∧ frame.routine.kind = .asyncGenerator
  | .settle _ => frame.routine.kind = .coroutine

theorem Turn.goesOn_ofText (text : String) : (Turn.ofText text).GoesOn := by
  unfold Turn.ofText
  split <;> trivial

namespace Renderer

/-- What a renderer is given when it starts. -/
def given (renderer : Renderer) : Registry × Settings × Nat :=
  (renderer.providers, renderer.settings, renderer.context)

/-- What becomes of a request of the innermost body, with nothing else pending. The body stays on the
stack whatever comes of it. -/
inductive Serves (renderer : Renderer) (frame : Frame) (outer : List Frame) (before : Session) :
    Turned → Prop
  /-- The body goes on next, perhaps with an answer or with a failure to raise. -/
  | goesOn (turn : Turn) (reply : Reply) (styles : StyleSet) (after : Session)
      (going : turn.GoesOn)
      (raising : ∀ failure, reply = .error failure → frame.routine.kind = .coroutine)
      (evolves : before.Evolves renderer.context after) :
      Serves renderer frame outer before
        (turn, (renderer.withStyles styles).withFrames (frame.receiving reply :: outer), after)
  | waits (wait : Wait) (concerns : wait.Concerns frame) (after : Session)
      (evolves : before.Evolves renderer.context after) :
      Serves renderer frame outer before
        (.wait wait, renderer.withFrames (frame :: outer), after)
  /-- Another frame is put before the innermost one. -/
  | opens (inner : Frame) (idle : inner.IsIdle) (between : Session)
      (room : outer.length + 1 < renderer.settings.maxDepth)
      (fresh : ∀ token, inner.token? = some token → token ∉ tokensOf (frame :: outer))
      (evolves : before.Evolves renderer.context between) :
      Serves renderer frame outer before
        (.proceed, renderer.withFrames (inner :: frame :: outer),
          between.enterFrame renderer.context inner)
  | fails (failure : Failure) (after : Session)
      (evolves : before.Evolves renderer.context after) :
      Serves renderer frame outer before
        (.failed failure, renderer.withFrames (frame :: outer), after)

/-- What a render comes to that has `frame` innermost and nothing pending. -/
inductive Moves (renderer : Renderer) (frame : Frame) (outer : List Frame) (before : Session) :
    Turned → Prop
  | serves {turned : Turned} (served : Serves renderer frame outer before turned) :
      Moves renderer frame outer before turned
  /-- The innermost body has ended, and its result is handed on. -/
  | ends (turn : Turn) (value : Value) (between : Session)
      (outcome : turn.GoesOn ∨ ∃ failure, turn = .failed failure)
      (evolves : before.Evolves renderer.context between)
      (ended : frame.isAsyncGenerator = false → ∀ object,
        before.routine? frame.routine.index = some object →
          between.hasEnded frame.routine.index = true) :
      Moves renderer frame outer before
        (turn, renderer.withFrames (deliveredTo value outer),
          between.leaveFrame renderer.context frame)

variable {renderer : Renderer} {frame : Frame} {outer : List Frame} {before session : Session}

/-- A move changes nothing that the renderer was given. -/
theorem Moves.given_eq {turned : Turned} (moves : Moves renderer frame outer before turned) :
    turned.2.1.given = renderer.given := by
  cases moves with
  | serves served => cases served <;> rfl
  | ends => rfl

/-- The innermost body goes on without an answer. -/
theorem Serves.skips (turn : Turn) (going : turn.GoesOn) (idle : frame.IsIdle) (styles : StyleSet)
    (evolves : before.Evolves renderer.context session) :
    Serves renderer frame outer before
      (turn, (renderer.withStyles styles).withFrames (frame :: outer), session) := by
  have served : Serves renderer frame outer before
      (turn, (renderer.withStyles styles).withFrames (frame.receiving (.ok .null) :: outer),
        session) :=
    .goesOn turn (.ok .null) styles session going (fun _ equal => by cases equal) evolves
  rwa [idle.receiving_null] at served

theorem token?_frameOf {root : Value} {after : Session}
    (framed : frameOf? root session = some (frame, after)) : frame.token? = none := by
  cases root with
  | element | routine =>
      cases framed
      rfl
  | _ => cases framed

theorem evolves_frameOf {root : Value} {after : Session} {context : Nat}
    (framed : frameOf? root session = some (frame, after)) : session.Evolves context after := by
  cases root with
  | element =>
      cases framed
      exact .addRoutine session .generator "element" _
  | routine =>
      cases framed
      exact .refl context session
  | _ => cases framed

/-- A frame that there is no room for is closed. -/
theorem push_of_full (library : Library) {inner : Frame}
    (full : renderer.settings.maxDepth ≤ renderer.frames.length) :
    renderer.push library inner session =
      let (closing?, after) := session.closeFrame library inner
      (.failed (closing?.getD (.engine (.depthExceeded renderer.settings.maxDepth none
        (renderer.labels after)))), renderer, after) := by
  unfold push
  rw [if_pos full]
  generalize session.closeFrame library inner = closing
  rcases closing with ⟨failure?, after⟩
  cases failure? <;> rfl

section Acting

variable (library : Library) (idle : frame.IsIdle)
  (evolves : before.Evolves renderer.context session)

include evolves

theorem serves_push {inner : Frame} (innerIdle : inner.IsIdle)
    (fresh : ∀ token, inner.token? = some token → token ∉ tokensOf (frame :: outer)) :
    Serves renderer frame outer before
      ((renderer.withFrames (frame :: outer)).push library inner session) := by
  by_cases full : renderer.settings.maxDepth ≤ outer.length + 1
  · have closed := evolves.trans
      (Session.evolves_closeFrame library renderer.context inner session)
    rw [push_of_full library
      (show _ ≤ (renderer.withFrames (frame :: outer)).frames.length from full)]
    exact .fails _ _ closed
  · have room := Nat.lt_of_not_le full
    rw [push_of_room library inner session
      (show (renderer.withFrames (frame :: outer)).frames.length < _ from room)]
    exact .opens inner innerIdle session room fresh evolves

theorem serves_runProvider (token : Token) (provider : Provider)
    (fresh : token ∉ tokensOf (frame :: outer)) :
    Serves renderer frame outer before
      ((renderer.withFrames (frame :: outer)).runProvider library token provider session) := by
  unfold runProvider
  extract_lets noted
  have called := (evolves.trans (.diagnose session _ _)).trans
    (Session.evolves_call library renderer.context provider.source [] noted)
  generalize noted.call library (Session.resume library) provider.source [] = result at called ⊢
  rcases result with ⟨reply, after⟩
  cases reply with
  | error failure => exact .fails failure after called
  | ok value =>
      cases value with
      | routine body =>
          refine serves_push library called (Frame.isIdle_of body (some token)) ?_
          intro provided equal
          cases equal
          exact fresh
      | _ => exact .fails _ after called

theorem serves_resolve (token : Token) :
    Serves renderer frame outer before
      ((renderer.withFrames (frame :: outer)).resolve library token session) := by
  unfold resolve
  split
  · exact .fails _ session evolves
  · next provider _ =>
      split
      · exact .goesOn .proceed (.ok provider.source) renderer.styles session trivial
          (fun _ equal => by cases equal) evolves
      all_goals
        split
        · exact .fails _ session evolves
        · next notProviding =>
            refine serves_runProvider library evolves token provider fun member => ?_
            exact notProviding ((isProviding_iff token).mpr member)

theorem serves_handleWait (producer : RoutineReference) (same : producer = frame.routine)
    (pending : Pending) :
    Serves renderer frame outer before
      ((renderer.withFrames (frame :: outer)).handleWait library producer pending session) := by
  unfold handleWait
  split
  · exact serves_resolve library evolves _
  · split
    · next coroutine =>
        rw [same] at coroutine
        exact .waits (.settle _) coroutine session evolves
    · exact .fails _ session evolves

theorem moves_finish (value : Value)
    (ended : frame.isAsyncGenerator = false → ∀ object,
      before.routine? frame.routine.index = some object →
        session.hasEnded frame.routine.index = true) :
    Moves renderer frame outer before
      ((renderer.withFrames (frame :: outer)).finish value session) := by
  cases outer with
  | cons next rest =>
      exact .ends .proceed value session (.inl trivial) evolves ended
  | nil =>
      unfold finish deliver
      dsimp only [withFrames]
      generalize Serializer.resultText renderer.settings.autoescape value = text
      cases text with
      | ok text =>
          exact .ends (.ofText text) value session (.inl (Turn.goesOn_ofText text)) evolves ended
      | error fault => exact .ends _ value session (.inr ⟨_, rfl⟩) evolves ended

theorem moves_finishFailing (failure : Failure)
    (ended : (∀ fault, failure ≠ .fault fault) → frame.isAsyncGenerator = false → ∀ object,
      before.routine? frame.routine.index = some object →
        session.hasEnded frame.routine.index = true) :
    Moves renderer frame outer before
      ((renderer.withFrames (frame :: outer)).finishFailing failure session) := by
  unfold finishFailing
  split
  · exact moves_finish evolves .null (ended fun _ equal => by cases equal)
  · exact .serves (.fails failure session evolves)

include idle

theorem serves_writing (text : Except Fault String) :
    Serves renderer frame outer before
      ((renderer.withFrames (frame :: outer)).writing text session) := by
  cases text with
  | ok text => exact .skips _ (Turn.goesOn_ofText text) idle renderer.styles evolves
  | error fault => exact .fails (.fault fault) session evolves

theorem serves_writeStyle (style : Style) :
    Serves renderer frame outer before
      ((renderer.withFrames (frame :: outer)).writeStyle style session) := by
  unfold writeStyle
  split
  · next block styles _ =>
      exact .skips _ (Turn.goesOn_ofText block) idle styles
        (evolves.trans (.countStyle session renderer.context renderer.context))
  · next styles _ => exact .skips .proceed trivial idle styles evolves

theorem serves_handle (producer : RoutineReference) (effect : Value) :
    Serves renderer frame outer before
      ((renderer.withFrames (frame :: outer)).handle library producer effect session) := by
  have skipped : Serves renderer frame outer before
      (.proceed, renderer.withFrames (frame :: outer), session) :=
    .skips .proceed trivial idle renderer.styles evolves
  unfold handle
  cases effect with
  | token token => exact serves_resolve library evolves token
  | style style => exact serves_writeStyle idle evolves style
  | marker role type attributes children =>
      cases role with
      | opening | closing =>
          dsimp only
          split
          · exact serves_writing idle evolves _
          · exact skipped
      | unspecified => exact .fails _ session evolves
  | null => exact skipped
  | text | markup | integer | float | notANumber => exact serves_writing idle evolves _
  | element =>
      refine serves_push library (evolves.trans (.addRoutine session .generator "element" _))
        (Frame.isIdle_of _ none) ?_
      exact fun _ equal => by cases equal
  | routine =>
      refine serves_push library evolves (Frame.isIdle_of _ none) ?_
      exact fun _ equal => by cases equal
  | _ => exact .fails _ session evolves

theorem serves_settle (coroutine : frame.routine.kind = .coroutine) (pending : Pending)
    (reply : Reply) :
    Serves renderer frame outer before
      ((renderer.withFrames (frame :: outer)).afterWait library (.settle pending) reply session) := by
  have raises : ∀ failure, Serves renderer frame outer before
      (.proceed, (renderer.withFrames (frame :: outer)).interrupt failure, session) :=
    fun failure => .goesOn .proceed (.error failure) renderer.styles session trivial
      (fun _ _ => coroutine) evolves
  unfold afterWait
  cases reply with
  | ok answer =>
      dsimp only
      split
      · exact .skips .proceed trivial idle renderer.styles evolves
      · exact raises _
  | error failure =>
      split
      · cases ‹Wait.settle pending = Wait.step _ _›
      · cases ‹Wait.settle pending = Wait.step _ _›
      · cases ‹Except.error failure = Except.ok _›
      · exact raises _
      · exact .fails _ session evolves

end Acting

variable (library : Library)

/-- The innermost frame is advanced with what is pending for it. -/
theorem moves_turn (idle : frame.IsIdle) (reply : Reply)
    (frames : renderer.frames = frame.receiving reply :: outer) (session : Session) :
    Moves renderer frame outer session (renderer.turn library session) := by
  have noted : session.Evolves renderer.context (session.withLiveFrames (outer.length + 1)) :=
    .withLiveFrames session _
  unfold turn
  simp only [frames, idle.delivered_receiving, idle.reply_receiving, idle.answer_receiving,
    Frame.isAsyncGenerator, Frame.routine_receiving, List.length_cons, beq_iff_eq]
  by_cases async : frame.routine.kind = .asyncGenerator
  · rw [if_pos async]
    exact .serves (.waits (.step frame.routine _) ⟨rfl, async⟩ _ noted)
  · rw [if_neg async]
    have evolves := noted.trans
      (Session.evolves_resume library renderer.context frame.routine.index reply _)
    have ends : ∀ object, session.routine? frame.routine.index = some object →
        Session.EndedOrRefused frame.routine.index (Session.resume library frame.routine.index reply
          (session.withLiveFrames (outer.length + 1))) :=
      fun object found =>
        have there : (session.withLiveFrames (outer.length + 1)).routine? frame.routine.index
            = some object := found
        Session.endedOrRefused_resume library there reply
    generalize Session.resume library frame.routine.index reply _ = advanced at evolves ends ⊢
    rcases advanced with ⟨progress, after⟩
    cases progress with
    | produced effect => exact .serves (serves_handle library idle evolves frame.routine effect)
    | waiting pending => exact .serves (serves_handleWait library evolves frame.routine rfl pending)
    | returned value =>
        refine moves_finish evolves value fun _ object found => ?_
        rcases ends object found id with ended | ⟨_, refused⟩
        · exact ended
        · cases refused
    | raised failure =>
        refine moves_finishFailing evolves failure fun faultless _ object found => ?_
        rcases ends object found id with ended | ⟨fault, refused⟩
        · exact ended
        · cases refused
          exact absurd rfl (faultless fault)

/-- What the innermost frame waited for is over. -/
theorem moves_afterWait (idle : frame.IsIdle) {wait : Wait} (concerns : wait.Concerns frame)
    (reply : Reply) (frames : renderer.frames = frame :: outer) (session : Session) :
    Moves renderer frame outer session (renderer.afterWait library wait reply session) := by
  have same : renderer.withFrames (frame :: outer) = renderer := by
    rw [← frames]
    rfl
  have evolves := Session.Evolves.refl renderer.context session
  suffices moves : Moves renderer frame outer session
      ((renderer.withFrames (frame :: outer)).afterWait library wait reply session) by
    rwa [same] at moves
  cases wait with
  | step generator answer =>
      cases reply with
      | ok effect => exact .serves (serves_handle library idle evolves generator effect)
      | error failure =>
          refine moves_finishFailing evolves failure fun _ notAsync => ?_
          rw [Frame.isAsyncGenerator, concerns.2] at notAsync
          cases notAsync
  | settle pending => exact .serves (serves_settle library idle evolves concerns pending reply)

end Renderer
end HtmlStream
