import HtmlStream.Proofs.Renderer.Movement

/-!
The course of a render, turn by turn, and what holds all the way. A course begins when the root is
put on an empty stack; whenever the render pauses, bodies may go on meanwhile, and whatever is
waited for may be answered in any way. The main statements are `isSound_of_course`, by induction on
the course, and `stack_at_turn`, which spells it out for the moment before a body is advanced.
-/
namespace HtmlStream

/-- The labels of the tokens that frames provide, outermost first. -/
def labelsOf (frames : List Frame) : List String :=
  (tokensOf frames).reverse.map Token.label

namespace Renderer

/-- The turn that puts the root on the stack. -/
def opening (library : Library) (root : Value) (renderer : Renderer) (session : Session) :
    Turned :=
  match frameOf? root session with
  | some (frame, session) => renderer.push library frame session
  | none => (.failed (.engine (.invalidComponent root root)), renderer, session)

theorem areReady_opening (library : Library) {start : Renderer} {root : Value} {session : Session}
    (empty : start.frames = []) (goesOn : (start.opening library root session).1.GoesOn) :
    AreReady (start.opening library root session).2.1.frames := by
  unfold opening at goesOn ⊢
  cases framed : frameOf? root session with
  | none =>
      rw [framed] at goesOn
      exact goesOn.elim
  | some found =>
      rw [framed] at goesOn
      exact areReady_push library empty (isIdle_frameOf framed) goesOn

theorem opening_ne_wait (library : Library) (start : Renderer) (root : Value) (session : Session)
    (wait : Wait) : (start.opening library root session).1 ≠ .wait wait := by
  unfold opening
  cases frameOf? root session with
  | none => simp
  | some found => exact start.push_ne_wait found.1 found.2 wait

/-- How a render comes from one turn to another, and the texts that it hands out on the way. -/
inductive Course (library : Library) (first : Turned) : List String → Turned → Prop
  | here : Course library first [] first
  | turns {texts : List String} {renderer : Renderer} {session : Session}
      (course : Course library first texts (.proceed, renderer, session)) :
      Course library first texts (renderer.turn library session)
  | handsOut {texts : List String} {text : String} {renderer : Renderer} {session later : Session}
      (course : Course library first texts (.chunk text, renderer, session))
      (evolves : session.Evolves renderer.context later) :
      Course library first (texts ++ [text]) (.proceed, renderer, later)
  | isAnswered {texts : List String} {wait : Wait} {renderer : Renderer}
      {session later : Session}
      (course : Course library first texts (.wait wait, renderer, session))
      (evolves : session.Evolves renderer.context later) (reply : Reply) :
      Course library first texts (renderer.afterWait library wait reply later)

/-- What holds of a render after each of its turns, where `labels` are those of the tokens that its
context resolved before. -/
structure IsSound (start : Renderer) (labels : List String) (turned : Turned) : Prop where
  given_eq : turned.2.1.given = start.given
  within : turned.2.1.frames.length ≤ start.settings.maxDepth
  stack : turned.2.2.stack? start.context = some (labels ++ labelsOf turned.2.1.frames)
  distinct : (tokensOf turned.2.1.frames).Nodup
  ready : AreReady turned.2.1.frames
  raising : ∀ frame ∈ turned.2.1.frames, ∀ failure, frame.failure? = some failure →
    frame.routine.kind = .coroutine
  waiting : ∀ wait, turned.1 = .wait wait → ∃ frame outer, turned.2.1.frames = frame :: outer ∧
    wait.Concerns frame ∧ frame.IsIdle ∧ ∀ other ∈ outer, Frame.IsIdle other
  finished : turned.1 = .finished → turned.2.1.frames = []

variable {start renderer : Renderer} {labels : List String} {frame : Frame} {outer : List Frame}
  {before session : Session}

/-! ## Labels and tokens -/

theorem labelsOf_cons (frame : Frame) (outer : List Frame) :
    labelsOf (frame :: outer) = labelsOf outer ++ (frame.token?.map Token.label).toList := by
  unfold labelsOf
  rw [tokensOf_cons]
  cases frame.token? <;> simp

@[simp] theorem token?_receiving (frame : Frame) (reply : Reply) :
    (frame.receiving reply).token? = frame.token? := by
  cases reply <;> rfl

theorem tokensOf_receiving (frame : Frame) (reply : Reply) (outer : List Frame) :
    tokensOf (frame.receiving reply :: outer) = tokensOf (frame :: outer) := by
  simp only [tokensOf_cons, token?_receiving]

theorem tokensOf_deliveredTo (value : Value) (outer : List Frame) :
    tokensOf (deliveredTo value outer) = tokensOf outer := by
  cases outer with
  | nil => rfl
  | cons frame outer => exact tokensOf_receiving frame (.ok value) outer

theorem length_deliveredTo (value : Value) (outer : List Frame) :
    (deliveredTo value outer).length = outer.length := by
  cases outer <;> rfl

theorem failure?_of_isIdle (idle : frame.IsIdle) : frame.failure? = none :=
  congrArg Frame.failure? idle.symm

theorem failure?_receiving (idle : frame.IsIdle) {reply : Reply} {failure : Failure}
    (pending : (frame.receiving reply).failure? = some failure) : reply = .error failure := by
  cases reply with
  | ok answer =>
      have none := failure?_of_isIdle idle
      rw [show (frame.receiving (.ok answer)).failure? = frame.failure? from rfl, none] at pending
      cases pending
  | error other =>
      cases pending
      rfl

/-! ## One move -/

/-- A stack on which nothing is pending, before one of its moves. -/
structure IsQuiet (start : Renderer) (labels : List String) (renderer : Renderer) (frame : Frame)
    (outer : List Frame) (session : Session) : Prop where
  given_eq : renderer.given = start.given
  within : outer.length + 1 ≤ start.settings.maxDepth
  stack : session.stack? start.context = some (labels ++ labelsOf (frame :: outer))
  distinct : (tokensOf (frame :: outer)).Nodup
  idle : frame.IsIdle
  rest : ∀ other ∈ outer, Frame.IsIdle other

namespace IsQuiet

theorem context_eq (quiet : IsQuiet start labels renderer frame outer before) :
    renderer.context = start.context :=
  congrArg (fun given => given.2.2) quiet.given_eq

/-- Only the innermost of the frames that a quiet stack is left with may hold a failure. -/
theorem isSound (quiet : IsQuiet start labels renderer frame outer before)
    {turned : Turned} {reply : Reply}
    (given : turned.2.1.given = renderer.given)
    (frames : turned.2.1.frames = frame.receiving reply :: outer)
    (evolves : before.Evolves renderer.context turned.2.2)
    (raising : ∀ failure, reply = .error failure → frame.routine.kind = .coroutine)
    (waiting : ∀ wait, turned.1 = .wait wait → reply = .ok .null ∧ wait.Concerns frame)
    (unfinished : turned.1 ≠ .finished) : IsSound start labels turned where
  given_eq := given.trans quiet.given_eq
  within := by
    rw [frames]
    exact quiet.within
  stack := by
    rw [frames, labelsOf, tokensOf_receiving]
    rw [quiet.context_eq] at evolves
    exact evolves.stack _ quiet.stack
  distinct := by
    rw [frames, tokensOf_receiving]
    exact quiet.distinct
  ready := frames ▸ .receiving frame reply outer quiet.idle quiet.rest
  raising := by
    intro other member failure pending
    rw [frames] at member
    rcases List.mem_cons.mp member with rfl | member
    · rw [Frame.routine_receiving]
      exact raising failure (failure?_receiving quiet.idle pending)
    · rw [failure?_of_isIdle (quiet.rest other member)] at pending
      cases pending
  waiting := by
    intro wait equal
    rcases waiting wait equal with ⟨rfl, concerns⟩
    rw [quiet.idle.receiving_null] at frames
    exact ⟨frame, outer, frames, concerns, quiet.idle, quiet.rest⟩
  finished equal := absurd equal unfinished

/-- The frames are left as they were. -/
theorem isSound_of_same (quiet : IsQuiet start labels renderer frame outer before)
    {turned : Turned} (given : turned.2.1.given = renderer.given)
    (frames : turned.2.1.frames = frame :: outer)
    (evolves : before.Evolves renderer.context turned.2.2)
    (waiting : ∀ wait, turned.1 = .wait wait → wait.Concerns frame)
    (unfinished : turned.1 ≠ .finished) : IsSound start labels turned := by
  have received : turned.2.1.frames = frame.receiving (.ok .null) :: outer := by
    rw [frames, quiet.idle.receiving_null]
  have noFailure : ∀ failure, (.ok .null : Reply) = .error failure →
      frame.routine.kind = .coroutine :=
    fun _ equal => by cases equal
  exact quiet.isSound given received evolves noFailure
    (fun wait equal => ⟨rfl, waiting wait equal⟩) unfinished

theorem isSound_opens (quiet : IsQuiet start labels renderer frame outer before) {inner : Frame}
    (innerIdle : inner.IsIdle) {between : Session}
    (room : outer.length + 1 < renderer.settings.maxDepth)
    (fresh : ∀ token, inner.token? = some token → token ∉ tokensOf (frame :: outer))
    (evolves : before.Evolves renderer.context between) :
    IsSound start labels (.proceed, renderer.withFrames (inner :: frame :: outer),
      between.enterFrame renderer.context inner) where
  given_eq := quiet.given_eq
  within := by
    have settings : renderer.settings = start.settings :=
      congrArg (fun given => given.2.1) quiet.given_eq
    rw [← settings]
    exact room
  stack := by
    rw [quiet.context_eq] at evolves ⊢
    rw [Session.stack?_enterFrame (evolves.stack _ quiet.stack), List.append_assoc,
      ← labelsOf_cons]
    rfl
  distinct := by
    rw [show tokensOf (renderer.withFrames (inner :: frame :: outer)).frames
      = inner.token?.toList ++ tokensOf (frame :: outer) from tokensOf_cons inner (frame :: outer)]
    cases provided : inner.token? with
    | none => exact quiet.distinct
    | some token => exact List.nodup_cons.mpr ⟨fresh token provided, quiet.distinct⟩
  ready := by
    refine .of_idle fun other member => ?_
    rcases List.mem_cons.mp member with rfl | member
    · exact innerIdle
    · rcases List.mem_cons.mp member with rfl | member
      · exact quiet.idle
      · exact quiet.rest other member
  raising := by
    intro other member failure pending
    rcases List.mem_cons.mp member with rfl | member
    · rw [failure?_of_isIdle innerIdle] at pending
      cases pending
    · rcases List.mem_cons.mp member with rfl | member
      · rw [failure?_of_isIdle quiet.idle] at pending
        cases pending
      · rw [failure?_of_isIdle (quiet.rest other member)] at pending
        cases pending
  waiting _ equal := by cases equal
  finished equal := by cases equal

theorem isSound_ends (quiet : IsQuiet start labels renderer frame outer before) {turn : Turn}
    (value : Value) {between : Session} (outcome : turn.GoesOn ∨ ∃ failure, turn = .failed failure)
    (evolves : before.Evolves renderer.context between) :
    IsSound start labels (turn, renderer.withFrames (deliveredTo value outer),
      between.leaveFrame renderer.context frame) where
  given_eq := quiet.given_eq
  within := by
    have shorter : outer.length ≤ start.settings.maxDepth := (Nat.le_succ _).trans quiet.within
    simpa [withFrames, length_deliveredTo] using shorter
  stack := by
    have stacked := quiet.stack
    rw [labelsOf_cons, ← List.append_assoc] at stacked
    rw [quiet.context_eq] at evolves ⊢
    rw [Session.stack?_leaveFrame (evolves.stack _ stacked), labelsOf, labelsOf]
    dsimp only [withFrames]
    rw [tokensOf_deliveredTo]
  distinct := by
    have distinct := quiet.distinct
    rw [tokensOf_cons] at distinct
    dsimp only [withFrames]
    rw [tokensOf_deliveredTo]
    exact distinct.of_append_right
  ready := areReady_deliveredTo value quiet.rest
  raising := by
    intro other member failure pending
    cases outer with
    | nil => cases member
    | cons next rest =>
        rcases List.mem_cons.mp member with rfl | member
        · have raised := failure?_receiving (quiet.rest next List.mem_cons_self) pending
          cases raised
        · have idle := quiet.rest other (List.mem_cons_of_mem next member)
          rw [failure?_of_isIdle idle] at pending
          cases pending
  waiting := by
    rintro wait rfl
    rcases outcome with impossible | ⟨_, equal⟩
    · exact impossible.elim
    · cases equal
  finished := by
    rintro rfl
    rcases outcome with impossible | ⟨_, equal⟩
    · exact impossible.elim
    · cases equal

end IsQuiet

theorem Serves.isSound {turned : Turned} (served : Serves renderer frame outer before turned)
    (quiet : IsQuiet start labels renderer frame outer before) : IsSound start labels turned := by
  cases served with
  | goesOn turn reply styles after going raising evolves =>
      refine quiet.isSound rfl rfl evolves raising ?_ ?_
      · rintro wait rfl
        exact going.elim
      · rintro rfl
        exact going.elim
  | waits wait concerns after evolves =>
      refine quiet.isSound_of_same rfl rfl evolves ?_ (fun equal => by cases equal)
      intro other equal
      cases equal
      exact concerns
  | opens inner idle between room fresh evolves =>
      exact quiet.isSound_opens idle room fresh evolves
  | fails failure after evolves =>
      exact quiet.isSound_of_same rfl rfl evolves (fun _ equal => by cases equal)
        (fun equal => by cases equal)

/-- What a move keeps. -/
theorem Moves.isSound {turned : Turned} (moves : Moves renderer frame outer before turned)
    (quiet : IsQuiet start labels renderer frame outer before) : IsSound start labels turned := by
  cases moves with
  | serves served => exact served.isSound quiet
  | ends turn value between outcome evolves ended => exact quiet.isSound_ends value outcome evolves

/-! ## A whole course -/

variable (library : Library)

/-- Frames that provide no tokens, and for which nothing is pending. -/
theorem IsSound.of_idle {turned : Turned} (given : turned.2.1.given = start.given)
    (within : turned.2.1.frames.length ≤ start.settings.maxDepth)
    (stacked : turned.2.2.stack? start.context = some labels)
    (tokens : tokensOf turned.2.1.frames = [])
    (idle : ∀ frame ∈ turned.2.1.frames, Frame.IsIdle frame)
    (awake : ∀ wait, turned.1 ≠ .wait wait) (unfinished : turned.1 ≠ .finished) :
    IsSound start labels turned where
  given_eq := given
  within
  stack := by simpa [labelsOf, tokens] using stacked
  distinct := tokens ▸ List.nodup_nil
  ready := .of_idle idle
  raising := by
    intro frame member failure pending
    rw [failure?_of_isIdle (idle frame member)] at pending
    cases pending
  waiting wait equal := absurd equal (awake wait)
  finished equal := absurd equal unfinished

theorem isSound_opening (root : Value) (empty : start.frames = [])
    (stacked : session.stack? start.context = some labels) :
    IsSound start labels (start.opening library root session) := by
  have unopened : ∀ {failure after}, session.Evolves start.context after →
      IsSound start labels (.failed failure, start, after) := by
    intro failure after evolves
    apply IsSound.of_idle
    · rfl
    · simp [empty]
    · exact evolves.stack labels stacked
    all_goals simp [empty, tokensOf]
  unfold opening
  cases framed : frameOf? root session with
  | none => exact unopened (.refl _ session)
  | some found =>
      rcases found with ⟨frame, after⟩
      have evolves : session.Evolves start.context after := evolves_frameOf framed
      have unlabelled := token?_frameOf framed
      dsimp only
      by_cases full : start.settings.maxDepth ≤ start.frames.length
      · rw [push_of_full library full]
        exact unopened (evolves.trans (Session.evolves_closeFrame library _ frame after))
      · have room := Nat.lt_of_not_le full
        rw [push_of_room library frame after room]
        have entered : after.enterFrame start.context frame = after := by
          unfold Session.enterFrame
          rw [unlabelled]
        rw [entered]
        apply IsSound.of_idle
        · rfl
        · exact room
        · exact evolves.stack labels stacked
        · simp [withFrames, empty, tokensOf, unlabelled]
        · simp [withFrames, empty, isIdle_frameOf framed]
        all_goals simp

/-- A sound render, before a body is advanced with what is pending for it. -/
theorem IsSound.isQuiet (sound : IsSound start labels (.proceed, renderer, session))
    {reply : Reply} (frames : renderer.frames = frame.receiving reply :: outer)
    (idle : frame.IsIdle) (rest : ∀ other ∈ outer, Frame.IsIdle other) :
    IsQuiet start labels renderer frame outer session where
  given_eq := sound.given_eq
  within := by
    have within := sound.within
    dsimp only at within
    rwa [frames] at within
  stack := by
    have stack := sound.stack
    dsimp only at stack
    rwa [frames, labelsOf, tokensOf_receiving] at stack
  distinct := by
    have distinct := sound.distinct
    dsimp only at distinct
    rwa [frames, tokensOf_receiving] at distinct
  idle
  rest

theorem IsSound.turn (sound : IsSound start labels (.proceed, renderer, session)) :
    IsSound start labels (renderer.turn library session) := by
  have ready := sound.ready
  generalize live : renderer.frames = frames at ready
  cases ready with
  | empty =>
      rw [turn_of_empty library live]
      exact { sound with waiting := fun _ equal => (by cases equal), finished := fun _ => live }
  | receiving frame reply outer idle rest =>
      exact (moves_turn library idle reply live session).isSound (sound.isQuiet live idle rest)

theorem isSound_course {first : Turned} (sound : IsSound start labels first) {texts : List String}
    {last : Turned} (course : Course library first texts last) : IsSound start labels last := by
  induction course with
  | here => exact sound
  | turns _ induction => exact induction.turn library
  | @handsOut _ _ renderer session later _ evolves induction =>
      have context : renderer.context = start.context :=
        congrArg (fun given => given.2.2) induction.given_eq
      rw [context] at evolves
      exact { induction with
        stack := evolves.stack _ induction.stack
        waiting := fun _ equal => by cases equal
        finished := fun equal => by cases equal }
  | @isAnswered _ wait renderer session later _ evolves reply induction =>
      rcases induction.waiting wait rfl with ⟨frame, outer, frames, concerns, idle, rest⟩
      have context : renderer.context = start.context :=
        congrArg (fun given => given.2.2) induction.given_eq
      rw [context] at evolves
      have within := induction.within
      have stack := evolves.stack _ induction.stack
      have distinct := induction.distinct
      dsimp only at frames within stack distinct
      rw [frames] at within stack distinct
      exact (moves_afterWait library idle concerns reply frames later).isSound
        ⟨induction.given_eq, within, stack, distinct, idle, rest⟩

/-! ## Before a body is advanced -/

/-- The turn that advances the innermost body with a reply, after which nothing is pending. -/
def delivering (library : Library) (renderer : Renderer) (frame : Frame) (outer : List Frame)
    (reply : Reply) (session : Session) : Turned :=
  let quiet := renderer.withFrames (frame :: outer)
  let session := session.withLiveFrames (outer.length + 1)
  if frame.isAsyncGenerator then
    (.wait (.step frame.routine (reply.toOption.getD .null)), quiet, session)
  else
    let (progress, session) := Session.resume library frame.routine.index reply session
    quiet.react library frame.routine progress session

theorem turn_eq_delivering (idle : frame.IsIdle) (reply : Reply)
    (frames : renderer.frames = frame.receiving reply :: outer) (session : Session) :
    renderer.turn library session = renderer.delivering library frame outer reply session := by
  unfold Renderer.turn delivering
  simp only [frames, idle.delivered_receiving, idle.reply_receiving, idle.answer_receiving,
    Frame.isAsyncGenerator, Frame.routine_receiving, List.length_cons, withFrames]
  rfl

end Renderer

/-! ## A page with a provider -/

namespace Sample

def theme : Token := ⟨0, some "theme"⟩

def provider : ComponentReference := ⟨"Theme", some .generator, true⟩

/-- The only component provides a theme. -/
def library (provides : Routine) : Library := [⟨provider, ⟨[], [], [], none⟩, fun _ => provides⟩]

/-- One render context, and a body that asks for the theme and ends with it. -/
def session : Session :=
  { Session.empty with
    contexts := #[.inside none none 500 none]
    routines := #[⟨.generator, .unstarted (.suspend (.effect (.token theme)) .finish)⟩] }

def page : Value := .routine ⟨.generator, 0, "Page"⟩

/-- The frame of the provider, which is the second body that is made. -/
def themeFrame : Frame := .of ⟨.generator, 1, "Theme"⟩ (some theme)

def start : Renderer := .start [(theme, ⟨.sync, .component provider⟩)] Settings.standard 0

end Sample

end HtmlStream
