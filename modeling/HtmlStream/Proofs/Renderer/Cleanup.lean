import HtmlStream.Proofs.Renderer.Driving

/-!
However a render ends, nothing of it is left. The bodies that are still live are closed, innermost
first and each of them once; a failure is handed to none of them, and comes out as it was raised.
The main statement is `cleansUp`, for every way in which a consumer may drive a run and leave it.
-/
namespace HtmlStream

namespace Session

/-- Frames leave the stack one after another, innermost first. Each body is closed once, except for
async generators, which are left to the event loop; nothing else happens to any body. -/
inductive ClosesInTurn (library : Library) (context : Nat) :
    Session → List Frame → Session → Prop
  | none (session : Session) : ClosesInTurn library context session [] session
  | leaves {frame : Frame} {outer : List Frame} {before after : Session}
      (async : frame.isAsyncGenerator = true)
      (rest : ClosesInTurn library context
        ((before.leaveFrame context frame).withLiveFrames outer.length) outer after) :
      ClosesInTurn library context before (frame :: outer) after
  | closes {frame : Frame} {outer : List Frame} {before between after : Session}
      (notAsync : frame.isAsyncGenerator = false)
      (closes : Closes library frame.routine.index
        ((before.leaveFrame context frame).withLiveFrames outer.length) between)
      (rest : ClosesInTurn library context between outer after) :
      ClosesInTurn library context before (frame :: outer) after

variable {library : Library} {context : Nat} {before after session : Session}

/-- Frames are closed in turn if none of their bodies raises anything. -/
theorem closesInTurn_closeFrames (frames : List Frame)
    (quiet : (session.closeFrames library context frames).1 = none) :
    ∃ after, session.closeFrames library context frames = (none, [], after) ∧
      ClosesInTurn library context session frames after := by
  induction frames generalizing session with
  | nil => exact ⟨session, rfl, .none session⟩
  | cons frame outer induction =>
      unfold closeFrames at quiet ⊢
      dsimp only at quiet ⊢
      cases closed : closeFrame library frame
        ((session.leaveFrame context frame).withLiveFrames outer.length) with
      | mk failure? between =>
          rw [closed] at quiet
          cases failure? with
          | some failure => cases quiet
          | none =>
              rcases induction quiet with ⟨after, rest, inTurn⟩
              refine ⟨after, rest, ?_⟩
              unfold closeFrame at closed
              cases async : frame.isAsyncGenerator with
              | true =>
                  rw [if_pos async] at closed
                  cases closed
                  exact .leaves async inTurn
              | false =>
                  rw [if_neg (Bool.eq_false_iff.mp async)] at closed
                  exact .closes async (closes_of_closeRoutine library closed) inTurn

theorem evolves_of_closes (context : Nat) {index : Nat} (closes : Closes library index before after) :
    Evolves context before after := by
  cases closes with
  | ended hasEnded => exact .refl context before
  | unstarted kind body found =>
      refine ⟨.setState found ?_, fun _ => id⟩
      exact Order.bot_lt_succ body.depth
  | exited progress after raised complied ended =>
      have evolves := evolves_resume library context index (.error .exit) before
      rw [raised] at evolves
      exact evolves

namespace ClosesInTurn

variable {frames : List Frame}

theorem progresses (closed : ClosesInTurn library context before frames after) :
    Progresses before after := by
  induction closed with
  | none session => exact .refl session
  | leaves async rest induction => exact .trans (.of_routines_eq (by simp [withLiveFrames])) induction
  | closes notAsync closes rest induction =>
      have closing := (evolves_of_closes context closes).progresses
      exact .trans (.of_routines_eq (by simp [withLiveFrames])) (closing.trans induction)

/-- The context resolves in the end what it resolved before the frames came. -/
theorem stack?_eq {labels : List String} (closed : ClosesInTurn library context before frames after)
    (stacked : before.stack? context = some (labels ++ labelsOf frames)) :
    after.stack? context = some labels := by
  have left : ∀ {frame : Frame} {outer : List Frame} {session : Session},
      session.stack? context = some (labels ++ labelsOf (frame :: outer)) →
      ((session.leaveFrame context frame).withLiveFrames outer.length).stack? context
        = some (labels ++ labelsOf outer) := by
    intro frame outer session stacked
    rw [Renderer.labelsOf_cons, ← List.append_assoc] at stacked
    exact stack?_leaveFrame stacked
  induction closed with
  | none session => simpa [labelsOf, tokensOf] using stacked
  | leaves async rest induction => exact induction (left stacked)
  | closes notAsync closes rest induction =>
      exact induction ((evolves_of_closes context closes).stack _ (left stacked))

/-- The body of every frame has ended then, unless only the event loop can end it. -/
theorem hasEnded (closed : ClosesInTurn library context before frames after) {frame : Frame}
    (member : frame ∈ frames) (notAsync : frame.isAsyncGenerator = false) {object : RoutineObject}
    (found : before.routine? frame.routine.index = some object) :
    after.hasEnded frame.routine.index = true := by
  have noted : ∀ (first : Frame) (count : Nat) (session : Session),
      Progresses session ((session.leaveFrame context first).withLiveFrames count) :=
    fun _ _ _ => .of_routines_eq (by simp [withLiveFrames])
  induction closed generalizing object with
  | none session => cases member
  | @leaves first outer before after async rest induction =>
      rcases List.mem_cons.mp member with rfl | member
      · rw [notAsync] at async
        cases async
      · rcases (noted first outer.length before).exists_routine? found with ⟨object, found⟩
        exact induction member found
  | @closes first outer before between after _ closes rest induction =>
      have progress := noted first outer.length before
      rcases progress.exists_routine? found with ⟨object, found⟩
      rcases List.mem_cons.mp member with rfl | member
      · exact rest.progresses.hasEnded (closes.hasEnded found)
      · have closing := (evolves_of_closes context closes).progresses
        rcases closing.exists_routine? found with ⟨object, found⟩
        exact induction member found

end ClosesInTurn
end Session

/-- The signal for the end of an async iteration, whoever raised it. -/
def Failure.SignalsEnd (failure : Failure) : Prop :=
  ∃ message, failure = .raised .endOfAsyncIteration message

namespace Renderer

variable {library : Library} {start renderer : Renderer} {labels texts : List String}
  {root : Value} {session : Session} {first last turned : Turned}

/-! ## What becomes of the bodies that were on the stack -/

/-- The bodies on a stack, innermost first. -/
def bodiesOf (frames : List Frame) : List RoutineReference :=
  frames.map Frame.routine

theorem bodiesOf_deliveredTo (value : Value) (outer : List Frame) :
    bodiesOf (deliveredTo value outer) = bodiesOf outer := by
  cases outer <;> rfl

theorem bodiesOf_receiving (frame : Frame) (reply : Reply) (outer : List Frame) :
    bodiesOf (frame.receiving reply :: outer) = bodiesOf (frame :: outer) := by
  cases reply <;> rfl

/-- A body has ended, or it is still on the stack. -/
structure IsKept (body : RoutineReference) (frames : List Frame) (session : Session) : Prop where
  present : ∃ object, session.routine? body.index = some object
  kept : session.hasEnded body.index = true ∨ body ∈ bodiesOf frames

variable {body : RoutineReference} {frames stack : List Frame} {later : Session}

theorem IsKept.progress (kept : IsKept body frames session)
    (progress : Session.Progresses session later) (stays : body ∈ bodiesOf frames →
      body ∈ bodiesOf stack) : IsKept body stack later where
  present := by
    rcases kept.present with ⟨_, found⟩
    exact progress.exists_routine? found
  kept := kept.kept.imp progress.hasEnded stays

theorem IsKept.serves {frame : Frame} {outer : List Frame}
    (kept : IsKept body (frame :: outer) session)
    (served : Serves renderer frame outer session turned) :
    IsKept body turned.2.1.frames turned.2.2 := by
  cases served with
  | goesOn turn reply styles after goesOn raising evolves =>
      refine kept.progress evolves.progresses fun member => ?_
      exact (bodiesOf_receiving frame reply outer).symm ▸ member
  | waits wait concerns after evolves => exact kept.progress evolves.progresses id
  | fails failure after evolves => exact kept.progress evolves.progresses id
  | opens inner idle between room fresh evolves =>
      have entered := Session.Progresses.of_routines_eq (between.routines_enterFrame
        renderer.context inner)
      exact kept.progress (evolves.progresses.trans entered) (List.mem_cons_of_mem inner.routine)

/-- A move takes a body off the stack only if it has ended. -/
theorem IsKept.moves {frame : Frame} {outer : List Frame} (notAsync : body.kind ≠ .asyncGenerator)
    (kept : IsKept body (frame :: outer) session)
    (moves : Moves renderer frame outer session turned) :
    IsKept body turned.2.1.frames turned.2.2 := by
  cases moves with
  | serves served => exact kept.serves served
  | ends turn value between outcome evolves ended =>
      have left := Session.Progresses.of_routines_eq (between.routines_leaveFrame
        renderer.context frame)
      by_cases own : body = frame.routine
      · subst own
        rcases kept.present with ⟨object, found⟩
        have gone := ended (by simpa [Frame.isAsyncGenerator] using notAsync) object found
        exact ⟨(evolves.progresses.trans left).exists_routine? found, .inl (left.hasEnded gone)⟩
      · refine kept.progress (evolves.progresses.trans left) fun member => ?_
        dsimp only [withFrames]
        rw [bodiesOf_deliveredTo]
        exact (List.mem_cons.mp member).resolve_left own

theorem IsKept.turn (notAsync : body.kind ≠ .asyncGenerator) (ready : AreReady renderer.frames)
    (kept : IsKept body renderer.frames session) :
    IsKept body (renderer.turn library session).2.1.frames (renderer.turn library session).2.2 := by
  generalize live : renderer.frames = frames at ready kept
  cases ready with
  | empty =>
      rw [turn_of_empty library live]
      rwa [← live] at kept
  | receiving frame reply outer idle rest =>
      refine IsKept.moves notAsync ?_ (moves_turn library idle reply live session)
      exact ⟨kept.present, bodiesOf_receiving frame reply outer ▸ kept.kept⟩

/-- On a whole course, a body leaves the stack only when it has ended. -/
theorem isKept_course (notAsync : body.kind ≠ .asyncGenerator)
    (sound : IsSound start labels first) (kept : IsKept body first.2.1.frames first.2.2)
    (course : Course library first texts last) : IsKept body last.2.1.frames last.2.2 := by
  induction course with
  | here => exact kept
  | turns course induction =>
      exact induction.turn notAsync (isSound_course library sound course).ready
  | handsOut course evolves induction => exact induction.progress evolves.progresses id
  | @isAnswered _ wait renderer session later course evolves reply induction =>
      rcases (isSound_course library sound course).waiting wait rfl with
        ⟨frame, outer, frames, concerns, idle, _⟩
      have meanwhile : IsKept body renderer.frames later :=
        induction.progress evolves.progresses id
      dsimp only at frames
      rw [frames] at meanwhile
      exact meanwhile.moves notAsync (moves_afterWait library idle concerns reply frames later)

/-- A body was on the stack at some point of a course, or there was no room for it in the end and
closing it raised nothing. -/
inductive TakenUp (library : Library) (first last : Turned) (body : RoutineReference) : Prop
  | opened {texts rest : List String} {between : Turned}
      (before : Course library first texts between) (after : Course library between rest last)
      (member : body ∈ bodiesOf between.2.1.frames)
      (present : ∃ object, between.2.2.routine? body.index = some object)
  | rejected {holder : Renderer} {frame : Frame} {between : Session}
      (rejects : last = holder.push library frame between)
      (full : holder.settings.maxDepth ≤ holder.frames.length)
      (quiet : (between.closeFrame library frame).1 = none) (same : frame.routine = body)
      (present : ∃ object, between.routine? body.index = some object)

theorem TakenUp.isKept {body : RoutineReference} (notAsync : body.kind ≠ .asyncGenerator)
    (sound : IsSound start labels first) (taken : TakenUp library first last body) :
    IsKept body last.2.1.frames last.2.2 := by
  cases taken with
  | opened before after member present =>
      have kept : IsKept body _ _ := ⟨present, .inr member⟩
      exact isKept_course notAsync (isSound_course library sound before) kept after
  | @rejected holder frame between rejects full quiet same present =>
      subst rejects same
      have closing : frame.isAsyncGenerator = false := by
        simpa [Frame.isAsyncGenerator] using notAsync
      have progress := (Session.evolves_closeFrame library holder.context frame between).progresses
      rw [push_of_full library full]
      unfold Session.closeFrame at quiet progress ⊢
      rw [if_neg (Bool.eq_false_iff.mp closing)] at quiet progress ⊢
      rcases present with ⟨object, found⟩
      refine ⟨progress.exists_routine? found, .inl ?_⟩
      exact (Session.closes_of_closeRoutine library (Prod.ext quiet rfl)).hasEnded found

/-- What is left of a render that is over: no frame, the labels from before, and no body that could
go on. The frames that were live in `left` have been closed, and nothing else happened. -/
structure CleanedUp (library : Library) (start : Renderer) (labels : List String)
    (first last : Turned) (left : Session) (run : Run) (after : Session) : Prop where
  empty : run.renderer.frames = []
  isOver : run.position = .over
  stack : after.stack? start.context = some labels
  closed : Session.ClosesInTurn library start.context left last.2.1.frames after
  ended : ∀ body, TakenUp library first last body → body.kind ≠ .asyncGenerator →
    after.hasEnded body.index = true

/-- Closing the frames that are left cleans up, unless one of their bodies raises something. -/
theorem exists_cleanedUp (left : Session) (sound : IsSound start labels first)
    (course : Course library first texts last)
    (meanwhile : last.2.2.Evolves last.2.1.context left)
    (quiet : (left.closeFrames library last.2.1.context last.2.1.frames).1 = none) :
    ∃ after, Run.closeFrames library last.2.1 left
        = (none, ⟨last.2.1.withFrames [], .over⟩, after) ∧
      CleanedUp library start labels first last left ⟨last.2.1.withFrames [], .over⟩ after := by
  rcases Session.closesInTurn_closeFrames _ quiet with ⟨after, closing, inTurn⟩
  have soundLast := isSound_course library sound course
  have context : last.2.1.context = start.context :=
    congrArg (fun given => given.2.2) soundLast.given_eq
  refine ⟨after, ?_, rfl, rfl, ?_, ?_, ?_⟩
  · unfold Run.closeFrames
    rw [closing]
    rfl
  · rw [context] at inTurn meanwhile
    exact inTurn.stack?_eq (meanwhile.stack _ soundLast.stack)
  · exact context ▸ inTurn
  · intro body taken notAsync
    have kept := (taken.isKept notAsync sound).progress meanwhile.progresses id
    rcases kept.kept with ended | member
    · exact inTurn.progresses.hasEnded ended
    · rcases List.mem_map.mp member with ⟨frame, held, rfl⟩
      rcases kept.present with ⟨object, found⟩
      exact inTurn.hasEnded held (by simpa [Frame.isAsyncGenerator] using notAsync) found

/-- Whenever a body raises a failure, be it when the renderer advances it or when the event loop does,
the render fails with this failure and all frames are still on the stack. -/
structure FailsAsRaised (library : Library) (first : Turned) (failure : Failure) : Prop where
  advanced : ∀ {texts renderer before frame reply outer after},
    Course library first texts (.proceed, renderer, before) →
    renderer.frames = frame.receiving reply :: outer → frame.IsIdle →
    frame.isAsyncGenerator = false →
    Session.resume library frame.routine.index reply (before.withLiveFrames (outer.length + 1))
      = (.raised failure, after) →
    renderer.turn library before = (.failed failure, renderer.withFrames (frame :: outer), after)
  stepped : ∀ {texts renderer generator answer before after},
    Course library first texts (.wait (.step generator answer), renderer, before) →
    before.Evolves renderer.context after →
    renderer.afterWait library (.step generator answer) (.error failure) after
      = (.failed failure, renderer, after)

theorem finishFailing_of_not_signalsEnd {failure : Failure} (fails : ¬ failure.SignalsEnd)
    (renderer : Renderer) (session : Session) :
    renderer.finishFailing failure session = (.failed failure, renderer, session) := by
  unfold finishFailing
  split
  · next message => exact absurd ⟨message, rfl⟩ fails
  · rfl

theorem failsAsRaised (first : Turned) {failure : Failure} (fails : ¬ failure.SignalsEnd) :
    FailsAsRaised library first failure where
  advanced := by
    intro texts renderer before frame reply outer after course frames idle notAsync raised
    rw [turn_eq_delivering library idle reply frames before, delivering, notAsync, raised]
    exact finishFailing_of_not_signalsEnd fails _ after
  stepped _ _ := finishFailing_of_not_signalsEnd fails _ _

/-- Whoever closes a paused run leaves nothing of it, whatever bodies did meanwhile. -/
def ClosesClean (library : Library) (start : Renderer) (labels : List String) (first last : Turned)
    (run : Run) : Prop :=
  ∀ left, last.2.2.Evolves last.2.1.context left →
    (left.closeFrames library last.2.1.context last.2.1.frames).1 = none →
    ∃ closed after, run.close library left = (none, closed, after) ∧
      CleanedUp library start labels first last left closed after

/-- Where a course pauses, its run has completed and nothing of it is left; or it has failed with
what was raised and nothing of it is left; or it can be closed there. Cleanup that raises something
is left out. -/
def EndsClean (library : Library) (start : Renderer) (labels : List String) (first last : Turned) :
    Prop :=
  match last.1 with
  | .proceed => True
  | .finished => ∃ run, Run.proceed library last = (.finished, run, last.2.2) ∧
      CleanedUp library start labels first last last.2.2 run last.2.2
  | .failed failure =>
      (last.2.2.closeFrames library last.2.1.context last.2.1.frames).1 = none →
      ∃ run after, Run.proceed library last = (.failed failure, run, after) ∧
        CleanedUp library start labels first last last.2.2 run after
  | .chunk text => ∃ run, Run.proceed library last = (.chunk text, run, last.2.2) ∧
      ClosesClean library start labels first last run
  | .wait wait => ∃ run, Run.proceed library last = (.wait wait, run, last.2.2) ∧
      ClosesClean library start labels first last run

theorem endsClean_of_course (sound : IsSound start labels first)
    (course : Course library first texts last) : EndsClean library start labels first last := by
  have cleaned := fun left => exists_cleanedUp left sound course
  have soundLast := isSound_course library sound course
  rcases last with ⟨turn, renderer, paused⟩
  have closes : ∀ run : Run, run.renderer = renderer →
      ClosesClean library start labels first (turn, renderer, paused) run := by
    rintro run rfl left meanwhile quiet
    rcases cleaned left meanwhile quiet with ⟨after, closing, clean⟩
    exact ⟨_, after, closing, clean⟩
  cases turn with
  | proceed => trivial
  | chunk text => exact ⟨_, rfl, closes ⟨renderer, .atChunk⟩ rfl⟩
  | wait wait => exact ⟨_, rfl, closes ⟨renderer, .atWait wait⟩ rfl⟩
  | failed failure =>
      intro quiet
      rcases cleaned paused (.refl _ paused) quiet with ⟨after, closing, clean⟩
      refine ⟨_, after, ?_, clean⟩
      unfold Run.proceed Run.abort
      dsimp only at closing ⊢
      rw [closing]
      rfl
  | finished =>
      have empty : renderer.frames = [] := soundLast.finished rfl
      have nothing : Run.closeFrames library renderer paused
          = (none, ⟨renderer.withFrames [], .over⟩, paused) := by
        unfold Run.closeFrames
        rw [empty]
        rfl
      have quiet : (paused.closeFrames library renderer.context renderer.frames).1 = none :=
        congrArg Prod.fst nothing
      rcases cleaned paused (.refl _ paused) quiet with ⟨after, closing, clean⟩
      cases nothing.symm.trans closing
      refine ⟨_, ?_, clean⟩
      unfold Run.proceed
      dsimp only
      rw [← empty]
      rfl

/-- However a consumer drives a run, every step that it gets is where a course pauses that has
handed out the texts so far; wherever a course pauses, the run ends clean; and what a body raises,
other than the signal for the end of an iteration, is what the run fails with. -/
theorem cleansUp (library : Library) (root : Value) (empty : start.frames = [])
    (stacked : session.stack? start.context = some labels) :
    let first := start.opening library root session
    (∀ {texts stepped}, Run.Driven library (.start start root) session texts stepped →
      ∃ last, Course library first texts last ∧ last.1 ≠ .proceed ∧
        stepped = Run.proceed library last) ∧
    (∀ {texts last}, Course library first texts last →
      EndsClean library start labels first last) ∧
    ∀ failure, ¬ failure.SignalsEnd → FailsAsRaised library first failure :=
  have sound := isSound_opening library root empty stacked
  ⟨exists_course_of_driven library empty stacked, endsClean_of_course sound,
    fun _ => failsAsRaised _⟩

/-- A theme that cannot be provided ends the page: both bodies are over then. -/
theorem cleansUp_raisingTheme :
    let failure : Failure := .raised .value (some "no theme")
    let library := Sample.library (.finish (.error failure))
    ∃ run after, (Run.start Sample.start Sample.page).resume library (.ok .null) Sample.session
        = (.failed failure, run, after) ∧
      run.renderer.frames = [] ∧ after.stack? 0 = some [] ∧ after.hasEnded 0 = true := by
  intro failure library
  have stacked : Sample.session.stack? Sample.start.context = some [] := rfl
  have clean := cleansUp library Sample.page rfl stacked
  have opened : Course library (Sample.start.opening library Sample.page Sample.session) [] _ :=
    .turns .here
  rcases clean.2.1 (.turns opened) rfl with ⟨run, after, stepped, cleaned⟩
  refine ⟨run, after, ?_, cleaned.empty, cleaned.stack, ?_⟩
  · refine Eq.trans ?_ stepped
    exact (proceed_turn library _ _).trans (proceed_turn library _ _)
  · have taken : TakenUp library _ _ ⟨.generator, 0, "Page"⟩ :=
      .opened .here (.turns opened) List.mem_cons_self ⟨_, rfl⟩
    exact cleaned.ended _ taken (by decide)

end Renderer
end HtmlStream
