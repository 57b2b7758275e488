import HtmlStream.Proofs.Renderer.Completion

/-!
Cancellation of a coroutine that waits for the event loop. It is raised in this coroutine before
anything else happens, and after that the render goes on from what the coroutine makes of it, as if it
had come to that without being cancelled. The main statement is `deliversCancellation_of_course`.
-/
namespace HtmlStream.Renderer

/-- How a cancellation is delivered to the body of `frame`, which waits for `pending`, if the body
comes to `progress` with it. -/
structure DeliversCancellation (library : Library) (start : Renderer) (labels : List String)
    (first : Turned) (renderer : Renderer) (frame : Frame) (outer : List Frame) (pending : Pending)
    (message : Option String) (later : Session) (progress : Progress) (after : Session) : Prop where
  /-- Until the body is advanced, nothing has happened to any body. -/
  keeps : renderer.afterWait library (.settle pending) (.error (.raised .cancelled message)) later
    = (.proceed, renderer.withFrames
        (frame.receiving (.error (.raised .cancelled message)) :: outer), later)
  /-- The body receives the cancellation once; the frames are those from before it. -/
  raises : (renderer.withFrames
      (frame.receiving (.error (.raised .cancelled message)) :: outer)).turn library later
    = renderer.react library frame.routine progress after
  resumes : (Run.mk renderer (.atWait (.settle pending))).resume library
      (.error (.raised .cancelled message)) later
    = Run.proceed library (renderer.react library frame.routine progress after)
  /-- The frame around it goes on with the result. -/
  answers : ∀ value next rest, progress = .returned value → outer = next :: rest →
    renderer.react library frame.routine progress after
      = (.proceed, renderer.withFrames (next.receiving (.ok value) :: rest),
          after.leaveFrame renderer.context frame)
  /-- The run comes to the same where the body returns this value without being cancelled. -/
  returns : ∀ value answer answered, progress = .returned value →
    Session.isOver answered pending = true →
    Session.resume library frame.routine.index (.ok .null)
        (answered.withLiveFrames (outer.length + 1)) = (.returned value, after) →
    (Run.mk renderer (.atWait (.settle pending))).resume library (.ok answer) answered
      = (Run.mk renderer (.atWait (.settle pending))).resume library
          (.error (.raised .cancelled message)) later
  /-- The body may wait again, with nothing pending for any frame, and be cancelled again. -/
  waits : ∀ again, progress = .waiting again → (∀ token, again ≠ .value (.token token)) →
    (Run.mk renderer (.atWait (.settle pending))).resume library
        (.error (.raised .cancelled message)) later
      = (.wait (.settle again), ⟨renderer, .atWait (.settle again)⟩, after)
  /-- The run fails with what the body raised, and the other frames are closed. -/
  fails : ∀ failure, progress = .raised failure → ¬ failure.SignalsEnd →
    (after.closeFrames library renderer.context renderer.frames).1 = none →
    ∃ run closed, (Run.mk renderer (.atWait (.settle pending))).resume library
        (.error (.raised .cancelled message)) later = (.failed failure, run, closed) ∧
      CleanedUp library start labels first (.failed failure, renderer, after) after run closed
  ended : ∀ failure object, progress = .raised failure → (∀ fault, failure ≠ .fault fault) →
    later.routine? frame.routine.index = some object →
    after.hasEnded frame.routine.index = true

variable {library : Library} {start renderer : Renderer} {labels texts : List String}
  {root : Value} {session before later : Session} {frame : Frame} {outer : List Frame}
  {pending : Pending}

/-- A frame that receives something is advanced with it, and nothing is pending any more. -/
theorem turn_receiving (idle : frame.IsIdle) (notAsync : frame.isAsyncGenerator = false)
    (frames : renderer.frames = frame :: outer) (reply : Reply) (session : Session) :
    (renderer.withFrames (frame.receiving reply :: outer)).turn library session
      = renderer.react library frame.routine
          (Session.resume library frame.routine.index reply
            (session.withLiveFrames (outer.length + 1))).1
          (Session.resume library frame.routine.index reply
            (session.withLiveFrames (outer.length + 1))).2 := by
  rw [turn_eq_delivering library idle reply rfl session, delivering, notAsync]
  have same : (renderer.withFrames (frame.receiving reply :: outer)).withFrames (frame :: outer)
      = renderer := by
    rw [← frames]
    rfl
  rw [same]
  rfl

theorem afterWait_settle_of_isOver {answered : Session} (isOver : answered.isOver pending = true)
    (answer : Value) :
    renderer.afterWait library (.settle pending) (.ok answer) answered
      = (.proceed, renderer, answered) := by
  unfold afterWait
  dsimp only
  rw [if_pos isOver]

theorem isAsyncGenerator_of_coroutine (coroutine : frame.routine.kind = .coroutine) :
    frame.isAsyncGenerator = false := by
  rw [Frame.isAsyncGenerator, coroutine]
  rfl

/-- A coroutine that waits again is waited for as it was before. -/
theorem react_waiting_coroutine {routine : RoutineReference} (coroutine : routine.kind = .coroutine)
    {again : Pending} (notToken : ∀ token, again ≠ .value (.token token)) (session : Session) :
    renderer.react library routine (.waiting again) session
      = (.wait (.settle again), renderer, session) := by
  show renderer.handleWait library routine again session = _
  unfold handleWait
  split
  · next token => exact absurd rfl (notToken token)
  · rw [if_pos coroutine]

/-! ## What a cancellation comes to -/

section Interrupting

variable {message : Option String} (frames : renderer.frames = frame :: outer)

include frames

/-- The failure is kept for the innermost body, until it is advanced. -/
theorem afterWait_settle_cancelled :
    renderer.afterWait library (.settle pending) (.error (.raised .cancelled message)) later
      = (.proceed, renderer.withFrames
          (frame.receiving (.error (.raised .cancelled message)) :: outer), later) := by
  unfold afterWait interrupt
  dsimp only
  rw [frames]
  rfl

variable (idle : frame.IsIdle) (coroutine : frame.routine.kind = .coroutine)

include idle coroutine

theorem turn_cancelled {progress : Progress} {after : Session}
    (advanced : Session.resume library frame.routine.index (.error (.raised .cancelled message))
      (later.withLiveFrames (outer.length + 1)) = (progress, after)) :
    (renderer.withFrames
        (frame.receiving (.error (.raised .cancelled message)) :: outer)).turn library later
      = renderer.react library frame.routine progress after := by
  rw [turn_receiving idle (isAsyncGenerator_of_coroutine coroutine) frames, advanced]

theorem resume_cancelled {progress : Progress} {after : Session}
    (advanced : Session.resume library frame.routine.index (.error (.raised .cancelled message))
      (later.withLiveFrames (outer.length + 1)) = (progress, after)) :
    (Run.mk renderer (.atWait (.settle pending))).resume library
        (.error (.raised .cancelled message)) later
      = Run.proceed library (renderer.react library frame.routine progress after) := by
  unfold Run.resume
  dsimp only
  rw [afterWait_settle_cancelled frames, proceed_turn, turn_cancelled frames idle coroutine advanced]

/-- What was waited for is over, and the innermost body is advanced with it. -/
theorem resume_settled {answered : Session} (isOver : answered.isOver pending = true)
    (answer : Value) {progress : Progress} {after : Session}
    (advanced : Session.resume library frame.routine.index (.ok .null)
      (answered.withLiveFrames (outer.length + 1)) = (progress, after)) :
    (Run.mk renderer (.atWait (.settle pending))).resume library (.ok answer) answered
      = Run.proceed library (renderer.react library frame.routine progress after) := by
  have same : renderer.withFrames (frame.receiving (.ok .null) :: outer) = renderer := by
    rw [idle.receiving_null, ← frames]
    rfl
  have turned := @turn_receiving library _ _ _ idle (isAsyncGenerator_of_coroutine coroutine) frames (.ok .null)
    answered
  rw [same, advanced] at turned
  unfold Run.resume
  dsimp only
  rw [afterWait_settle_of_isOver isOver, proceed_turn, turned]

end Interrupting

/-- A coroutine that waits for the event loop is given a cancellation by the very next turn, and no
other body is advanced or closed before it has answered. If it returns, the frame around it goes on
with the result, as it would have done otherwise; if it waits again, so does the run, with nothing
pending; if it raises something but the signal for the end of an iteration, the run fails with that
and all frames are closed, innermost first. The front end for the event loop hands the cancellation
on as it came, and passes it to what was waited for. -/
theorem deliversCancellation_of_course (library : Library) (root : Value)
    (empty : start.frames = []) (stacked : session.stack? start.context = some labels)
    (course : Course library (start.opening library root session) texts
      (.wait (.settle pending), renderer, before))
    (message : Option String) :
    (∀ paused, (Run.mk renderer (.atWait (.settle pending))).nextText library .async
        (.error (.raised .cancelled message)) paused
      = Run.leavingWith .async ((Run.mk renderer (.atWait (.settle pending))).nextTextAsync library
          (.error (.raised .cancelled message)) (paused.cancelPending pending))) ∧
    ∃ frame outer, renderer.frames = frame :: outer ∧ frame.routine.kind = .coroutine ∧
      (∀ other ∈ frame :: outer, Frame.IsIdle other) ∧
      ∀ later, before.Evolves renderer.context later → ∀ progress after,
        Session.resume library frame.routine.index (.error (.raised .cancelled message))
          (later.withLiveFrames (outer.length + 1)) = (progress, after) →
        Course library (start.opening library root session) texts
          (renderer.react library frame.routine progress after) ∧
        DeliversCancellation library start labels (start.opening library root session) renderer
          frame outer pending message later progress after := by
  have opened := isSound_opening library root empty stacked
  rcases (isSound_course library opened course).waiting _ rfl with
    ⟨frame, outer, frames, coroutine, idle, rest⟩
  refine ⟨fun _ => rfl, frame, outer, frames, coroutine, List.forall_mem_cons.mpr ⟨idle, rest⟩, ?_⟩
  intro later evolves progress after advanced
  replace frames : renderer.frames = frame :: outer := frames
  have keeps : renderer.afterWait library (.settle pending) (.error (.raised .cancelled message))
      later = (.proceed, renderer.withFrames
        (frame.receiving (.error (.raised .cancelled message)) :: outer), later) :=
    afterWait_settle_cancelled frames
  have raises := turn_cancelled frames idle coroutine advanced
  have resumes : (Run.mk renderer (.atWait (.settle pending))).resume library
      (.error (.raised .cancelled message)) later
        = Run.proceed library (renderer.react library frame.routine progress after) :=
    resume_cancelled frames idle coroutine advanced
  have onward : Course library (start.opening library root session) texts
      (renderer.react library frame.routine progress after) := by
    have answered := course.isAnswered evolves (.error (.raised .cancelled message))
    rw [keeps] at answered
    have turned := answered.turns
    rwa [raises] at turned
  refine ⟨onward, ?_⟩
  exact {
    keeps
    raises
    resumes
    answers := by
      rintro value next rest rfl rfl
      unfold react finish
      rw [frames]
      rfl
    returns := by
      rintro value answer answered rfl isOver uncancelled
      rw [resumes]
      exact resume_settled frames idle coroutine isOver answer uncancelled
    waits := by
      rintro again rfl notToken
      rw [resumes, react_waiting_coroutine coroutine notToken]
      rfl
    fails := by
      rintro failure rfl fails quiet
      have raised : renderer.react library frame.routine (.raised failure) after
          = (.failed failure, renderer, after) := finishFailing_of_not_signalsEnd fails renderer after
      rw [resumes]
      rw [raised] at onward ⊢
      exact endsClean_of_course opened onward quiet
    ended := by
      rintro failure object rfl faultless found
      have there : (later.withLiveFrames (outer.length + 1)).routine? frame.routine.index
          = some object := found
      rcases Session.endedOrRefused_resume library there _ (by rw [advanced]; exact id) with
        ended | ⟨fault, refused⟩
      · rwa [advanced] at ended
      · rw [advanced] at refused
        cases refused
        exact absurd rfl (faultless fault) }

/-! ## A theme that is waited for -/

/-- A coroutine that waits for ever, and is dark once it is told that nobody waits for it any
more. -/
def darkOnceCancelled : Component where
  reference := ⟨"Theme", some .coroutine, true⟩
  signature := ⟨[], [], [], none⟩
  body _ := .suspend (.wait .forever) fun
    | .ok value => .finish (.ok value)
    | .error _ => .finish (.ok (.text "dark"))

/-- The page goes on with the dark theme once the cancellation has come. -/
theorem deliversCancellation_darkOnceCancelled :
    let cancelled : Reply := .error (.raised .cancelled none)
    let start := Renderer.start [(Sample.theme, ⟨.async, .component darkOnceCancelled.reference⟩)]
      Settings.standard 0
    ∃ renderer before after,
      Course [darkOnceCancelled] (start.opening [darkOnceCancelled] Sample.page Sample.session) []
        (.wait (.settle .forever), renderer, before) ∧
      (renderer.afterWait [darkOnceCancelled] (.settle .forever) cancelled before).2.1.turn
          [darkOnceCancelled] before
        = (.proceed, renderer.withFrames
            [(Frame.of ⟨.generator, 0, "Page"⟩ none).receiving (.ok (.text "dark"))], after) := by
  intro cancelled start
  have course : Course [darkOnceCancelled]
      (start.opening [darkOnceCancelled] Sample.page Sample.session) [] _ := .turns (.turns .here)
  have stacked : Sample.session.stack? start.context = some [] := rfl
  rcases (deliversCancellation_of_course [darkOnceCancelled] Sample.page rfl stacked course
    none).2 with ⟨frame, outer, frames, _, _, delivers⟩
  cases frames
  have delivered := (delivers _ (.refl _ _) _ _ rfl).2
  have answered := delivered.raises.trans (delivered.answers _ _ _ rfl rfl)
  refine ⟨_, _, _, course, Eq.trans ?_ answered⟩
  rw [delivered.keeps]

end HtmlStream.Renderer
