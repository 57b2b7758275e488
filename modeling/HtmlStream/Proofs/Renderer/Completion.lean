import HtmlStream.Proofs.Renderer.Cleanup
import HtmlStream.Renderer.TextStream

/-!
When a body counts as completed. It does if it returned; but the signal for the end of an async
iteration also completes a generator or a coroutine that raised it, and whoever waits for its result
goes on with null. An async generator cannot raise the signal itself. The main statement is
`completes_only_if_ended`.
-/
namespace HtmlStream

namespace Session

variable {library : Library} {resume : Resumption} {index : Nat} {failure : Failure}
  {session after : Session}

/-! ## Async generators -/

/-- An async generator does not end by the signal that it has ended. -/
theorem not_signalsEnd_endBody {result : Reply}
    (raised : (endBody index .asyncGenerator result session).1 = .raised failure) :
    ¬ failure.SignalsEnd := by
  rintro ⟨message, rfl⟩
  unfold endBody Progress.ofReply at raised
  cases result with
  | ok value => cases raised
  | error failure =>
      cases failure with
      | raised kind message => cases kind <;> cases raised
      | _ => cases raised

theorem not_signalsEnd_advanceTarget {target : Nat} {next : Reply → Routine} {reply : Reply}
    (goesOn : ∀ answer between,
      (run library resume index .asyncGenerator (next answer) between).1 = .raised failure →
      ¬ failure.SignalsEnd)
    (raised : (advanceTarget library resume index .asyncGenerator target next reply session).1
      = .raised failure) : ¬ failure.SignalsEnd := by
  unfold advanceTarget at raised
  split at raised
  · exact goesOn _ _ raised
  · exact goesOn _ _ raised
  · next notRaised _ => exact absurd raised (notRaised failure)

/-- The induction is on what the async generator still has to do. -/
theorem not_signalsEnd_run {routine : Routine}
    (raised : (run library resume index .asyncGenerator routine session).1 = .raised failure) :
    ¬ failure.SignalsEnd := by
  induction routine generalizing session with
  | finish result => exact not_signalsEnd_endBody raised
  | reserve count next induction => exact induction _ raised
  | act action next induction => exact induction _ raised
  | advance target next induction => exact induction _ raised
  | start body next _ induction => exact induction _ raised
  | suspend suspension next induction =>
      cases suspension with
      | effect value | wait pending => cases raised
      | delegate target =>
          rw [run_delegate] at raised
          split at raised
          · exact induction _ raised
          · exact not_signalsEnd_advanceTarget (fun answer _ => induction answer) raised
      | iterate node =>
          rw [run_iterate] at raised
          exact not_signalsEnd_advanceTarget (fun answer _ => induction answer) raised

theorem not_signalsEnd_resumeDelegating {target : Nat} {next : Reply → Routine} {reply : Reply}
    (raised : (resumeDelegating library resume index .asyncGenerator target next reply session).1
      = .raised failure) : ¬ failure.SignalsEnd := by
  unfold resumeDelegating at raised
  split at raised
  · split at raised
    all_goals exact not_signalsEnd_run raised
  · exact not_signalsEnd_advanceTarget (fun _ _ => not_signalsEnd_run) raised

/-- An async generator that is not given the signal does not raise it. -/
theorem not_signalsEnd_resume {object : RoutineObject}
    (found : session.routine? index = some object) (async : object.kind = .asyncGenerator)
    {reply : Reply} (unsignalled : ∀ given, reply = .error given → ¬ given.SignalsEnd)
    (raised : (session.resume library index reply).1 = .raised failure) :
    ¬ failure.SignalsEnd := by
  rw [resume_of_routine? library found] at raised
  unfold resumeObject at raised
  rw [async] at raised
  cases state : object.state with
  | unstarted body =>
      rw [state] at raised
      dsimp only at raised
      unfold startBody at raised
      split at raised
      · exact not_signalsEnd_run raised
      · cases raised
        rintro ⟨_, equal⟩
        cases equal
      · cases raised
        exact unsignalled _ rfl
  | suspended next | waiting _ next =>
      rw [state] at raised
      exact not_signalsEnd_run raised
  | delegating target next =>
      rw [state] at raised
      exact not_signalsEnd_resumeDelegating raised
  | running =>
      rw [state] at raised
      cases raised
      rintro ⟨_, equal⟩
      cases equal
  | finished outcome =>
      rw [state] at raised
      cases reply with
      | ok answer => cases raised
      | error given =>
          cases raised
          exact unsignalled _ rfl

/-- The step of an async generator is answered by the signal only if the generator has returned. -/
theorem returned_of_signalsEnd {object : RoutineObject}
    (found : session.routine? index = some object) (async : object.kind = .asyncGenerator)
    {reply : Reply} (unsignalled : ∀ given, reply = .error given → ¬ given.SignalsEnd)
    (stepped : session.stepAsyncGenerator library index reply = (.over (.error failure), after))
    (signals : failure.SignalsEnd) :
    ∃ value, session.resume library index reply = (.returned value, after) := by
  have unraised : (session.resume library index reply).1 = .raised failure →
      ¬ failure.SignalsEnd :=
    not_signalsEnd_resume found async unsignalled
  unfold stepAsyncGenerator at stepped
  generalize session.resume library index reply = advanced at stepped unraised ⊢
  rcases advanced with ⟨progress, between⟩
  cases progress with
  | produced effect | waiting pending => cases stepped
  | returned value =>
      cases stepped
      exact ⟨value, rfl⟩
  | raised raised =>
      cases stepped
      exact absurd signals (unraised rfl)

end Session

namespace Renderer

variable {library : Library} {start renderer : Renderer} {labels texts : List String}
  {root : Value} {frame : Frame} {outer : List Frame} {reply : Reply} {session before : Session}
  {first : Turned}

/-! ## Frames that leave the stack -/

/-- A body has returned a value when it was advanced, or it has raised the signal for the end of an
iteration, which stands for null. -/
def Completes (library : Library) (frame : Frame) (reply : Reply) (before : Session)
    (value : Value) (after : Session) : Prop :=
  before.resume library frame.routine.index reply = (.returned value, after) ∨
    value = .null ∧ ∃ failure : Failure, failure.SignalsEnd ∧
      before.resume library frame.routine.index reply = (.raised failure, after)

/-- A turn serves the innermost body, unless that has completed. -/
theorem serves_or_completes (idle : frame.IsIdle)
    (frames : renderer.frames = frame.receiving reply :: outer) :
    Serves renderer frame outer before (renderer.turn library before) ∨
      ∃ value after,
        Completes library frame reply (before.withLiveFrames (outer.length + 1)) value after ∧
        renderer.turn library before = (renderer.withFrames (frame :: outer)).finish value after := by
  have noted : before.Evolves renderer.context (before.withLiveFrames (outer.length + 1)) :=
    .withLiveFrames before _
  have evolves := noted.trans
    (Session.evolves_resume library renderer.context frame.routine.index reply _)
  rw [turn_eq_delivering library idle reply frames before]
  unfold delivering Completes
  cases async : frame.isAsyncGenerator with
  | true =>
      have kind : frame.routine.kind = .asyncGenerator := by
        simpa [Frame.isAsyncGenerator] using async
      exact .inl (.waits (.step frame.routine _) ⟨rfl, kind⟩ _ noted)
  | false =>
      dsimp only
      generalize Session.resume library frame.routine.index reply _ = advanced at evolves ⊢
      rcases advanced with ⟨progress, after⟩
      cases progress with
      | produced effect => exact .inl (serves_handle library idle evolves frame.routine effect)
      | waiting pending =>
          exact .inl (serves_handleWait library evolves frame.routine rfl pending)
      | returned value => exact .inr ⟨value, after, .inl rfl, rfl⟩
      | raised failure =>
          by_cases signals : failure.SignalsEnd
          · rcases signals with ⟨message, rfl⟩
            exact .inr ⟨.null, after, .inr ⟨rfl, _, ⟨message, rfl⟩, rfl⟩, rfl⟩
          · have fails : Serves renderer frame outer before
                (.failed failure, renderer.withFrames (frame :: outer), after) :=
              .fails failure after evolves
            rw [← finishFailing_of_not_signalsEnd signals] at fails
            exact .inl fails

/-- What is waited for serves the innermost body, unless the event loop answers that it has ended. -/
theorem serves_or_signals (idle : frame.IsIdle) {wait : Wait} (concerns : wait.Concerns frame)
    (frames : renderer.frames = frame :: outer) :
    Serves renderer frame outer session (renderer.afterWait library wait reply session) ∨
      ∃ generator answer failure, wait = .step generator answer ∧ reply = .error failure ∧
        failure.SignalsEnd ∧
        renderer.afterWait library wait reply session = renderer.finish .null session := by
  have same : renderer.withFrames (frame :: outer) = renderer := by
    rw [← frames]
    rfl
  have evolves := Session.Evolves.refl renderer.context session
  cases wait with
  | settle pending =>
      have served : Serves renderer frame outer session
          ((renderer.withFrames (frame :: outer)).afterWait library (.settle pending) reply
            session) :=
        serves_settle library idle evolves concerns pending reply
      rw [same] at served
      exact .inl served
  | step generator answer =>
      cases reply with
      | ok effect =>
          have served : Serves renderer frame outer session
              ((renderer.withFrames (frame :: outer)).handle library generator effect session) :=
            serves_handle library idle evolves generator effect
          rw [same] at served
          exact .inl served
      | error failure =>
          by_cases signals : failure.SignalsEnd
          · refine .inr ⟨generator, answer, failure, rfl, rfl, signals, ?_⟩
            rcases signals with ⟨message, rfl⟩
            rfl
          · have fails : Serves renderer frame outer session
                (.failed failure, renderer.withFrames (frame :: outer), session) :=
              .fails failure session evolves
            rw [same, ← finishFailing_of_not_signalsEnd signals] at fails
            exact .inl fails

/-- The innermost frame leaves the stack only when its body has returned, or has signalled the end of
an iteration; every other failure of it fails the render, and the frames around it stay as they are.
An async generator is taken for ended only if it has returned. -/
theorem completes_only_if_ended (library : Library) (root : Value) (empty : start.frames = [])
    (stacked : session.stack? start.context = some labels) :
    let first := start.opening library root session
    (∀ failure, ¬ failure.SignalsEnd → FailsAsRaised library first failure) ∧
    (∀ {texts renderer before frame outer reply},
      Course library first texts (.proceed, renderer, before) →
      renderer.frames = frame.receiving reply :: outer → frame.IsIdle →
      Serves renderer frame outer before (renderer.turn library before) ∨
        ∃ value after,
          Completes library frame reply (before.withLiveFrames (outer.length + 1)) value after ∧
          renderer.turn library before
            = (renderer.withFrames (frame :: outer)).finish value after) ∧
    (∀ {texts renderer before wait later} (reply : Reply),
      Course library first texts (.wait wait, renderer, before) →
      before.Evolves renderer.context later →
      ∃ frame outer, renderer.frames = frame :: outer ∧
        (Serves renderer frame outer later (renderer.afterWait library wait reply later) ∨
          ∃ generator answer failure, wait = .step generator answer ∧ reply = .error failure ∧
            failure.SignalsEnd ∧
            renderer.afterWait library wait reply later = renderer.finish .null later)) ∧
    ∀ {session index object reply failure after},
      Session.routine? session index = some object → object.kind = .asyncGenerator →
      (∀ given, reply = .error given → ¬ given.SignalsEnd) →
      session.stepAsyncGenerator library index reply = (.over (.error failure), after) →
      failure.SignalsEnd →
      ∃ value, session.resume library index reply = (.returned value, after) := by
  intro first
  have sound := isSound_opening library root empty stacked
  refine ⟨fun _ => failsAsRaised first, ?_, ?_, fun found async unsignalled =>
    Session.returned_of_signalsEnd found async unsignalled⟩
  · intro texts renderer before frame outer reply course frames idle
    exact serves_or_completes idle frames
  · intro texts renderer before wait later reply course evolves
    rcases (isSound_course library sound course).waiting wait rfl with
      ⟨frame, outer, frames, concerns, idle, _⟩
    exact ⟨frame, outer, frames, serves_or_signals idle concerns frames⟩

/-- A theme that cannot be provided fails the page that asked for it. -/
theorem completes_only_if_ended_raisingTheme :
    let failure : Failure := .raised .value (some "no theme")
    let library := Sample.library (.finish (.error failure))
    ∃ renderer before after,
      Course library (Sample.start.opening library Sample.page Sample.session) []
        (.proceed, renderer, before) ∧
      renderer.frames.length = 2 ∧
      renderer.turn library before = (.failed failure, renderer, after) := by
  intro failure library
  have stacked : Sample.session.stack? Sample.start.context = some [] := rfl
  have course : Course library (Sample.start.opening library Sample.page Sample.session) [] _ :=
    .turns .here
  have unsignalled : ¬ failure.SignalsEnd := by
    rintro ⟨message, equal⟩
    change Failure.raised .value _ = .raised .endOfAsyncIteration _ at equal
    cases equal
  have fails := (completes_only_if_ended library Sample.page rfl stacked).1 failure unsignalled
  have turned := fails.advanced course
    (show _ = (Sample.themeFrame.receiving (.ok .null)) :: _ from rfl) rfl rfl rfl
  exact ⟨_, _, _, course, rfl, turned⟩

/-- A theme whose body raises the signal is taken for one that has returned nothing: its frame leaves
the stack, and the page goes on with null. -/
theorem not_failsAsRaised_endOfAsyncIteration :
    let library := Sample.library (.finish (.error endOfAsyncIteration))
    ¬ FailsAsRaised library (Sample.start.opening library Sample.page Sample.session)
      endOfAsyncIteration ∧
    ∃ renderer before after,
      Course library (Sample.start.opening library Sample.page Sample.session) []
        (.proceed, renderer, before) ∧
      bodiesOf renderer.frames = [⟨.generator, 1, "Theme"⟩, ⟨.generator, 0, "Page"⟩] ∧
      renderer.turn library before
        = (.proceed, renderer.withFrames [.of ⟨.generator, 0, "Page"⟩ none], after) := by
  intro library
  have course : Course library (Sample.start.opening library Sample.page Sample.session) [] _ :=
    .turns .here
  constructor
  · intro fails
    have turned := fails.advanced course
      (show _ = (Sample.themeFrame.receiving (.ok .null)) :: _ from rfl) rfl rfl rfl
    cases congrArg Prod.fst turned
  · exact ⟨_, _, _, course, rfl, rfl⟩

end Renderer
end HtmlStream
