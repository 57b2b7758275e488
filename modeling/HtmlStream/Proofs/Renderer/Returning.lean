import HtmlStream.Element.Page
import HtmlStream.Proofs.Renderer.Trampoline
import HtmlStream.Proofs.Routine.Evolution
import HtmlStream.Proofs.Routine.Requesting

/-!
The end of a page. A root may return its last text, or yield it and then return nothing. Whatever came
before, the page then ends with the same text and the render in the same way, unless the text is markup
and texts are escaped: markup that is returned is escaped, and markup that is yielded is not. The main
statement is `ends_with_result`.
-/
namespace HtmlStream

namespace Value

/-- What a page may end with. -/
def isTextOrNumber : Value → Bool
  | .text _ | .markup _ | .integer _ | .float _ | .notANumber _ => true
  | _ => false

end Value

namespace Routine

/-- What follows the last effect of a body: it returns nothing, unless a failure is raised in it. -/
def returnNothing : Reply → Routine
  | .ok _ => .finish (.ok .null)
  | .error failure => .finish (.error failure)

/-- The body that yields its result as its last effect, if that is a text or a number. -/
def yieldingResult : Routine → Routine
  | .finish (.error failure) => .finish (.error failure)
  | .finish (.ok value) =>
      if value.isTextOrNumber then .suspend (.effect value) returnNothing else .finish (.ok value)
  | .reserve count next => .reserve count fun first => (next first).yieldingResult
  | .act action next => .act action fun reply => (next reply).yieldingResult
  | .advance index next => .advance index fun advanced => (next advanced).yieldingResult
  | .start body next => .start body fun task => (next task).yieldingResult
  | .suspend suspension next => .suspend suspension fun reply => (next reply).yieldingResult

end Routine

namespace RoutineState

/-- The state of the body that yields its result, when it got equally far. -/
def yieldingResult : RoutineState → RoutineState
  | .unstarted body => .unstarted body.yieldingResult
  | .suspended next => .suspended fun reply => (next reply).yieldingResult
  | .waiting pending next => .waiting pending fun reply => (next reply).yieldingResult
  | .delegating target next => .delegating target fun reply => (next reply).yieldingResult
  | .running => .running
  | .finished outcome => .finished outcome

end RoutineState

namespace Session

variable {library : Library} {resume : Resumption} {index : Nat} {value : Value} {reply : Reply}
  {session after : Session}

theorem setState_setState (session : Session) (index : Nat) (first second : RoutineState) :
    (session.setState index first).setState index second = session.setState index second := by
  unfold setState
  congr 1
  refine Array.ext_getElem? fun number => ?_
  simp only [Array.getElem?_modify]
  split
  · cases session.routines[number]? <;> rfl
  · rfl

/-- A generator that has handed over returns once the other body has ended. -/
theorem advanceTarget_yieldingResult {target : Nat} {next : Reply → Routine}
    (goesOn : ∀ answer between,
      run library resume index .generator (next answer) between = (.returned value, after) →
      run library resume index .generator (next answer).yieldingResult between
        = (.produced value, after.setState index (.suspended Routine.returnNothing)))
    (returned : advanceTarget library resume index .generator target next reply session
      = (.returned value, after)) :
    advanceTarget library resume index .generator target (fun reply => (next reply).yieldingResult)
        reply session
      = (.produced value, after.setState index (.suspended Routine.returnNothing)) := by
  unfold advanceTarget at returned ⊢
  generalize resume target reply session = resumed at returned
  rcases resumed with ⟨progress, between⟩
  cases progress with
  | returned | raised => exact goesOn _ between returned
  | produced | waiting => cases returned

/-- Where a generator returns a text or a number, the one that yields its result yields that. The
induction is on what the generator still has to do. -/
theorem run_yieldingResult {routine : Routine} (shown : value.isTextOrNumber = true)
    (returned : run library resume index .generator routine session = (.returned value, after)) :
    run library resume index .generator routine.yieldingResult session
      = (.produced value, after.setState index (.suspended Routine.returnNothing)) := by
  induction routine generalizing session with
  | finish result =>
      cases result with
      | error failure => cases returned
      | ok value =>
          cases returned
          unfold Routine.yieldingResult
          rw [if_pos shown, setState_setState]
          rfl
  | reserve count next induction => exact induction _ returned
  | act action next induction => exact induction _ returned
  | advance target next induction => exact induction _ returned
  | start body next _ induction => exact induction _ returned
  | suspend suspension next induction =>
      cases suspension with
      | effect value | wait pending => cases returned
      | delegate target =>
          unfold Routine.yieldingResult
          rw [run_delegate] at returned ⊢
          split at returned
          · next awaited =>
              rw [if_pos awaited]
              exact induction _ returned
          · next free =>
              rw [if_neg free]
              exact advanceTarget_yieldingResult (fun answer _ => induction answer) returned
      | iterate node =>
          unfold Routine.yieldingResult
          rw [run_iterate] at returned ⊢
          exact advanceTarget_yieldingResult (fun answer _ => induction answer) returned

theorem resumeDelegating_yieldingResult {target : Nat} {next : Reply → Routine}
    (shown : value.isTextOrNumber = true)
    (returned : resumeDelegating library resume index .generator target next reply session
      = (.returned value, after)) :
    resumeDelegating library resume index .generator target
        (fun reply => (next reply).yieldingResult) reply session
      = (.produced value, after.setState index (.suspended Routine.returnNothing)) := by
  unfold resumeDelegating at returned ⊢
  split at returned
  · generalize close resume target session = closing at returned
    rcases closing with ⟨failure?, between⟩
    cases failure? <;> exact run_yieldingResult shown returned
  · exact advanceTarget_yieldingResult (fun _ _ => run_yieldingResult shown) returned

theorem resume_yieldingResult {state : RoutineState}
    (found : session.routine? index = some ⟨.generator, state⟩)
    (shown : value.isTextOrNumber = true)
    (returned : session.resume library index reply = (.returned value, after)) :
    (session.setState index state.yieldingResult).resume library index reply
      = (.produced value, after.setState index (.suspended Routine.returnNothing)) := by
  rw [resume_of_routine? library found] at returned
  rw [resume_of_routine? library (routine?_setState_self found state.yieldingResult)]
  unfold resumeObject at returned ⊢
  cases state with
  | unstarted body =>
      dsimp only [RoutineState.yieldingResult] at returned ⊢
      unfold startBody at returned ⊢
      split at returned
      · rw [setState_setState]
        exact run_yieldingResult shown returned
      · cases returned
      · cases returned
  | suspended next | waiting _ next =>
      dsimp only [RoutineState.yieldingResult] at returned ⊢
      rw [setState_setState]
      exact run_yieldingResult shown returned
  | delegating target next =>
      dsimp only [RoutineState.yieldingResult] at returned ⊢
      rw [setState_setState]
      exact resumeDelegating_yieldingResult shown returned
  | running => cases returned
  | finished outcome =>
      -- A generator that has ended returns nothing.
      cases reply with
      | ok answer =>
          cases returned
          cases shown
      | error failure => cases returned

theorem resume_returnNothing (library : Library) {kind : RoutineKind}
    (suspended : session.routine? index = some ⟨kind, .suspended Routine.returnNothing⟩) :
    ∃ after, session.resume library index (.ok .null) = (.returned .null, after) := by
  rw [resume_of_routine? library suspended]
  exact ⟨_, by cases kind <;> rfl⟩

end Session

namespace Transcript

/-- What is left of a render that only has to write its last text. -/
def ofLast (text : Except Fault String) (session : Session) : Transcript :=
  match text with
  | .ok text => ⟨piecesOf text, none, session⟩
  | .error fault => ⟨[], some (.fault fault), session⟩

theorem after_ofLast (text : String) (session : Session) :
    (ofLast (.ok "") session).after (piecesOf text) = ofLast (.ok text) session := by
  simp [ofLast, after, piecesOf]

end Transcript

/-! ## The last text -/

namespace Serializer

/-- Other texts than markup, and numbers, are written alike whether they are returned or yielded. -/
theorem resultText_eq_text {value : Value} (autoescape : Bool)
    (isShown : value.isTextOrNumber = true) (plain : ∀ content, value ≠ .markup content) :
    resultText autoescape value = text autoescape value := by
  have written (content : Except Fault String) :
      (do text autoescape (.text (← content))) =
        (content.map fun content => Value.text (if autoescape then escapeHtml content else content)).map
          Value.toText := by
    cases content <;> rfl
  cases value with
  | text content => rfl
  | integer number => exact written (Value.integer number).written
  | float number => exact written (Value.float number).written
  | notANumber identity => exact written (Value.notANumber identity).written
  | markup content => exact absurd rfl (plain content)
  | _ => cases isShown

end Serializer

namespace Renderer

variable (library : Library) (answers : LoopAnswers) {renderer : Renderer} {frame : Frame}
  {reply : Reply} {value : Value} {session after : Session}

theorem advance_generator (generator : frame.routine.kind = .generator) :
    (renderer.interpreter library answers).advance 1 (tokensOf [frame]) frame.routine reply
        renderer.styles session
      = (renderer.interpreter library answers).demandAt (tokensOf [frame]) frame.routine
          renderer.styles ((session.withLiveFrames 1).resume library frame.routine.index reply) := by
  unfold Interpreter.advance
  exact if_neg (by simp [generator])

/-- A root that returns ends the page with its result. -/
theorem continued_of_returned (idle : frame.IsIdle) (unlabelled : frame.token? = none)
    (generator : frame.routine.kind = .generator)
    (frames : renderer.frames = [frame.receiving reply])
    (returned : (session.withLiveFrames 1).resume library frame.routine.index reply
      = (.returned value, after)) :
    continued library answers (.proceed, renderer, session)
      = some (.ofLast (Serializer.resultText renderer.settings.autoescape value) after) := by
  have left (context : Nat) : after.leaveFrame context frame = after := by
    unfold Session.leaveFrame
    rw [unlabelled]
  rw [continued_proceed, answering_turn library answers idle reply frames,
    List.length_nil, advance_generator library answers generator, returned]
  have written := continued_writing_of_empty library answers
    (show (renderer.withFrames []).frames = [] from rfl)
    (Serializer.resultText renderer.settings.autoescape value) after
  refine Eq.trans ?_ written
  show continued library answers (deliver value (renderer.withFrames []) (after.leaveFrame _ frame)) = _
  rw [left]
  rfl

/-- A root that yields its last effect and then returns nothing ends the page with that effect. -/
theorem continued_of_yielded (idle : frame.IsIdle) (unlabelled : frame.token? = none)
    (generator : frame.routine.kind = .generator)
    (frames : renderer.frames = [frame.receiving reply])
    (shown : value.isTextOrNumber = true)
    (yielded : (session.withLiveFrames 1).resume library frame.routine.index reply
      = (.produced value, after))
    {kind : RoutineKind} (suspended : after.routine? frame.routine.index
      = some ⟨kind, .suspended Routine.returnNothing⟩) :
    ∃ last, continued library answers (.proceed, renderer, session)
      = some (.ofLast (Serializer.text renderer.settings.autoescape value) last) := by
  have demanded : (renderer.interpreter library answers).demandOf (tokensOf [frame]) frame.routine
      value renderer.styles after
      = (.ofText (Serializer.text renderer.settings.autoescape value), renderer.styles, after) := by
    unfold Interpreter.demandOf
    cases value with
    | text | markup | integer | float | notANumber => rfl
    | _ => cases shown
  have acted : (renderer.interpreter library answers).demandAt (tokensOf [frame]) frame.routine
      renderer.styles (.produced value, after) = _ := demanded
  rw [continued_proceed, answering_turn library answers idle reply frames,
    List.length_nil, advance_generator library answers generator, yielded, acted]
  cases Serializer.text renderer.settings.autoescape value with
  | ok text =>
      rcases Session.resume_returnNothing library
        (show (after.withLiveFrames 1).routine? _ = _ from suspended) with ⟨last, returned⟩
      have alone : (renderer.withFrames [frame]).frames = [frame.receiving (.ok .null)] := by
        rw [idle.receiving_null]
        rfl
      have ended := continued_of_returned library answers idle unlabelled generator alone returned
      have handedOut := continued_ofText library answers text (renderer.withFrames [frame]) after
      rw [ended] at handedOut
      exact ⟨last, handedOut.trans (congrArg some (Transcript.after_ofLast text last))⟩
  | error fault =>
      rcases Session.closeRoutine_of_asked library
        (show (after.withLiveFrames 0).routine? _ = _ from suspended) rfl rfl with ⟨last, closed, _⟩
      have failed := continued_failed library answers (.fault fault) (renderer.withFrames [frame]) after
      have left : after.leaveFrame renderer.context frame = after := by
        unfold Session.leaveFrame
        rw [unlabelled]
      have sync : frame.isAsyncGenerator = false := by
        unfold Frame.isAsyncGenerator
        rw [generator]
        rfl
      have closing : after.closeFrames library renderer.context [frame] = (none, [], last) := by
        simp only [Session.closeFrames, Session.closeFrame, left, sync, Bool.false_eq_true, if_false,
          List.length_nil, closed]
      refine ⟨last, failed.trans ?_⟩
      dsimp only [withFrames]
      rw [closing]
      rfl

/-- The last text of a root is written alike whether it is returned or yielded, unless it is markup:
markup that is returned is escaped where texts are, and markup that is yielded is not. Whatever came
before, the render then ends in the same way. -/
theorem ends_with_result {state : RoutineState} (idle : frame.IsIdle)
    (unlabelled : frame.token? = none) (generator : frame.routine.kind = .generator)
    (frames : renderer.frames = [frame.receiving reply])
    (found : session.routine? frame.routine.index = some ⟨.generator, state⟩)
    (shown : value.isTextOrNumber = true)
    (returned : (session.withLiveFrames 1).resume library frame.routine.index reply
      = (.returned value, after)) :
    ∃ mine yours,
      continued library answers (.proceed, renderer, session) = some mine ∧
      continued library answers (.proceed, renderer,
        session.setState frame.routine.index state.yieldingResult) = some yours ∧
      mine.failure? = yours.failure? ∧
      ((∀ content, value ≠ .markup content) → mine.texts = yours.texts) ∧
      ∀ content, value = .markup content →
        mine.texts = piecesOf (Value.pageText renderer.settings.autoescape content) ∧
          yours.texts = piecesOf content := by
  have runs : (session.withLiveFrames 1).routine? frame.routine.index = some ⟨.generator, state⟩ := found
  have yielded : ((session.setState frame.routine.index state.yieldingResult).withLiveFrames 1).resume
      library frame.routine.index reply = _ :=
    Session.resume_yieldingResult runs shown returned
  have ended := continued_of_returned library answers idle unlabelled generator frames returned
  have ends : after.hasEnded frame.routine.index = true := by
    have endedOrRefused := Session.endedOrRefused_resume library runs reply
    rw [returned] at endedOrRefused
    rcases endedOrRefused id with ends | ⟨fault, equal⟩
    · exact ends
    · cases equal
  rcases (Session.hasEnded_iff _).mp ends with ⟨kind, outcome, finished⟩
  rcases continued_of_yielded library answers idle unlabelled generator frames shown yielded
    (Session.routine?_setState_self finished _) with ⟨last, handedOut⟩
  refine ⟨_, _, ended, handedOut, ?_⟩
  cases value with
  | markup content =>
      refine ⟨rfl, fun plain => absurd rfl (plain content), ?_⟩
      rintro _ ⟨⟩
      exact ⟨rfl, rfl⟩
  | _ =>
      rw [Serializer.resultText_eq_text _ shown nofun]
      unfold Transcript.ofLast
      refine ⟨?_, ?_, nofun⟩ <;> split <;> simp

end Renderer

/-! ## Pages that are only their result -/

namespace Sample

/-- A page with no other content than what it returns. -/
def only (value : Value) : Session :=
  (Session.empty.addRoutine .generator "Only" (.finish (.ok value))).2

def onlyPage : RoutineReference := ⟨.generator, 0, "Only"⟩

def onlyStart : Renderer := .start [] { Settings.standard with autoescape := true } 0

def onlyRenderer : Renderer := onlyStart.withFrames [.of onlyPage none]

end Sample

namespace Renderer

open Sample

/-- A page that returns a number ends like the one that yields it. -/
theorem ends_with_result_number :
    ∃ mine yours,
      continued [] cancelling (.proceed, onlyRenderer, only (.integer 7)) = some mine ∧
      continued [] cancelling (.proceed, onlyRenderer, (only (.integer 7)).setState 0
        (.unstarted (Routine.yieldingResult (.finish (.ok (.integer 7)))))) = some yours ∧
      mine.failure? = yours.failure? ∧ mine.texts = yours.texts := by
  have frames : onlyRenderer.frames = [(Frame.of onlyPage none).receiving (.ok .null)] := rfl
  have found : (only (.integer 7)).routine? 0
      = some ⟨.generator, .unstarted (.finish (.ok (.integer 7)))⟩ := rfl
  rcases ends_with_result [] cancelling (Frame.isIdle_of onlyPage none) rfl rfl frames found rfl rfl with
    ⟨mine, yours, returned, yielded, failures, texts, _⟩
  exact ⟨mine, yours, returned, yielded, failures, texts nofun⟩

/-- Markup that a page returns is escaped, and markup that it yields is not. -/
theorem not_ends_alike_markup :
    (∃ last, (Run.start onlyStart (.routine onlyPage)).transcript [] cancelling (.ok .null)
      (only (.markup "<b>")) = some ⟨["&lt;b&gt;"], none, last⟩) ∧
    ∃ last, (Run.start onlyStart (.routine onlyPage)).transcript [] cancelling (.ok .null)
      ((only (.markup "<b>")).setState 0
        (.unstarted (Routine.yieldingResult (.finish (.ok (.markup "<b>"))))))
      = some ⟨["<b>"], none, last⟩ := by
  have opens (session : Session) :
      (Run.start onlyStart (.routine onlyPage)).transcript [] cancelling (.ok .null) session
        = continued [] cancelling (.proceed, onlyRenderer, session) :=
    Run.transcript_start ⟨[], cancelling, [], onlyStart.settings, 0⟩ (.routine onlyPage) session
  have frames : onlyRenderer.frames = [(Frame.of onlyPage none).receiving (.ok .null)] := rfl
  have returned : ((only (.markup "<b>")).withLiveFrames 1).resume [] 0 (.ok .null)
      = (.returned (.markup "<b>"), _) := rfl
  have yielded : (((only (.markup "<b>")).setState 0
      (.unstarted (Routine.yieldingResult (.finish (.ok (.markup "<b>")))))).withLiveFrames 1).resume
        [] 0 (.ok .null) = (.produced (.markup "<b>"), _) := rfl
  rw [opens, opens]
  have idle := Frame.isIdle_of onlyPage none
  exact ⟨⟨_, continued_of_returned [] cancelling idle rfl rfl frames returned⟩,
    continued_of_yielded [] cancelling idle rfl rfl frames rfl yielded rfl⟩

end Renderer
end HtmlStream
