import HtmlStream.Proofs.Renderer.Course
import HtmlStream.Proofs.Routine.Candor

/-!
What the errors of a render tell about the context stack. Where a turn fails with a report, it is
either a blank one or has exactly the labels of the tokens that live frames provide at that moment.
The main statements are `tells_turn`, `tells_afterWait` and `IsSound.labels_eq`.
-/
namespace HtmlStream

/-- An error has the context stack given by `labels`; the label of a token that is not provided comes
after them. -/
def EngineError.Reports (labels : List String) : EngineError → Prop
  | .missingContext (.token token) stack => stack = labels ++ [token.label]
  | .contextCycle _ stack | .runtime _ stack | .depthExceeded _ _ stack => stack = labels
  | _ => False

/-- A failure that is plain or a report with a given context stack. -/
inductive Failure.Tells (labels : List String) : Failure → Prop
  | plain {failure : Failure} (plain : failure.IsPlain) : Tells labels failure
  | reports {error : EngineError} (reports : error.Reports labels) : Tells labels (.engine error)

/-- A failure that is pending for a frame is plain. -/
def Frame.IsPlain (frame : Frame) : Prop :=
  ∀ failure, frame.failure? = some failure → failure.IsPlain

theorem Frame.isPlain_reply {frame : Frame} (plain : frame.IsPlain) : Reply.IsPlain frame.reply := by
  unfold reply
  split
  · next failure pending => exact plain failure pending
  · trivial

namespace Session.IsCandid

variable {session : Session} (candid : session.IsCandid)

include candid

theorem enterFrame (context : Nat) (frame : Frame) : (session.enterFrame context frame).IsCandid := by
  unfold Session.enterFrame
  split
  · exact candid.of_eq rfl rfl
  · exact candid

theorem leaveFrame (context : Nat) (frame : Frame) : (session.leaveFrame context frame).IsCandid := by
  unfold Session.leaveFrame
  split
  · exact candid.of_eq rfl rfl
  · exact candid

variable {library : Library} (candidLibrary : library.IsCandid)

include candidLibrary

theorem closeFrame (frame : Frame) :
    (∀ failure, (session.closeFrame library frame).1 = some failure → failure.IsPlain) ∧
      (session.closeFrame library frame).2.IsCandid := by
  unfold Session.closeFrame
  split
  · exact ⟨nofun, candid⟩
  · exact candid_close (keepsCandor_resume candidLibrary) candid frame.routine.index

theorem closeFrames (context : Nat) (frames : List Frame) :
    (∀ failure, (session.closeFrames library context frames).1 = some failure → failure.IsPlain) ∧
      (session.closeFrames library context frames).2.2.IsCandid := by
  induction frames generalizing session with
  | nil => exact ⟨nofun, candid⟩
  | cons frame outer induction =>
      have left : ((session.leaveFrame context frame).withLiveFrames outer.length).IsCandid :=
        (candid.leaveFrame context frame).of_eq rfl rfl
      obtain ⟨plain, closed⟩ := left.closeFrame candidLibrary frame
      unfold Session.closeFrames
      dsimp only
      generalize Session.closeFrame library frame _ = closing at plain closed
      rcases closing with ⟨failure?, after⟩
      cases failure? with
      | none => exact induction closed
      | some failure => exact ⟨plain, closed⟩

end Session.IsCandid

namespace Renderer

/-- No other failures are pending than plain ones. -/
def IsPlain (renderer : Renderer) : Prop :=
  ∀ frame ∈ renderer.frames, Frame.IsPlain frame

/-- After a turn all bodies are candid, and a failure of the turn is plain or reports the tokens that
the render resolves. -/
structure Tells (turned : Turned) : Prop where
  candid : turned.2.2.IsCandid
  plain : turned.2.1.IsPlain
  told : ∀ failure, turned.1 = .failed failure →
    failure.Tells (turned.2.1.labels turned.2.2)

variable {library : Library} {renderer : Renderer} {session : Session} {frame : Frame}
  {outer : List Frame} (candidLibrary : library.IsCandid) (candid : session.IsCandid)
  (plain : renderer.IsPlain)

/-! ## Frames -/

theorem isPlain_of_cons (frames : renderer.frames = frame :: outer) (plain : renderer.IsPlain) :
    frame.IsPlain ∧ ∀ other ∈ outer, Frame.IsPlain other := by
  unfold IsPlain at plain
  rw [frames] at plain
  exact List.forall_mem_cons.mp plain

include plain

theorem isPlain_answer (value : Value) : (renderer.answer value).IsPlain := by
  unfold answer
  split
  · next frames =>
      obtain ⟨first, rest⟩ := isPlain_of_cons frames plain
      exact List.forall_mem_cons.mpr ⟨first, rest⟩
  · exact plain

theorem isPlain_interrupt {failure : Failure} (raised : failure.IsPlain) :
    (renderer.interrupt failure).IsPlain := by
  unfold interrupt
  split
  · next frames =>
      refine List.forall_mem_cons.mpr ⟨?_, (isPlain_of_cons frames plain).2⟩
      rintro other equal
      cases equal
      exact raised
  · exact plain

include candid

/-! ## Acting on effects -/

theorem tells_of_unfailing {turn : Turn} (unfailing : ∀ failure, turn ≠ .failed failure) :
    Tells (turn, renderer, session) :=
  ⟨candid, plain, fun failure failed => absurd failed (unfailing failure)⟩

theorem tells_of_goesOn {turn : Turn} (going : turn.GoesOn) : Tells (turn, renderer, session) := by
  apply tells_of_unfailing candid plain
  rintro failure rfl
  exact going

theorem tells_of_plain {failure : Failure} (raised : failure.IsPlain) :
    Tells (.failed failure, renderer, session) where
  candid
  plain
  told other equal := by
    cases equal
    exact .plain raised

theorem tells_of_reports {error : EngineError} (reports : error.Reports (renderer.labels session)) :
    Tells (.failed (.engine error), renderer, session) where
  candid
  plain
  told other equal := by
    cases equal
    exact .reports reports

theorem tells_writing (text : Except Fault String) : Tells (renderer.writing text session) := by
  unfold writing
  split
  · exact tells_of_goesOn candid plain (Turn.goesOn_ofText _)
  · exact tells_of_plain candid plain trivial

theorem tells_writeStyle (style : Style) : Tells (renderer.writeStyle style session) := by
  unfold writeStyle
  split
  · next block styles _ =>
      have counted : (session.countStyle renderer.context).IsCandid := candid.of_eq rfl rfl
      have styled : (renderer.withStyles styles).IsPlain := plain
      exact tells_of_goesOn counted styled (Turn.goesOn_ofText block)
  · next styles _ =>
      have styled : (renderer.withStyles styles).IsPlain := plain
      exact tells_of_unfailing candid styled nofun

theorem tells_finish (value : Value) : Tells (renderer.finish value session) := by
  unfold finish
  split
  · exact tells_of_unfailing candid plain nofun
  · next frame outer frames =>
      have left := candid.leaveFrame renderer.context frame
      have rest : (renderer.withFrames outer).IsPlain := (isPlain_of_cons frames plain).2
      unfold deliver
      split
      · exact tells_of_unfailing left (isPlain_answer rest value) nofun
      · exact tells_writing left rest _

theorem tells_finishFailing {failure : Failure} (raised : failure.IsPlain) :
    Tells (renderer.finishFailing failure session) := by
  unfold finishFailing
  split
  · exact tells_finish candid plain .null
  · exact tells_of_plain candid plain raised

theorem tells_unsupportedEffect (producer : RoutineReference) (effect : Value) :
    Tells (.failed (renderer.unsupportedEffect producer effect session), renderer, session) := by
  unfold unsupportedEffect
  split
  · exact tells_of_reports candid plain rfl
  · exact tells_of_plain candid plain trivial

include candidLibrary

theorem tells_push {inner : Frame} (idle : inner.failure? = none) :
    Tells (renderer.push library inner session) := by
  unfold push
  split
  · obtain ⟨raised, closed⟩ := candid.closeFrame candidLibrary inner
    generalize session.closeFrame library inner = closing at raised closed
    rcases closing with ⟨failure?, after⟩
    cases failure? with
    | none => exact tells_of_reports closed plain rfl
    | some failure => exact tells_of_plain closed plain (raised failure rfl)
  · refine tells_of_unfailing (candid.enterFrame _ inner) ?_ nofun
    exact List.forall_mem_cons.mpr ⟨fun failure pending => by simp [idle] at pending, plain⟩

theorem tells_runProvider (token : Token) (provider : Provider) :
    Tells (renderer.runProvider library token provider session) := by
  unfold runProvider
  extract_lets noted
  have notedCandid : noted.IsCandid := candid.of_eq rfl rfl
  obtain ⟨raised, called⟩ := Session.candidly_call candidLibrary
    (Session.keepsCandor_resume candidLibrary) notedCandid provider.source []
  generalize noted.call library (Session.resume library) provider.source [] = result
    at raised called ⊢
  rcases result with ⟨reply, after⟩
  cases reply with
  | error failure => exact tells_of_plain called plain raised
  | ok value =>
      cases value with
      | routine body => exact tells_push candidLibrary called plain rfl
      | _ => exact tells_of_plain called plain nofun

theorem tells_resolve (token : Token) : Tells (renderer.resolve library token session) := by
  unfold resolve
  split
  · exact tells_of_reports candid plain rfl
  · next provider _ =>
      split
      · exact tells_of_unfailing candid (isPlain_answer plain provider.source) nofun
      all_goals
        split
        · exact tells_of_reports candid plain rfl
        · exact tells_runProvider candidLibrary candid plain token provider

theorem tells_handleWait (producer : RoutineReference) (pending : Pending) :
    Tells (renderer.handleWait library producer pending session) := by
  unfold handleWait
  split
  · exact tells_resolve candidLibrary candid plain _
  · split
    · exact tells_of_unfailing candid plain nofun
    · exact tells_of_plain candid plain trivial

theorem tells_handle (producer : RoutineReference) (effect : Value) :
    Tells (renderer.handle library producer effect session) := by
  unfold handle
  cases effect with
  | token token => exact tells_resolve candidLibrary candid plain token
  | style style => exact tells_writeStyle candid plain style
  | marker role type attributes children =>
      cases role with
      | opening | closing =>
          dsimp only
          split
          · exact tells_writing candid plain _
          · exact tells_of_unfailing candid plain nofun
      | unspecified => exact tells_unsupportedEffect candid plain producer _
  | null => exact tells_of_unfailing candid plain nofun
  | text | markup | integer | float | notANumber => exact tells_writing candid plain _
  | element identity type attributes children =>
      exact tells_push candidLibrary
        (candid.addRoutine .generator "element" (Element.isCandid_body _)) plain rfl
  | routine reference => exact tells_push candidLibrary candid plain rfl
  | _ => exact tells_unsupportedEffect candid plain producer _

theorem tells_react (producer : RoutineReference) {progress : Progress}
    (came : progress.IsPlain) : Tells (renderer.react library producer progress session) := by
  cases progress with
  | produced effect => exact tells_handle candidLibrary candid plain producer effect
  | waiting pending => exact tells_handleWait candidLibrary candid plain producer pending
  | returned value => exact tells_finish candid plain value
  | raised failure => exact tells_finishFailing candid plain came

/-! ## Turns -/

theorem tells_turn : Tells (renderer.turn library session) := by
  unfold turn
  split
  · exact tells_of_unfailing candid plain nofun
  · next frame outer frames =>
      obtain ⟨first, rest⟩ := isPlain_of_cons frames plain
      have quiet : (renderer.withFrames (frame.delivered :: outer)).IsPlain :=
        List.forall_mem_cons.mpr ⟨nofun, rest⟩
      have noted : (session.withLiveFrames (outer.length + 1)).IsCandid := candid.of_eq rfl rfl
      dsimp only
      split
      · exact tells_of_unfailing noted quiet nofun
      · obtain ⟨came, after⟩ := Session.keepsCandor_resume candidLibrary frame.routine.index
          (Frame.isPlain_reply first) noted
        exact tells_react candidLibrary after quiet frame.routine came

theorem tells_afterWait (wait : Wait) {reply : Reply} (answered : Reply.IsPlain reply) :
    Tells (renderer.afterWait library wait reply session) := by
  unfold afterWait
  split
  · exact tells_handle candidLibrary candid plain _ _
  · exact tells_finishFailing candid plain answered
  · refine tells_of_unfailing candid ?_ nofun
    split
    · exact plain
    · exact isPlain_interrupt plain trivial
  · next message =>
      have raised : (Failure.raised .cancelled message).IsPlain := trivial
      exact tells_of_unfailing candid (isPlain_interrupt plain raised) nofun
  · exact tells_of_plain candid plain answered

theorem tells_opening (root : Value) : Tells (renderer.opening library root session) := by
  unfold opening
  cases root with
  | element identity type attributes children =>
      exact tells_push candidLibrary
        (candid.addRoutine .generator "element" (Element.isCandid_body _)) plain rfl
  | routine reference => exact tells_push candidLibrary candid plain rfl
  | _ => exact tells_of_plain candid plain nofun

omit candidLibrary candid plain in
/-- The labels that a sound render reports are those of the tokens that its live frames provide. -/
theorem IsSound.labels_eq {start : Renderer} {labels : List String} {turned : Turned}
    (sound : IsSound start labels turned) :
    turned.2.1.labels turned.2.2 = labels ++ labelsOf turned.2.1.frames := by
  have context : turned.2.1.context = start.context :=
    congrArg (fun given => given.2.2) sound.given_eq
  have stack := sound.stack
  rw [← context] at stack
  exact congrArg (Option.getD · []) stack

end Renderer
end HtmlStream
