import HtmlStream.Proofs.Renderer.Streaming
import HtmlStream.Proofs.Routine.Congruence

/-!
What a render does from sessions that its bodies cannot tell apart. If a renderer cannot tell them
apart either, it comes to the same from both, turn by turn and step by step. Nothing depends on the
log, so this holds of sessions that agree on everything else. The main statement is `isAlike_resume`.
-/
namespace HtmlStream

/-- Two results are equal, and the sessions that they come with are related. -/
def IsAlike {α β : Type} (alike : Session → Session → Prop) (left right : α × β × Session) : Prop :=
  left.1 = right.1 ∧ left.2.1 = right.2.1 ∧ alike left.2.2 right.2.2

theorem IsAlike.exists {α β : Type} {alike : Session → Session → Prop}
    {left right : α × β × Session} (same : IsAlike alike left right) :
    ∃ first second leftAfter rightAfter, left = (first, second, leftAfter) ∧
      right = (first, second, rightAfter) ∧ alike leftAfter rightAfter := by
  rcases left with ⟨first, second, leftAfter⟩
  rcases right with ⟨other, another, rightAfter⟩
  rcases same with ⟨rfl, rfl, sameAfter⟩
  exact ⟨first, second, leftAfter, rightAfter, rfl, rfl, sameAfter⟩

namespace Session

/-- A relation of sessions that bodies cannot tell apart, kept by whatever a renderer writes as
well. A renderer reads the context stack. -/
structure RenderCongruence (fields : ContextField → Prop) (alike : Session → Session → Prop) :
    Prop extends Congruence fields alike where
  readsStack : fields .contextStack
  withLiveFrames : ∀ {left right}, alike left right → ∀ count,
    alike (left.withLiveFrames count) (right.withLiveFrames count)
  modifyContext : ∀ {left right}, alike left right → ∀ index change,
    (∀ {context other : RenderContext}, context.LooksLike fields other →
      (change context).LooksLike fields (change other)) →
    alike (left.modifyContext index change) (right.modifyContext index change)

theorem AgreesWith.diagnose {left right : Session} (agree : left.AgreesWith right)
    (source : LogSource) (first second : String) :
    (left.diagnose source first).AgreesWith (right.diagnose source second) := by
  rcases agree with ⟨events, rfl⟩
  exact ⟨.diagnostic source second :: events, rfl⟩

variable {fields : ContextField → Prop} {alike : Session → Session → Prop} {left right : Session}
  {library : Library}

namespace RenderCongruence

variable (congruence : RenderCongruence fields alike)

include congruence

theorem enterFrame (same : alike left right) (context : Nat) (frame : Frame) :
    alike (left.enterFrame context frame) (right.enterFrame context frame) := by
  unfold Session.enterFrame
  split
  · refine congruence.modifyContext same context _ fun looks =>
      { looks with contextStack := fun shown => ?_ }
    rw [looks.contextStack shown]
  · exact same

theorem leaveFrame (same : alike left right) (context : Nat) (frame : Frame) :
    alike (left.leaveFrame context frame) (right.leaveFrame context frame) := by
  unfold Session.leaveFrame
  split
  · refine congruence.modifyContext same context _ fun looks =>
      { looks with contextStack := fun shown => ?_ }
    rw [looks.contextStack shown]
  · exact same

theorem countStyle (same : alike left right) (context : Nat) :
    alike (left.countStyle context) (right.countStyle context) := by
  refine congruence.modifyContext same context _ fun looks =>
    { looks with stylesEmitted := fun shown => ?_ }
  rw [looks.stylesEmitted shown]

theorem labels_eq (same : alike left right) (renderer : Renderer) :
    renderer.labels right = renderer.labels left := by
  have look := congruence.contexts same renderer.context
  unfold Renderer.labels
  generalize left.context? renderer.context = context?,
    right.context? renderer.context = other? at look
  cases look with
  | none => rfl
  | some looks => exact looks.contextStack congruence.readsStack

end RenderCongruence

variable (readable : library.ReadsOnly fields) (congruence : RenderCongruence fields alike)

include readable congruence

theorem after_closeFrame (same : alike left right) (frame : Frame) :
    After alike (left.closeFrame library frame) (right.closeFrame library frame) := by
  unfold closeFrame
  split
  · exact ⟨rfl, same⟩
  · exact after_closeRoutine readable congruence.toCongruence same frame.routine.index

theorem isAlike_closeFrames (same : alike left right) (context : Nat)
    (frames : List Frame) :
    IsAlike alike (left.closeFrames library context frames)
      (right.closeFrames library context frames) := by
  induction frames generalizing left right with
  | nil => exact ⟨rfl, rfl, same⟩
  | cons frame outer induction =>
      have noted := congruence.withLiveFrames (congruence.leaveFrame same context frame)
        outer.length
      rcases (after_closeFrame readable congruence noted frame).exists with
        ⟨failure?, leftAfter, rightAfter, onLeft, onRight, sameAfter⟩
      unfold closeFrames
      dsimp only
      rw [onLeft, onRight]
      cases failure? with
      | none => exact induction sameAfter
      | some failure => exact ⟨rfl, rfl, sameAfter⟩

end Session

namespace Renderer

open Session

variable {fields : ContextField → Prop} {alike : Session → Session → Prop} {left right : Session}
  {library : Library} (readable : library.ReadsOnly fields)
  (congruence : RenderCongruence fields alike) (same : alike left right) (renderer : Renderer)

include same

theorem isAlike_writing (text : Except Fault String) :
    IsAlike alike (renderer.writing text left) (renderer.writing text right) := by
  unfold writing
  split <;> exact ⟨rfl, rfl, same⟩

include congruence

theorem isAlike_writeStyle (style : Style) :
    IsAlike alike (renderer.writeStyle style left) (renderer.writeStyle style right) := by
  unfold writeStyle
  split
  · exact ⟨rfl, rfl, congruence.countStyle same renderer.context⟩
  · exact ⟨rfl, rfl, same⟩

theorem isAlike_finish (result : Value) :
    IsAlike alike (renderer.finish result left) (renderer.finish result right) := by
  unfold finish
  split
  · exact ⟨rfl, rfl, same⟩
  · next frame outer _ =>
      have noted := congruence.leaveFrame same renderer.context frame
      unfold deliver
      split
      · exact ⟨rfl, rfl, noted⟩
      · exact isAlike_writing noted _ _

theorem isAlike_finishFailing (failure : Failure) :
    IsAlike alike (renderer.finishFailing failure left)
      (renderer.finishFailing failure right) := by
  unfold finishFailing
  split
  · exact isAlike_finish congruence same renderer .null
  · exact ⟨rfl, rfl, same⟩

/-- Either the value stands for no body, or its body is the same one. -/
theorem frameOf?_alike (value : Value) :
    (frameOf? value left = none ∧ frameOf? value right = none) ∨
      ∃ frame leftAfter rightAfter, frameOf? value left = some (frame, leftAfter) ∧
        frameOf? value right = some (frame, rightAfter) ∧ alike leftAfter rightAfter := by
  cases value with
  | element identity type attributes children =>
      have added := congruence.addRoutine same .generator "element"
        (Element.readsOnly_body ⟨identity, type, attributes, children⟩)
      rcases added.exists with ⟨body, leftAfter, rightAfter, onLeft, onRight, sameAfter⟩
      have opens (session : Session) : frameOf? (.element identity type attributes children) session
          = some (.of (session.addRoutine .generator "element"
              (Element.body ⟨identity, type, attributes, children⟩)).1 none,
            (session.addRoutine .generator "element"
              (Element.body ⟨identity, type, attributes, children⟩)).2) := rfl
      exact .inr ⟨.of body none, leftAfter, rightAfter, by rw [opens, onLeft],
        by rw [opens, onRight], sameAfter⟩
  | routine => exact .inr ⟨_, _, _, rfl, rfl, same⟩
  | _ => exact .inl ⟨rfl, rfl⟩

include readable

theorem isAlike_push (frame : Frame) :
    IsAlike alike (renderer.push library frame left) (renderer.push library frame right) := by
  unfold push
  split
  · rcases (after_closeFrame readable congruence same frame).exists with
      ⟨failure?, leftAfter, rightAfter, onLeft, onRight, sameAfter⟩
    rw [onLeft, onRight]
    cases failure? with
    | none =>
        dsimp only
        rw [congruence.labels_eq sameAfter]
        exact ⟨rfl, rfl, sameAfter⟩
    | some failure => exact ⟨rfl, rfl, sameAfter⟩
  · exact ⟨rfl, rfl, congruence.enterFrame same renderer.context frame⟩

theorem isAlike_runProvider (token : Token) (provider : Provider) :
    IsAlike alike (renderer.runProvider library token provider left)
      (renderer.runProvider library token provider right) := by
  have noted : alike (left.noteRequest token provider) (right.noteRequest token provider) :=
    congruence.record same _
  rcases (after_call readable congruence.toCongruence
    (after_resume readable congruence.toCongruence) noted provider.source []).exists
    with ⟨reply, leftAfter, rightAfter, onLeft, onRight, sameAfter⟩
  unfold runProvider
  dsimp only
  rw [onLeft, onRight]
  cases reply with
  | error failure => exact ⟨rfl, rfl, sameAfter⟩
  | ok result =>
      cases result with
      | routine routine => exact isAlike_push readable congruence sameAfter renderer _
      | _ => exact ⟨rfl, rfl, sameAfter⟩

theorem isAlike_resolve (token : Token) :
    IsAlike alike (renderer.resolve library token left)
      (renderer.resolve library token right) := by
  unfold resolve
  rw [congruence.labels_eq same]
  split
  · exact ⟨rfl, rfl, same⟩
  · next provider _ =>
      split
      · exact ⟨rfl, rfl, same⟩
      all_goals
        split
        · exact ⟨rfl, rfl, same⟩
        · exact isAlike_runProvider readable congruence same renderer token provider

theorem isAlike_handle (producer : RoutineReference) (effect : Value) :
    IsAlike alike (renderer.handle library producer effect left)
      (renderer.handle library producer effect right) := by
  have skipped : ∀ turn : Turn, IsAlike alike (turn, renderer, left) (turn, renderer, right) :=
    fun _ => ⟨rfl, rfl, same⟩
  have refused : ∀ other,
      IsAlike alike (Turn.failed (renderer.unsupportedEffect producer other left), renderer, left)
        (Turn.failed (renderer.unsupportedEffect producer other right), renderer, right) := by
    intro other
    unfold unsupportedEffect
    rw [congruence.labels_eq same]
    exact skipped _
  unfold handle
  cases effect with
  | token token => exact isAlike_resolve readable congruence same renderer token
  | style style => exact isAlike_writeStyle congruence same renderer style
  | marker role type attributes children =>
      cases role with
      | opening | closing =>
          dsimp only
          split
          · exact isAlike_writing same renderer _
          · exact skipped .proceed
      | unspecified => exact refused _
  | null => exact skipped .proceed
  | text | markup | integer | float | notANumber => exact isAlike_writing same renderer _
  | element identity type attributes children =>
      dsimp only
      rcases frameOf?_alike congruence same (.element identity type attributes children) with
        ⟨onLeft, onRight⟩ | ⟨frame, leftAfter, rightAfter, onLeft, onRight, sameAfter⟩
      · rw [onLeft, onRight]
        exact refused _
      · rw [onLeft, onRight]
        exact isAlike_push readable congruence sameAfter renderer frame
  | routine routine => exact isAlike_push readable congruence same renderer (.of routine none)
  | _ => exact refused _

theorem isAlike_handleWait (producer : RoutineReference) (pending : Pending) :
    IsAlike alike (renderer.handleWait library producer pending left)
      (renderer.handleWait library producer pending right) := by
  unfold handleWait
  split
  · exact isAlike_resolve readable congruence same renderer _
  · split <;> exact ⟨rfl, rfl, same⟩

theorem isAlike_react (producer : RoutineReference) (progress : Progress) :
    IsAlike alike (renderer.react library producer progress left)
      (renderer.react library producer progress right) := by
  cases progress with
  | produced effect => exact isAlike_handle readable congruence same renderer producer effect
  | waiting pending => exact isAlike_handleWait readable congruence same renderer producer pending
  | returned result => exact isAlike_finish congruence same renderer result
  | raised failure => exact isAlike_finishFailing congruence same renderer failure

theorem isAlike_turn :
    IsAlike alike (renderer.turn library left) (renderer.turn library right) := by
  unfold turn
  split
  · exact ⟨rfl, rfl, same⟩
  · next frame outer _ =>
      dsimp only
      have noted := congruence.withLiveFrames same (frame.delivered :: outer).length
      split
      · exact ⟨rfl, rfl, noted⟩
      · rcases (after_resume readable congruence.toCongruence frame.routine.index
          frame.reply noted).exists with
          ⟨progress, leftAfter, rightAfter, onLeft, onRight, sameAfter⟩
        rw [onLeft, onRight]
        exact isAlike_react readable congruence sameAfter _ frame.routine progress

theorem isAlike_afterWait (wait : Wait) (reply : Reply) :
    IsAlike alike (renderer.afterWait library wait reply left)
      (renderer.afterWait library wait reply right) := by
  unfold afterWait
  cases wait with
  | step generator answer =>
      cases reply with
      | ok effect => exact isAlike_handle readable congruence same renderer generator effect
      | error failure => exact isAlike_finishFailing congruence same renderer failure
  | settle pending =>
      cases reply with
      | ok answer =>
          dsimp only
          rw [congruence.read_eq same (isOver · pending) fun _ _ _ => rfl]
          exact ⟨rfl, rfl, same⟩
      | error failure =>
          cases failure with
          | raised kind message => cases kind <;> exact ⟨rfl, rfl, same⟩
          | _ => exact ⟨rfl, rfl, same⟩

/-- Waits that are answered alike change nothing about this. -/
theorem isAlike_answering {answers : LoopAnswers}
    (answersAlike : ∀ wait {left right}, alike left right →
      After alike (answers wait left) (answers wait right)) :
    IsAlike alike (answering library answers (renderer.turn library left))
      (answering library answers (renderer.turn library right)) := by
  rcases (isAlike_turn readable congruence same renderer).exists with
    ⟨turn, next, leftAfter, rightAfter, onLeft, onRight, sameAfter⟩
  rw [onLeft, onRight]
  cases turn with
  | wait wait =>
      rcases (answersAlike wait sameAfter).exists with
        ⟨reply, leftAnswered, rightAnswered, onLeft, onRight, sameAnswered⟩
      unfold answering
      dsimp only
      rw [onLeft, onRight]
      exact isAlike_afterWait readable congruence sameAnswered next wait reply
  | _ => exact ⟨rfl, rfl, sameAfter⟩

omit same in
/-- The induction is on the turns that follow one another; a render takes only so many of them. -/
theorem isAlike_takeTurns {renderer : Renderer} (ready : AreReady renderer.frames)
    {left right : Session} (same : alike left right) :
    IsAlike alike (renderer.takeTurns library left) (renderer.takeTurns library right) := by
  have proceeds := acc_proceeds library ready left
  generalize position : (renderer, left) = before at proceeds
  induction proceeds generalizing renderer left right with
  | intro _ _ induction =>
      subst position
      rcases (isAlike_turn readable congruence same renderer).exists with
        ⟨turn, next, leftAfter, rightAfter, onLeft, onRight, sameAfter⟩
      rw [takeTurns.eq_1, takeTurns.eq_1 library renderer right, onLeft, onRight]
      cases turn with
      | proceed =>
          have leads : LeadsTo library cancelling (next, leftAfter) (renderer, left) :=
            leadsTo_of_turn library onLeft trivial
          exact induction _ onLeft (leads.areReady library ready) sameAfter rfl
      | _ => exact ⟨rfl, rfl, sameAfter⟩

end Renderer

namespace Run

open Renderer Session

variable {fields : ContextField → Prop} {alike : Session → Session → Prop} {left right : Session}
  {library : Library} (readable : library.ReadsOnly fields)
  (congruence : RenderCongruence fields alike)

include readable congruence

theorem isAlike_close (same : alike left right) (run : Run) :
    IsAlike alike (run.close library left) (run.close library right) := by
  rcases (isAlike_closeFrames readable congruence same run.renderer.context
    run.renderer.frames).exists with
    ⟨failure?, frames, leftAfter, rightAfter, onLeft, onRight, sameAfter⟩
  unfold close closeFrames
  rw [onLeft, onRight]
  exact ⟨rfl, rfl, sameAfter⟩

theorem isAlike_abort (same : alike left right) (failure : Failure) (renderer : Renderer) :
    IsAlike alike (abort library failure renderer left)
      (abort library failure renderer right) := by
  rcases (isAlike_close readable congruence same ⟨renderer, .over⟩).exists with
    ⟨closing, run, leftAfter, rightAfter, onLeft, onRight, sameAfter⟩
  unfold close at onLeft onRight
  unfold abort
  rw [onLeft, onRight]
  exact ⟨rfl, rfl, sameAfter⟩

theorem isAlike_proceed {first second : Turned} (turns : IsAlike alike first second)
    (ready : first.1.GoesOn → AreReady first.2.1.frames) :
    IsAlike alike (proceed library first) (proceed library second) := by
  rcases turns.exists with ⟨turn, renderer, left, right, rfl, rfl, same⟩
  have pauses : ∀ turn renderer {left right : Session}, alike left right →
      turn ≠ Turn.proceed →
      IsAlike alike (proceed library (turn, renderer, left))
        (proceed library (turn, renderer, right)) := by
    intro turn renderer left right same paused
    cases turn with
    | proceed => exact absurd rfl paused
    | failed failure => exact isAlike_abort readable congruence same failure renderer
    | _ => exact ⟨rfl, rfl, same⟩
  cases turn with
  | proceed =>
      rcases (isAlike_takeTurns readable congruence (ready trivial) same).exists with
        ⟨turn, next, leftAfter, rightAfter, onLeft, onRight, sameAfter⟩
      unfold proceed
      dsimp only
      rw [onLeft, onRight]
      cases turn with
      | failed failure => exact isAlike_abort readable congruence sameAfter failure next
      | _ => exact ⟨rfl, rfl, sameAfter⟩
  | _ => exact pauses _ renderer same (fun equal => by cases equal)

/-- A run that can be driven on without an answer comes to the same step. -/
theorem isAlike_resume {context : Nat} {run : Run} (can : CanStream context run)
    (same : alike left right) :
    IsAlike alike (run.resume library (.ok .null) left)
      (run.resume library (.ok .null) right) := by
  cases can with
  | start renderer root empty _ =>
      show IsAlike alike (begin library root renderer left) (begin library root renderer right)
      unfold begin
      rcases frameOf?_alike congruence same root with
        ⟨onLeft, onRight⟩ | ⟨frame, leftAfter, rightAfter, onLeft, onRight, sameAfter⟩
      · rw [onLeft, onRight]
        exact ⟨rfl, rfl, same⟩
      · rw [onLeft, onRight]
        exact isAlike_proceed readable congruence
          (isAlike_push readable congruence sameAfter renderer frame)
          (areReady_push library empty (isIdle_frameOf onLeft))
  | resume renderer ready _ =>
      have turns : IsAlike alike (Turn.proceed, renderer, left) (Turn.proceed, renderer, right) :=
        ⟨rfl, rfl, same⟩
      exact isAlike_proceed readable congruence turns fun _ => ready

end Run

/-! ## Properties of single sessions -/

namespace Session

/-- Nothing that bodies or renderers write has a part in a property of sessions. -/
structure KeptByRenders (property : Session → Prop) : Prop extends KeptByBodies property where
  withLiveFrames : ∀ {session}, property session → ∀ count, property (session.withLiveFrames count)
  modifyContext : ∀ {session}, property session → ∀ index change,
    property (session.modifyContext index change)

namespace KeptByRenders

open Renderer Run

variable {property : Session → Prop} (kept : KeptByRenders property) {session : Session}
  (library : Library) (holds : property session)

include kept

theorem renderCongruence : RenderCongruence (fun _ => True) (Diagonal property) where
  toCongruence := kept.toKeptByBodies.congruence
  readsStack := trivial
  withLiveFrames same count := ⟨by rw [same.1], kept.withLiveFrames same.2 count⟩
  modifyContext same index change _ := ⟨by rw [same.1], kept.modifyContext same.2 index change⟩

include holds

theorem turn (renderer : Renderer) : property (renderer.turn library session).2.2 :=
  let readable := library.readsOnly_of_all fun _ => trivial
  (isAlike_turn readable kept.renderCongruence ⟨rfl, holds⟩ renderer).2.2.2

theorem push (renderer : Renderer) (frame : Frame) :
    property (renderer.push library frame session).2.2 :=
  let readable := library.readsOnly_of_all fun _ => trivial
  (isAlike_push readable kept.renderCongruence ⟨rfl, holds⟩ renderer frame).2.2.2

theorem close (run : Run) : property (run.close library session).2.2 :=
  let readable := library.readsOnly_of_all fun _ => trivial
  (isAlike_close readable kept.renderCongruence ⟨rfl, holds⟩ run).2.2.2

theorem resumeRun {context : Nat} {run : Run} (can : CanStream context run) :
    property (run.resume library (.ok .null) session).2.2 :=
  let readable := library.readsOnly_of_all fun _ => trivial
  (isAlike_resume readable kept.renderCongruence can ⟨rfl, holds⟩).2.2.2

end KeptByRenders
end Session
end HtmlStream
