import HtmlStream.Proofs.Renderer.Agreement
import HtmlStream.Proofs.Routine.Shadowing

/-!
A render of bodies that register comes to the same as the render of these bodies without their
registrations, turn by turn: a renderer looks up providers among those that were registered when it
began. The main statement is `Run.follows_resume`.
-/
namespace HtmlStream

namespace Session

theorem keptByRenders_isEntangled (origin : Session) : KeptByRenders origin.IsEntangled where
  toKeptByBodies := keptByBodies_isEntangled origin
  withLiveFrames entangled _ := entangled
  modifyContext entangled _ _ := entangled

/-- As `Follows`, of results with two parts. -/
def FollowsBoth {α β : Type} (origin : Session) (left right : α × β × Session) : Prop :=
  origin.IsEntangled left.2.2 ∨ IsAlike origin.Shadows left right

variable {α β : Type} {origin left right : Session}

theorem FollowsBoth.cases {left right : α × β × Session} (follows : FollowsBoth origin left right) :
    origin.IsEntangled left.2.2 ∨ ∃ first second leftAfter rightAfter,
      left = (first, second, leftAfter) ∧ right = (first, second, rightAfter) ∧
        origin.Shadows leftAfter rightAfter :=
  follows.imp_right IsAlike.exists

theorem FollowsBoth.of_eq {left right : α × β × Session} {first : α} {second : β}
    {leftAfter : Session} (follows : FollowsBoth origin left right)
    (came : left = (first, second, leftAfter)) :
    origin.IsEntangled leftAfter ∨
      ∃ rightAfter, right = (first, second, rightAfter) ∧ origin.Shadows leftAfter rightAfter := by
  subst came
  rcases follows.cases with entangled | ⟨_, _, _, rightAfter, ⟨⟩, onRight, after⟩
  · exact .inl entangled
  · exact .inr ⟨rightAfter, onRight, after⟩

namespace Shadows

variable (shadows : origin.Shadows left right)

include shadows

theorem followsBoth (first : α) (second : β) :
    FollowsBoth origin (first, second, left) (first, second, right) :=
  .inr ⟨rfl, rfl, shadows⟩

theorem withLiveFrames (count : Nat) :
    origin.Shadows (left.withLiveFrames count) (right.withLiveFrames count) :=
  shadows.write (Session.withLiveFrames · count)

theorem modifyContext (index : Nat) (change : RenderContext → RenderContext) :
    origin.Shadows (left.modifyContext index change) (right.modifyContext index change) :=
  shadows.write (Session.modifyContext · index change)

theorem enterFrame (context : Nat) (frame : Frame) :
    origin.Shadows (left.enterFrame context frame) (right.enterFrame context frame) := by
  unfold Session.enterFrame
  split
  · exact shadows.modifyContext context _
  · exact shadows

theorem leaveFrame (context : Nat) (frame : Frame) :
    origin.Shadows (left.leaveFrame context frame) (right.leaveFrame context frame) := by
  unfold Session.leaveFrame
  split
  · exact shadows.modifyContext context _
  · exact shadows

theorem labels_eq (renderer : Renderer) : renderer.labels right = renderer.labels left :=
  shadows.read_eq renderer.labels fun _ _ _ _ => rfl

end Shadows

variable (library : Library)

theorem follows_closeFrame (shadows : origin.Shadows left right) (frame : Frame) :
    Follows origin (left.closeFrame library frame) (right.closeFrame library.stripped frame) := by
  unfold closeFrame
  split
  · exact shadows.follows _
  · exact follows_closeRoutine library shadows frame.routine.index

theorem follows_closeFrames (shadows : origin.Shadows left right) (context : Nat)
    (frames : List Frame) :
    FollowsBoth origin (left.closeFrames library context frames)
      (right.closeFrames library.stripped context frames) := by
  induction frames generalizing left right with
  | nil => exact shadows.followsBoth none []
  | cons frame outer induction =>
      have noted := (shadows.leaveFrame context frame).withLiveFrames outer.length
      unfold closeFrames
      dsimp only
      rcases (follows_closeFrame library noted frame).cases with
        entangled | ⟨failure?, leftAfter, rightAfter, onLeft, onRight, after⟩
      · refine .inl ?_
        generalize closeFrame library frame _ = closing at entangled
        rcases closing with ⟨failure?, later⟩
        cases failure? with
        | none =>
            let readable := library.readsOnly_of_all fun _ => trivial
            exact (isAlike_closeFrames readable (keptByRenders_isEntangled origin).renderCongruence
              ⟨rfl, entangled⟩ context outer).2.2.2
        | some failure => exact entangled
      · rw [onLeft, onRight]
        cases failure? with
        | none => exact induction after
        | some failure => exact after.followsBoth _ _

end Session

namespace Renderer

open Session

variable {origin left right : Session} (shadows : origin.Shadows left right) (library : Library)
  (renderer : Renderer)

include shadows

theorem follows_writing (text : Except Fault String) :
    FollowsBoth origin (renderer.writing text left) (renderer.writing text right) := by
  unfold writing
  split <;> exact shadows.followsBoth _ _

theorem follows_writeStyle (style : Style) :
    FollowsBoth origin (renderer.writeStyle style left) (renderer.writeStyle style right) := by
  unfold writeStyle
  split
  · exact (shadows.modifyContext renderer.context _).followsBoth _ _
  · exact shadows.followsBoth _ _

theorem follows_finish (result : Value) :
    FollowsBoth origin (renderer.finish result left) (renderer.finish result right) := by
  unfold finish
  split
  · exact shadows.followsBoth _ _
  · next frame outer _ =>
      have noted := shadows.leaveFrame renderer.context frame
      unfold deliver
      split
      · exact noted.followsBoth _ _
      · exact follows_writing noted _ _

theorem follows_finishFailing (failure : Failure) :
    FollowsBoth origin (renderer.finishFailing failure left)
      (renderer.finishFailing failure right) := by
  unfold finishFailing
  split
  · exact follows_finish shadows renderer .null
  · exact shadows.followsBoth _ _

theorem follows_push (frame : Frame) :
    FollowsBoth origin (renderer.push library frame left)
      (renderer.push library.stripped frame right) := by
  unfold push
  split
  · rcases (follows_closeFrame library shadows frame).cases with
      entangled | ⟨failure?, leftAfter, rightAfter, onLeft, onRight, after⟩
    · refine .inl ?_
      generalize left.closeFrame library frame = closing at entangled
      rcases closing with ⟨failure?, later⟩
      cases failure? <;> exact entangled
    · rw [onLeft, onRight]
      cases failure? with
      | none =>
          dsimp only
          rw [after.labels_eq]
          exact after.followsBoth _ _
      | some failure => exact after.followsBoth _ _
  · exact (shadows.enterFrame renderer.context frame).followsBoth _ _

/-- Either the value stands for no body, or its body is the same one. -/
theorem frameOf?_shadows (value : Value) :
    (frameOf? value left = none ∧ frameOf? value right = none) ∨
      ∃ frame leftAfter rightAfter, frameOf? value left = some (frame, leftAfter) ∧
        frameOf? value right = some (frame, rightAfter) ∧ origin.Shadows leftAfter rightAfter := by
  cases value with
  | element identity type attributes children =>
      have added := shadows.addRoutine .generator "element"
        (Element.body ⟨identity, type, attributes, children⟩)
      rw [Element.stripped_body] at added
      rcases added.exists with ⟨body, leftAfter, rightAfter, onLeft, onRight, after⟩
      have opens (session : Session) : frameOf? (.element identity type attributes children) session
          = some (.of (session.addRoutine .generator "element"
              (Element.body ⟨identity, type, attributes, children⟩)).1 none,
            (session.addRoutine .generator "element"
              (Element.body ⟨identity, type, attributes, children⟩)).2) := rfl
      exact .inr ⟨.of body none, leftAfter, rightAfter, by rw [opens, onLeft],
        by rw [opens, onRight], after⟩
  | routine => exact .inr ⟨_, _, _, rfl, rfl, shadows⟩
  | _ => exact .inl ⟨rfl, rfl⟩

theorem follows_runProvider (token : Token) (provider : Provider) :
    FollowsBoth origin (renderer.runProvider library token provider left)
      (renderer.runProvider library.stripped token provider right) := by
  have noted := shadows.write (Session.noteRequest · token provider)
  unfold runProvider
  dsimp only
  rcases (@follows_call origin _ _ library _ _ (follows_resume origin library) noted
      provider.source []).cases with
    entangled | ⟨reply, leftAfter, rightAfter, onLeft, onRight, after⟩
  · refine .inl ?_
    generalize call library (Session.resume library) provider.source [] _ = called at entangled
    rcases called with ⟨reply, later⟩
    cases reply with
    | error failure => exact entangled
    | ok result =>
        cases result with
        | routine routine =>
            exact (keptByRenders_isEntangled origin).push library entangled renderer _
        | _ => exact entangled
  · rw [onLeft, onRight]
    cases reply with
    | error failure => exact after.followsBoth _ _
    | ok result =>
        cases result with
        | routine routine => exact follows_push after library renderer _
        | _ => exact after.followsBoth _ _

theorem follows_resolve (token : Token) :
    FollowsBoth origin (renderer.resolve library token left)
      (renderer.resolve library.stripped token right) := by
  unfold resolve
  rw [shadows.labels_eq]
  split
  · exact shadows.followsBoth _ _
  · next provider _ =>
      split
      · exact shadows.followsBoth _ _
      all_goals
        split
        · exact shadows.followsBoth _ _
        · exact follows_runProvider shadows library renderer token provider

theorem follows_handle (producer : RoutineReference) (effect : Value) :
    FollowsBoth origin (renderer.handle library producer effect left)
      (renderer.handle library.stripped producer effect right) := by
  have refused : ∀ other,
      FollowsBoth origin
        (Turn.failed (renderer.unsupportedEffect producer other left), renderer, left)
        (Turn.failed (renderer.unsupportedEffect producer other right), renderer, right) := by
    intro other
    unfold unsupportedEffect
    rw [shadows.labels_eq]
    exact shadows.followsBoth _ _
  unfold handle
  cases effect with
  | token token => exact follows_resolve shadows library renderer token
  | style style => exact follows_writeStyle shadows renderer style
  | marker role type attributes children =>
      cases role with
      | opening | closing =>
          dsimp only
          split
          · exact follows_writing shadows renderer _
          · exact shadows.followsBoth _ _
      | unspecified => exact refused _
  | null => exact shadows.followsBoth _ _
  | text | markup | integer | float | notANumber => exact follows_writing shadows renderer _
  | element identity type attributes children =>
      dsimp only
      rcases frameOf?_shadows shadows (.element identity type attributes children) with
        ⟨onLeft, onRight⟩ | ⟨frame, leftAfter, rightAfter, onLeft, onRight, after⟩
      · rw [onLeft, onRight]
        exact refused _
      · rw [onLeft, onRight]
        exact follows_push after library renderer frame
  | routine routine => exact follows_push shadows library renderer (.of routine none)
  | _ => exact refused _

theorem follows_handleWait (producer : RoutineReference) (pending : Pending) :
    FollowsBoth origin (renderer.handleWait library producer pending left)
      (renderer.handleWait library.stripped producer pending right) := by
  unfold handleWait
  split
  · exact follows_resolve shadows library renderer _
  · split <;> exact shadows.followsBoth _ _

theorem follows_react (producer : RoutineReference) (progress : Progress) :
    FollowsBoth origin (renderer.react library producer progress left)
      (renderer.react library.stripped producer progress right) := by
  cases progress with
  | produced effect => exact follows_handle shadows library renderer producer effect
  | waiting pending => exact follows_handleWait shadows library renderer producer pending
  | returned result => exact follows_finish shadows renderer result
  | raised failure => exact follows_finishFailing shadows renderer failure

theorem follows_turn :
    FollowsBoth origin (renderer.turn library left) (renderer.turn library.stripped right) := by
  unfold turn
  split
  · exact shadows.followsBoth _ _
  · next frame outer _ =>
      dsimp only
      have noted := shadows.withLiveFrames (frame.delivered :: outer).length
      split
      · exact noted.followsBoth _ _
      · rcases (Session.follows_resume origin library frame.routine.index frame.reply noted).cases
          with entangled | ⟨progress, leftAfter, rightAfter, onLeft, onRight, after⟩
        · refine .inl ?_
          generalize Session.resume library frame.routine.index frame.reply _ = resumed at entangled
          rcases resumed with ⟨progress, later⟩
          let readable := library.readsOnly_of_all fun _ => trivial
          exact (isAlike_react readable (keptByRenders_isEntangled origin).renderCongruence
            ⟨rfl, entangled⟩ _ frame.routine progress).2.2.2
        · rw [onLeft, onRight]
          exact follows_react after library _ frame.routine progress

theorem follows_afterWait (wait : Wait) (reply : Reply) :
    FollowsBoth origin (renderer.afterWait library wait reply left)
      (renderer.afterWait library.stripped wait reply right) := by
  unfold afterWait
  cases wait with
  | step generator answer =>
      cases reply with
      | ok effect => exact follows_handle shadows library renderer generator effect
      | error failure => exact follows_finishFailing shadows renderer failure
  | settle pending =>
      cases reply with
      | ok answer =>
          dsimp only
          rw [shadows.isOver_eq pending]
          exact shadows.followsBoth _ _
      | error failure =>
          cases failure with
          | raised kind message => cases kind <;> exact shadows.followsBoth _ _
          | _ => exact shadows.followsBoth _ _

end Renderer
end HtmlStream
