import HtmlStream.Proofs.Renderer.Driving
import HtmlStream.Proofs.Renderer.Streaming
import Mathlib

/-!
Unlimited renders. An unlimited render is one that always has room for another frame. What a turn is
to do does not depend on how much room there is; only the opening of a frame does. The main
statements are `exists_intent_of_turn` and `texts_prefix_of_endsUnlimited`.
-/
namespace HtmlStream

/-! ## Renders with any largest depth -/

def Settings.withDepth (settings : Settings) (depth : Nat) (positive : 0 < depth) : Settings :=
  { settings with maxDepth := depth, maxDepth_pos := positive }

namespace Renderer

def withDepth (renderer : Renderer) (depth : Nat) (positive : 0 < depth) : Renderer :=
  { renderer with settings := renderer.settings.withDepth depth positive }

/-- The renderer with room for one more frame, however many there are. -/
def withRoom (renderer : Renderer) : Renderer :=
  renderer.withDepth (renderer.frames.length + 1) (Nat.succ_pos _)

section

variable (library : Library) (answers : LoopAnswers)

/-- The next turn of an unlimited render, after the texts that it has handed out. A render that has
ended takes no more turns. -/
def goOnFreely : List String × Turned → List String × Turned
  | (texts, .proceed, renderer, session) =>
      (texts, answering library answers (renderer.withRoom.turn library session))
  | (texts, .chunk text, renderer, session) => (texts ++ [text], .proceed, renderer, session)
  | ended => ended

variable (start : Renderer) (root : Value) (session : Session)

/-- The first turns of an unlimited render: the texts that it has handed out before the last of
them, and what that came to. -/
def unlimited : Nat → List String × Turned
  | 0 => ([], start.withRoom.opening library root session)
  | turns + 1 => goOnFreely library answers (unlimited turns)

/-- The largest number of frames that are live at once in the unlimited render. -/
noncomputable def peak : ℕ∞ :=
  ⨆ turns, ((unlimited library answers start root session turns).2.2.1.frames.length : ℕ∞)

/-- How the unlimited render ends: the texts that it has handed out, and the failure that ended it
if one did. -/
inductive EndsUnlimited : List String → Option Failure → Prop
  | finishes {turns : Nat} {texts : List String} {renderer : Renderer} {last : Session}
      (reached : unlimited library answers start root session turns
        = (texts, .finished, renderer, last)) :
      EndsUnlimited texts none
  | fails {turns : Nat} {texts : List String} {renderer : Renderer} {last : Session}
      {failure : Failure}
      (reached : unlimited library answers start root session turns
        = (texts, .failed failure, renderer, last)) :
      EndsUnlimited texts
        (some ((last.closeFrames library renderer.context renderer.frames).1.getD failure))

variable {library answers start root session}

theorem unlimited_succ_of_proceed {turns : Nat} {texts : List String} {renderer : Renderer}
    {between : Session}
    (reached : unlimited library answers start root session turns
      = (texts, .proceed, renderer, between)) :
    unlimited library answers start root session (turns + 1)
      = (texts, answering library answers (renderer.withRoom.turn library between)) := by
  rw [unlimited, reached]
  rfl

theorem unlimited_succ_of_chunk {turns : Nat} {texts : List String} {text : String}
    {renderer : Renderer} {between : Session}
    (reached : unlimited library answers start root session turns
      = (texts, .chunk text, renderer, between)) :
    unlimited library answers start root session (turns + 1)
      = (texts ++ [text], .proceed, renderer, between) := by
  rw [unlimited, reached]
  rfl

end

open Run

variable {library : Library} {answers : LoopAnswers}

/-! ## Turns with any largest depth -/

/-- What a render comes to, whatever its largest depth is: a turn that the depth has no part in, or
a frame that is to be opened. -/
inductive Intent where
  | settles (turned : Turned)
  | opens (frame : Frame) (renderer : Renderer) (session : Session)

namespace Intent

/-- The frames that are live while nothing is opened yet. -/
def frames : Intent → List Frame
  | settles turned => turned.2.1.frames
  | opens _ renderer _ => renderer.frames

def within (library : Library) (depth : Nat) (positive : 0 < depth) : Intent → Turned
  | settles (turn, renderer, session) => (turn, renderer.withDepth depth positive, session)
  | opens frame renderer session => (renderer.withDepth depth positive).push library frame session

end Intent

/-- What granting a demand comes to. -/
def intent (library : Library) (renderer : Renderer) : Demanded → Intent
  | (.nested body token?, styles, session) =>
      .opens (.of body token?) (renderer.withStyles styles) session
  | demanded => .settles (renderer.act library demanded)

theorem writing_withDepth (renderer : Renderer) (depth : Nat) (positive : 0 < depth)
    (text : Except Fault String) (session : Session) :
    (renderer.withDepth depth positive).writing text session
      = (Intent.settles (renderer.writing text session)).within library depth positive := by
  cases text <;> rfl

/-- With any largest depth, a demand is granted in the same way. -/
theorem act_withDepth (renderer : Renderer) (depth : Nat) (positive : 0 < depth)
    (demanded : Demanded) :
    (renderer.withDepth depth positive).act library demanded
      = (renderer.intent library demanded).within library depth positive := by
  rcases demanded with ⟨demand, styles, session⟩
  rcases renderer with ⟨providers, settings, context, written, live⟩
  cases demand with
  | write | nested | fail => rfl
  | goOn reply => cases reply <;> cases live <;> rfl
  | finish value =>
      rcases live with _ | ⟨frame, _ | ⟨next, outer⟩⟩
      · rfl
      · exact writing_withDepth ⟨providers, settings, context, styles, []⟩ depth positive
          (Serializer.resultText settings.autoescape value) (session.leaveFrame context frame)
      · rfl

theorem length_intent_le (renderer : Renderer) (demanded : Demanded) :
    (renderer.intent library demanded).frames.length ≤ renderer.frames.length := by
  rcases demanded with ⟨demand, styles, session⟩
  rcases renderer with ⟨providers, settings, context, written, live⟩
  cases demand with
  | write | nested | fail => exact Nat.le_refl _
  | goOn reply => cases reply <;> cases live <;> exact Nat.le_refl _
  | finish value =>
      rcases live with _ | ⟨frame, _ | ⟨next, outer⟩⟩
      · exact Nat.le_refl _
      · have left (text : Except Fault String) (session : Session) :
            (Renderer.mk providers settings context styles []).writing text session
              |>.2.1.frames = [] := by
          cases text <;> rfl
        exact (congrArg List.length (left _ _)).trans_le (Nat.zero_le _)
      · exact Nat.le_succ _

/-- A turn with the waits in it comes to the same intent with every largest depth. -/
theorem exists_intent_of_turn {renderer : Renderer} (ready : AreReady renderer.frames)
    (session : Session) :
    ∃ intent : Intent, intent.frames.length ≤ renderer.frames.length ∧
      ∀ depth positive,
        answering library answers ((renderer.withDepth depth positive).turn library session)
          = intent.within library depth positive := by
  generalize frames : renderer.frames = live at ready
  cases ready with
  | empty =>
      refine ⟨.settles (.finished, renderer, session), Nat.le_of_eq (congrArg _ frames), ?_⟩
      intro depth positive
      have empty : (renderer.withDepth depth positive).frames = [] := frames
      rw [turn_of_empty library empty]
      rfl
  | receiving frame reply outer idle rest =>
      refine ⟨(renderer.withFrames (frame :: outer)).intent library
        ((renderer.interpreter library answers).advance (outer.length + 1)
          (tokensOf (frame :: outer)) frame.routine reply renderer.styles session), ?_, ?_⟩
      · exact length_intent_le _ _
      · intro depth positive
        have same : (renderer.withDepth depth positive).frames = frame.receiving reply :: outer :=
          frames
        exact (answering_turn library answers idle reply same session).trans
          (act_withDepth (renderer.withFrames (frame :: outer)) depth positive _)

theorem exists_intent_of_opening (library : Library) (start : Renderer) (root : Value)
    (session : Session) :
    ∃ intent : Intent, intent.frames = start.frames ∧
      ∀ depth positive, (start.withDepth depth positive).opening library root session
        = intent.within library depth positive := by
  cases framed : frameOf? root session with
  | none =>
      refine ⟨.settles (.failed (.engine (.invalidComponent root root)), start, session), rfl, ?_⟩
      intro depth positive
      unfold opening
      rw [framed]
      rfl
  | some found =>
      refine ⟨.opens found.1 start found.2, rfl, ?_⟩
      intro depth positive
      unfold opening
      rw [framed]
      rfl

theorem opening_of_room {renderer : Renderer} {root : Value} {session after : Session}
    {frame : Frame} (framed : frameOf? root session = some (frame, after))
    (room : renderer.frames.length < renderer.settings.maxDepth) :
    renderer.opening library root session
      = (.proceed, renderer.withFrames (frame :: renderer.frames),
          after.enterFrame renderer.context frame) := by
  unfold opening
  rw [framed]
  exact push_of_room library frame after room

/-! ## The turns of an unlimited render -/

variable (library answers) {start : Renderer} (root : Value) (session : Session)

theorem areReady_unlimited (empty : start.frames = []) (turns : Nat)
    (goesOn : (unlimited library answers start root session turns).2.1.GoesOn) :
    AreReady (unlimited library answers start root session turns).2.2.1.frames := by
  induction turns with
  | zero =>
      unfold unlimited at goesOn ⊢
      have none : start.withRoom.frames = [] := empty
      exact areReady_opening library none goesOn
  | succ turns induction =>
      unfold unlimited at goesOn ⊢
      generalize unlimited library answers start root session turns = reached at goesOn induction ⊢
      rcases reached with ⟨texts, turn, renderer, between⟩
      cases turn with
      | proceed =>
          have leads : LeadsTo library answers _ (renderer.withRoom, between) := ⟨goesOn, rfl⟩
          exact leads.areReady library (induction trivial)
      | chunk text => exact induction trivial
      | wait | finished | failed => exact goesOn.elim

theorem unlimited_ne_wait (empty : start.frames = []) (turns : Nat) (wait : Wait) :
    (unlimited library answers start root session turns).2.1 ≠ .wait wait := by
  induction turns with
  | zero => exact opening_ne_wait library start.withRoom root session wait
  | succ turns induction =>
      have ready := areReady_unlimited library answers root session empty turns
      unfold unlimited
      generalize unlimited library answers start root session turns = reached
        at ready induction ⊢
      rcases reached with ⟨texts, turn, renderer, between⟩
      cases turn with
      | proceed =>
          have roomReady : AreReady renderer.withRoom.frames := ready trivial
          exact answering_ne_wait library roomReady between wait
      | chunk | finished | failed => nofun
      | wait => exact induction

variable (start)

theorem unlimited_of_ended {turns : Nat}
    (ended : goOnFreely library answers (unlimited library answers start root session turns)
      = unlimited library answers start root session turns) {later : Nat} (after : turns ≤ later) :
    unlimited library answers start root session later
      = unlimited library answers start root session turns := by
  induction later, after using Nat.le_induction with
  | base => rfl
  | succ later _ induction => rw [unlimited, induction, ended]

theorem texts_prefix_goOnFreely (reached : List String × Turned) :
    reached.1 <+: (goOnFreely library answers reached).1 := by
  rcases reached with ⟨texts, turn, renderer, session⟩
  cases turn with
  | chunk text => exact List.prefix_append _ _
  | _ => exact List.prefix_refl _

theorem texts_prefix {turns later : Nat} (after : turns ≤ later) :
    (unlimited library answers start root session turns).1
      <+: (unlimited library answers start root session later).1 := by
  induction later, after using Nat.le_induction with
  | base => exact List.prefix_refl _
  | succ later _ induction => exact induction.trans (texts_prefix_goOnFreely library answers _)

/-- All texts of a render begin with those that it has handed out at some time. -/
theorem texts_prefix_of_endsUnlimited {complete : List String} {failure? : Option Failure}
    (ends : EndsUnlimited library answers start root session complete failure?) (turns : Nat) :
    (unlimited library answers start root session turns).1 <+: complete := by
  have whole : ∃ last, (unlimited library answers start root session last).1 = complete ∧
      goOnFreely library answers (unlimited library answers start root session last)
        = unlimited library answers start root session last := by
    cases ends with
    | finishes reached | fails reached => exact ⟨_, by rw [reached], by rw [reached]; rfl⟩
  rcases whole with ⟨last, rfl, ended⟩
  rcases Nat.le_total turns last with before | after
  · exact texts_prefix library answers start root session before
  · rw [unlimited_of_ended library answers start root session ended after]

end Renderer
end HtmlStream
