import HtmlStream.Proofs.Renderer.Depth
import HtmlStream.Proofs.Renderer.Fitting

/-!
Renders with room for all their frames. Where no more frames are live at once in the unlimited render
than the largest depth allows, none is refused. The main statement is `fitsRoot_of_peak_le`.
-/
namespace HtmlStream

open Relation

namespace Renderer

variable {library : Library} {answers : LoopAnswers} {start : Renderer} {root : Value}
  {before : Session}

/-- A render has come to where the unlimited one has come to. -/
def IsReached (library : Library) (answers : LoopAnswers) (start : Renderer) (root : Value)
    (before : Session) (position : Renderer × Session) : Prop :=
  ∃ turns texts free,
    unlimited library answers start root before turns = (texts, .proceed, free, position.2) ∧
      free.withDepth start.settings.maxDepth start.settings.maxDepth_pos = position.1

/-! ## How many frames are live -/

section

variable (library answers start root before)

/-- A turn opens at most one frame. -/
theorem length_unlimited_le (empty : start.frames = []) (turns : Nat) :
    (unlimited library answers start root before turns).2.2.1.frames.length ≤ turns + 1 := by
  have opened (intent : Intent) (depth : Nat) (positive : 0 < depth) :
      (intent.within library depth positive).2.1.frames.length ≤ intent.frames.length + 1 := by
    cases intent with
    | settles turned => exact Nat.le_succ _
    | opens frame renderer session =>
        unfold Intent.within push
        dsimp only
        split
        · split <;> exact Nat.le_succ _
        · exact le_rfl
  induction turns with
  | zero =>
      rcases exists_intent_of_opening library start root before with ⟨intent, same, opens⟩
      have first := opens (start.frames.length + 1) (Nat.succ_pos _)
      have within := opened intent (start.frames.length + 1) (Nat.succ_pos _)
      rw [← first, same] at within
      have none : start.frames.length = 0 := congrArg List.length empty
      have next : (unlimited library answers start root before 0).2.2.1.frames.length
          ≤ start.frames.length + 1 := within
      omega
  | succ turns induction =>
      have ready := areReady_unlimited library answers root before empty turns
      unfold unlimited
      generalize unlimited library answers start root before turns = reached at ready induction ⊢
      rcases reached with ⟨texts, turn, renderer, session⟩
      cases turn with
      | proceed =>
          rcases @exists_intent_of_turn library answers renderer (ready trivial) session with
            ⟨intent, fewer, granted⟩
          have within := opened intent (renderer.frames.length + 1) (Nat.succ_pos _)
          rw [← granted] at within
          have few : renderer.frames.length ≤ turns + 1 := induction
          have next : (goOnFreely library answers (texts, .proceed, renderer, session)).2.2.1.frames.length
              ≤ intent.frames.length + 1 := within
          omega
      | chunk | wait | finished | failed => exact Nat.le_succ_of_le induction

/-- A render that has finished has opened all its frames. -/
theorem peak_le_of_finished (empty : start.frames = []) {turns : Nat}
    (finished : (unlimited library answers start root before turns).2.1 = .finished) :
    peak library answers start root before ≤ ((turns + 1 : Nat) : ℕ∞) := by
  have ended : goOnFreely library answers (unlimited library answers start root before turns)
      = unlimited library answers start root before turns := by
    generalize unlimited library answers start root before turns = reached at finished ⊢
    rcases reached with ⟨texts, turn, renderer, session⟩
    cases finished
    rfl
  refine iSup_le fun later => Nat.cast_le.mpr ?_
  rcases Nat.le_total later turns with earlier | after
  · exact (length_unlimited_le library answers start root before empty later).trans
      (Nat.succ_le_succ earlier)
  · rw [unlimited_of_ended library answers start root before ended after]
    exact length_unlimited_le library answers start root before empty turns

end

/-! ## Frames that are not refused -/

variable (empty : start.frames = [])
  (enough : peak library answers start root before ≤ start.settings.maxDepth)

include empty in
theorem areReady_of_reached {turns : Nat} {texts : List String} {free : Renderer} {session : Session}
    (reached : unlimited library answers start root before turns = (texts, .proceed, free, session)) :
    AreReady free.frames := by
  have ready := areReady_unlimited library answers root before empty turns
  rw [reached] at ready
  exact ready trivial

include empty enough

/-- The next turn of a render with room for all frames is that of the unlimited one. -/
theorem IsReached.next {position after : Renderer × Session}
    (here : IsReached library answers start root before position)
    (leads : LeadsTo library answers after position) :
    IsReached library answers start root before after := by
  rcases position with ⟨limited, session⟩
  rcases here with ⟨turns, texts, free, reached, rfl⟩
  rcases @exists_intent_of_turn library answers free (areReady_of_reached empty reached) session with
    ⟨intent, fewer, granted⟩
  have onward := unlimited_succ_of_proceed reached
  have freely := granted (free.frames.length + 1) (Nat.succ_pos _)
  rcases leads with ⟨goesOn, rfl⟩
  have narrowly := granted start.settings.maxDepth start.settings.maxDepth_pos
  rw [narrowly] at goesOn ⊢
  cases intent with
  | settles turned =>
      rcases turned with ⟨turn, renderer, session⟩
      have next := onward.trans (congrArg (Prod.mk texts) freely)
      cases turn with
      | proceed => exact ⟨turns + 1, texts, _, next, rfl⟩
      | chunk text => exact ⟨turns + 2, _, _, unlimited_succ_of_chunk next, rfl⟩
      | wait | finished | failed => exact goesOn.elim
  | opens frame renderer session =>
      have room : renderer.frames.length < free.frames.length + 1 := Nat.lt_succ_of_le fewer
      have opened : (renderer.withDepth (free.frames.length + 1) (Nat.succ_pos _)).push library frame
        session = _ := push_of_room library frame session room
      have next := onward.trans (congrArg (Prod.mk texts) (freely.trans opened))
      have within := length_le_of_peak_le root enough (turns + 1)
      rw [next] at within
      have limited : (renderer.withDepth start.settings.maxDepth start.settings.maxDepth_pos).push
        library frame session = _ := push_of_room library frame session within
      have arrived : IsReached library answers start root before
          ((renderer.withDepth start.settings.maxDepth start.settings.maxDepth_pos).push library frame
            session).2 := by
        rw [limited]
        exact ⟨turns + 1, texts, _, next, rfl⟩
      exact arrived

theorem IsReached.later {position after : Renderer × Session}
    (leads : TransGen (LeadsTo library answers) after position)
    (here : IsReached library answers start root before position) :
    IsReached library answers start root before after := by
  induction leads using TransGen.head_induction_on with
  | single leads => exact here.next empty enough leads
  | head leads _ induction => exact induction.next empty enough leads

variable {frame : Frame} {outer : List Frame} {reply : Reply} {renderer : Renderer}
  {session : Session}

omit empty in
/-- There is room for a frame that the innermost body asks for. -/
theorem IsReached.room (here : IsReached library answers start root before (renderer, session))
    (idle : frame.IsIdle) (frames : renderer.frames = frame.receiving reply :: outer)
    {inner : RoutineReference} {token? : Option Token} {styles : StyleSet} {after : Session}
    (demanded : (renderer.interpreter library answers).advance (outer.length + 1)
      (tokensOf (frame :: outer)) frame.routine reply renderer.styles session
        = (.nested inner token?, styles, after)) :
    outer.length + 1 < renderer.settings.maxDepth := by
  rcases here with ⟨turns, texts, free, reached, rfl⟩
  have same : free.withRoom.frames = frame.receiving reply :: outer := frames
  have length : free.frames.length = outer.length + 1 := congrArg List.length frames
  have taken := answering_turn library answers idle reply same session
  have wanted : (free.withRoom.interpreter library answers).advance (outer.length + 1)
      (tokensOf (frame :: outer)) frame.routine reply free.withRoom.styles session
        = (.nested inner token?, styles, after) := demanded
  have room : outer.length + 1 < free.frames.length + 1 := Nat.lt_succ_of_le length.ge
  have pushed : ((free.withRoom.withFrames (frame :: outer)).withStyles styles).push library
      (.of inner token?) after = _ := push_of_room library _ after room
  have next := unlimited_succ_of_proceed reached
  rw [taken, wanted] at next
  have within := length_le_of_peak_le root enough (turns + 1)
  rw [next.trans (congrArg (Prod.mk texts) pushed)] at within
  exact within

/-- The innermost body comes to its account if the render ends, and no frame is refused. -/
theorem exists_fits (idle : frame.IsIdle)
    (frames : renderer.frames = frame.receiving reply :: outer)
    (here : IsReached library answers start root before (renderer, session))
    (ends : Acc (LeadsTo library answers) (renderer, session)) :
    ∃ account, (renderer.interpreter library answers).Fits (outer.length + 1)
      (tokensOf (frame :: outer)) frame.routine reply renderer.styles session account := by
  have closure := ends.transGen
  clear ends
  generalize position : (renderer, session) = reached at closure here
  induction closure generalizing renderer frame outer reply session with
  | intro _ closed induction =>
      subst position
      cases demanded : (renderer.interpreter library answers).advance (outer.length + 1)
        (tokensOf (frame :: outer)) frame.routine reply renderer.styles session with
      | mk demand rest =>
          rcases rest with ⟨styles, after⟩
          cases demand with
          | write text =>
              have leads := leadsTo_act idle frames demanded (goesOn_ofText text)
              rcases induction _ (.single leads) idle (by rw [idle.receiving_null]; rfl) rfl
                (here.next empty enough leads) with ⟨rest, later⟩
              exact ⟨_, .writes demanded later⟩
          | goOn next =>
              have leads := leadsTo_goOn idle frames demanded
              rcases induction _ (.single leads) idle rfl rfl (here.next empty enough leads) with
                ⟨account, later⟩
              exact ⟨_, .goesOn demanded later⟩
          | nested inner token? =>
              have room := here.room enough idle frames demanded
              have leads := leadsTo_push idle frames demanded room
              have opened := Frame.isIdle_of inner token?
              rcases induction _ (.single leads) opened (by rw [opened.receiving_null]; rfl) rfl
                (here.next empty enough leads) with ⟨account, fits⟩
              rw [tokensOf_cons] at fits
              by_cases ending : ∃ value, account.ending = .returned value
              · rcases ending with ⟨value, ending⟩
                have closedInside := acc_transGen_iff.mp (closed _ (.single leads))
                rcases exists_accounts opened (by rw [opened.receiving_null]; rfl) closedInside with
                  ⟨told, accounts⟩
                have same := accounts.interpreted
                rw [tokensOf_cons] at same
                cases fits.interpret_eq.symm.trans same
                have reached := reaches_outer demanded accounts room idle frames ending
                rcases induction _ reached idle rfl rfl (here.later empty enough reached) with
                  ⟨rest, later⟩
                exact ⟨_, .nests demanded room fits ending later⟩
              · exact ⟨_, .breaks demanded room fits (not_exists.mp ending)⟩
          | finish value => exact ⟨_, .finishes demanded⟩
          | fail failure => exact ⟨_, .fails demanded⟩

end Renderer

namespace Interpreter

open Renderer

/-- A render fits that comes to its end, if the largest depth is enough for all its frames. -/
theorem fitsRoot_of_peak_le (interpreter : Interpreter) {root : Value} {frame : Frame}
    {session opened : Session} (framed : frameOf? root session = some (frame, opened))
    (enough : peak interpreter.library interpreter.answers interpreter.renderer root session
      ≤ interpreter.settings.maxDepth) {transcript : Transcript}
    (given : (Run.start interpreter.renderer root).transcript interpreter.library interpreter.answers
      (.ok .null) session = some transcript) :
    interpreter.FitsRoot root session transcript := by
  have idle := isIdle_frameOf framed
  have room : 0 < interpreter.settings.maxDepth := interpreter.settings.maxDepth_pos
  have pushed : interpreter.renderer.push interpreter.library frame opened = _ :=
    push_of_room interpreter.library frame opened room
  have goesOn := Run.transcript_start interpreter root session
  rw [framed, given] at goesOn
  dsimp only at goesOn
  rw [pushed] at goesOn
  have ends := acc_of_continued interpreter.library (Run.areReady_root interpreter idle) goesOn.symm
  have reached : IsReached interpreter.library interpreter.answers interpreter.renderer root session
      (interpreter.renderer.withFrames [frame], opened.enterFrame interpreter.context frame) := by
    have first : interpreter.renderer.withRoom.opening interpreter.library root session = _ :=
      opening_of_room framed (Nat.succ_pos _)
    exact ⟨0, [], _, congrArg (Prod.mk []) first, rfl⟩
  rcases exists_fits rfl enough idle (by rw [idle.receiving_null]; rfl) reached ends with
    ⟨account, within⟩
  rw [tokensOf_cons] at within
  have fits : interpreter.FitsRoot root session _ := .intro framed room within
  cases given.symm.trans fits.transcript_eq
  exact fits

end Interpreter
end HtmlStream
