import HtmlStream.Proofs.Renderer.Continuation
import HtmlStream.Proofs.Renderer.Course
import HtmlStream.Proofs.Routine.Mirroring

/-!
A body that has handed over against the frames of bodies that yield. Where a body hands over to
another one, which may do the same, the renderer sees one frame; where they yield, it sees one frame
for each of them. The main statement is `arrivesWithin`: whatever the innermost body comes to while
one frame is advanced, it comes to when the frames of all of them are.
-/
namespace HtmlStream

theorem Frame.routine_of (routine : RoutineReference) (token? : Option Token) :
    (Frame.of routine token?).routine = routine := rfl

/-! ## Chains -/

/-- A body that the renderer drives with those that it has handed over to: as twins, and as frames
where they yield, innermost first. -/
inductive Chain : (token? : Option Token) → RoutineReference → List Twin → List Frame → Prop
  | last {token? : Option Token} {body : RoutineReference} {object : RoutineObject}
      (kind : body.kind = .generator) (same : object.kind = .generator)
      (own : ¬ object.HasDelegated) :
      Chain token? body [.of body.index object] [.of body token?]
  | more {token? : Option Token} {body target : RoutineReference} {next : Reply → Routine}
      {twins : List Twin} {frames : List Frame} (kind : body.kind = .generator)
      (rest : Chain none target twins frames) :
      Chain token? body (twins ++ [.of body.index ⟨.generator, .delegating target.index next⟩])
        (frames ++ [.of body token?])

namespace Chain

variable {token? : Option Token} {body : RoutineReference} {twins : List Twin}
  {frames : List Frame}

theorem kind_eq (chain : Chain token? body twins frames) : body.kind = .generator := by
  cases chain with
  | last kind | more kind => exact kind

theorem frames_ne_nil (chain : Chain token? body twins frames) : frames ≠ [] := by
  cases chain with
  | last => exact List.cons_ne_nil _ _
  | more => exact List.concat_ne_nil _ _

/-- Where there is one frame, the body has not handed over. -/
theorem of_alone {frame : Frame} (chain : Chain token? body twins [frame]) :
    frame = .of body token? ∧ ∃ object : RoutineObject,
      twins = [.of body.index object] := by
  generalize given : [frame] = frames at chain
  cases chain with
  | last =>
      cases given
      exact ⟨rfl, _, rfl⟩
  | @more _ _ target next twins frames kind rest =>
      rcases frames with _ | ⟨inner, frames⟩
      · exact absurd rfl rest.frames_ne_nil
      · rw [List.cons_append] at given
        exact absurd (List.cons.inj given).2.symm (List.concat_ne_nil _ _)

end Chain

namespace Renderer

theorem continued_turn (library : Library) (answers : LoopAnswers) (renderer : Renderer)
    (session : Session) :
    continued library answers (.proceed, renderer, session)
      = continued library answers (renderer.turn library session) :=
  congrArg (Run.transcribed library answers) (proceed_turn library renderer session)

/-- What a body comes to that the renderer advances itself. -/
theorem turn_of_sync (library : Library) {renderer : Renderer} {frame : Frame}
    {outer : List Frame} (idle : frame.IsIdle) (sync : frame.routine.kind ≠ .asyncGenerator)
    (reply : Reply) (frames : renderer.frames = frame.receiving reply :: outer)
    (session : Session) :
    renderer.turn library session =
      let (progress, after) := (session.withLiveFrames (outer.length + 1)).resume library
        frame.routine.index reply
      (renderer.withFrames (frame :: outer)).react library frame.routine progress after := by
  have advanced : ¬ frame.isAsyncGenerator = true := fun given => sync (beq_iff_eq.mp given)
  rw [turn_eq_delivering library idle reply frames]
  unfold delivering
  rw [if_neg advanced]

/-! ## One body yielding to the next -/

section Yielding

variable (library : Library) (answers : LoopAnswers) (renderer : Renderer)

/-- What a run gives from where the innermost body has come to. -/
def continuedAt (frame : Frame) (outer : List Frame) (came : Progress × Session) :
    Option Transcript :=
  continued library answers
    ((renderer.withFrames (frame :: outer)).react library frame.routine came.1 came.2)

variable {library answers renderer} {frame : Frame} {outer : List Frame} {reply : Reply}
  {session : Session}

theorem continued_eq_continuedAt (idle : frame.IsIdle)
    (kind : frame.routine.kind ≠ .asyncGenerator) :
    continued library answers (.proceed, renderer.withFrames (frame.receiving reply :: outer),
        session)
      = continuedAt library answers renderer frame outer
          ((session.withLiveFrames (outer.length + 1)).resume library frame.routine.index
            reply) := by
  rw [continued_turn, turn_of_sync library idle kind reply rfl]
  rfl

/-- A body that is yielded is driven first. -/
theorem continuedAt_routine {target : RoutineReference}
    (room : outer.length + 1 < renderer.settings.maxDepth) :
    continuedAt library answers renderer frame outer (.produced (.routine target), session)
      = continued library answers
          (.proceed, renderer.withFrames (.of target none :: frame :: outer), session) :=
  congrArg (continued library answers) (push_of_room library (.of target none) session room)

/-- An element that is yielded is driven first, in a body of its own. -/
theorem continuedAt_element {node : Element} {target : RoutineReference} {after : Session}
    (made : session.addRoutine .generator "element" node.body = (target, after))
    (room : outer.length + 1 < renderer.settings.maxDepth) :
    continuedAt library answers renderer frame outer (.produced node.toValue, session)
      = continued library answers
          (.proceed, renderer.withFrames (.of target none :: frame :: outer), after) := by
  have opened := push_of_room library (.of target none) after
    (show (renderer.withFrames (frame :: outer)).frames.length < _ from room)
  refine Eq.trans ?_ (congrArg (continued library answers) opened)
  unfold continuedAt react handle frameOf? Element.toValue
  dsimp only
  rw [made]

/-- The result of a body is the answer to the one that has yielded it. -/
theorem continuedAt_returned {target : RoutineReference} {value : Value} :
    continuedAt library answers renderer (.of target none) (frame :: outer)
        (.returned value, session)
      = continued library answers
          (.proceed, renderer.withFrames (frame.receiving (.ok value) :: outer), session) :=
  rfl

end Yielding

/-! ## Arriving -/

open Session

/-- What one frame has come to, the frames come to where bodies yield: the innermost of them has
come to it, and those around it have been left behind on the way. -/
def Arrives (library : Library) (answers : LoopAnswers) (renderer : Renderer)
    (token? : Option Token) (body : RoutineReference) (calls : Nat) (others : List Twin)
    (outer : List Frame) (came : Progress × Session) (given : Option Transcript) : Prop :=
  ∃ twins innermost inner after, Chain token? body twins (innermost :: inner) ∧
    inner.length < calls ∧ Mirrors (twins ++ others) came.2 after ∧
    (∀ value, came.1 = .returned value → inner = []) ∧
    given = continuedAt library answers renderer innermost (inner ++ outer) (came.1, after)

/-- Wherever bodies are advanced calmly that the renderer drives, the frames come to the same that
there are where they yield. -/
def ArrivesWithin (library : Library) (answers : LoopAnswers) (renderer : Renderer)
    (calm : Composure) (resume : Resumption) (calls : Nat) : Prop :=
  ∀ ⦃token? : Option Token⦄ ⦃body : RoutineReference⦄ ⦃busy : Nat → Prop⦄ ⦃twins others : List Twin⦄
    ⦃innermost : Frame⦄ ⦃inner outer : List Frame⦄ ⦃answer : Value⦄ ⦃left right : Session⦄,
    Chain token? body twins (innermost :: inner) → Mirrors (twins ++ others) left right →
    AreBusy busy others → calm true busy body.index (.ok answer) left →
    outer.length + calls ≤ renderer.settings.maxDepth →
    Arrives library answers renderer token? body calls others outer
      (resume body.index (.ok answer) left)
      (continued library answers
        (.proceed, renderer.withFrames (innermost.receiving (.ok answer) :: (inner ++ outer)),
          right))

/-- A body is advanced according to how far it got. -/
theorem resume_of_found {library : Library} {index : Nat} {reply : Reply} {session : Session}
    {object : RoutineObject} (found : session.routine? index = some object) :
    session.resume library index reply
      = resumeObject library (resumeWithin library (callLimit - 1)) index object reply session := by
  show resumeWithin library (callLimit - 1 + 1) index reply session = _
  conv_lhs =>
    unfold resumeWithin
    rw [found]

/-- A body that stays alone on the stack. -/
theorem arrives_alone {library : Library} {answers : LoopAnswers} {renderer : Renderer}
    {calls : Nat} {token? : Option Token} {body : RoutineReference} {others : List Twin}
    {left right : Session} {outer : List Frame} {progress : Progress} {object : RoutineObject}
    (mirrors : Mirrors (.of body.index object :: others) left right)
    (kind : body.kind = .generator) (same : object.kind = .generator)
    (own : ¬ object.HasDelegated) :
    Arrives library answers renderer token? body (calls + 1) others outer (progress, left)
      (continuedAt library answers renderer (.of body token?) outer (progress, right)) :=
  ⟨_, _, [], right, .last kind same own, Nat.succ_pos calls, mirrors, fun _ _ => rfl, rfl⟩

section Handing

variable {library : Library} {answers : LoopAnswers} {renderer : Renderer} {calm : Composure}
  {resume : Resumption} {calls : Nat} {token? : Option Token} {body target : RoutineReference}
  {others : List Twin} {busy : Nat → Prop} {left right : Session} {outer : List Frame}
  (mirrored : MirroredBy calm resume (resumeWithin library.yielding (callLimit - 1)))
  (arrives : ArrivesWithin library.yielding answers renderer calm resume calls)
  (kind : body.kind = .generator)
  (room : outer.length + (calls + 1) ≤ renderer.settings.maxDepth)

include mirrored arrives kind room

/-- A body that has handed over stays handed over as the other one goes on, and goes on itself once
the other one has returned. -/
theorem arrives_advanceTarget {twins : List Twin} {innermost : Frame} {inner : List Frame}
    {next : Reply → Routine} {answer : Value} (chain : Chain none target twins (innermost :: inner))
    (mirrors : Mirrors (twins ++ .handing body.index next :: others) left right)
    (areBusy : AreBusy busy (.handing body.index next :: others))
    (quiet : calm true busy target.index (.ok answer) left)
    (onward : ∀ {value leftAfter rightAfter},
      resume target.index (.ok answer) left = (.returned value, leftAfter) →
      Mirrors (.running body.index .generator :: others) leftAfter rightAfter →
      Arrives library.yielding answers renderer token? body (calls + 1) others outer
        (run library resume body.index .generator (next (.ok value)) leftAfter)
        (continuedAt library.yielding answers renderer (.of body token?) outer
          (run library.yielding (resumeWithin library.yielding (callLimit - 1)) body.index
            .generator (next (.ok value)).yielding rightAfter))) :
    Arrives library.yielding answers renderer token? body (calls + 1) others outer
      (advanceTarget library resume body.index .generator target.index next (.ok answer) left)
      (continued library.yielding answers (.proceed, renderer.withFrames
        (innermost.receiving (.ok answer) :: (inner ++ .of body token? :: outer)), right)) := by
  have fits := mirrored.befits quiet
  have further := arrives chain mirrors areBusy quiet
    (show (Frame.of body token? :: outer).length + calls ≤ _ by
      rw [List.length_cons]
      omega)
  rcases further with ⟨twins, innermost, inner, rightAfter, chain, few, mirrors, alone, given⟩
  rw [given]
  unfold advanceTarget
  cases came : resume target.index (.ok answer) left with
  | mk progress leftAfter =>
      rw [came] at fits mirrors alone
      dsimp only at mirrors alone
      cases progress with
      | raised failure => nomatch fits.2
      | returned value =>
          cases alone value rfl
          rcases chain.of_alone with ⟨rfl, object, rfl⟩
          have freed := Mirrors.release mirrors
          have counted := freed.withLiveFrames leftAfter.liveFrames (outer.length + 1)
          have found := (List.forall_mem_cons.mp counted.yours).1
          rw [List.nil_append, continuedAt_returned,
            continued_eq_continuedAt (Frame.isIdle_of body token?) (kind ▸ nofun)]
          show Arrives _ _ _ _ _ _ _ _ _
            (continuedAt _ _ _ _ _ (Session.resume _ body.index (.ok value) _))
          rw [resume_of_found found]
          exact onward came (counted.setYours .running ⟨rfl, rfl⟩)
      | produced effect | waiting pending =>
          have handed := (mirrors.perm List.perm_middle).setMine (.delegating target.index next)
            ⟨rfl, rfl⟩
          have longer : Chain token? body
              (twins ++ [.of body.index ⟨.generator, .delegating target.index next⟩])
              (innermost :: (inner ++ [.of body token?])) := .more kind chain
          refine ⟨_, innermost, inner ++ [.of body token?], rightAfter, longer, ?_, ?_, nofun, ?_⟩
          · rw [List.length_append]
            exact Nat.succ_lt_succ few
          · rw [List.append_assoc]
            exact handed.perm List.perm_middle.symm
          · rw [List.append_assoc]
            rfl

/-- A body that hands over to another one. There is room for that one on the stack. -/
theorem arrives_handsOver {next : Reply → Routine} (ready : left.IsReady target)
    (generator : target.kind = .generator)
    (mirrors : Mirrors (.handing body.index next :: others) left right)
    (areBusy : AreBusy busy (.handing body.index next :: others))
    (quiet : calm true busy target.index (.ok .null) left)
    (onward : ∀ {value leftAfter rightAfter},
      resume target.index (.ok .null) left = (.returned value, leftAfter) →
      Mirrors (.running body.index .generator :: others) leftAfter rightAfter →
      Arrives library.yielding answers renderer token? body (calls + 1) others outer
        (run library resume body.index .generator (next (.ok value)) leftAfter)
        (continuedAt library.yielding answers renderer (.of body token?) outer
          (run library.yielding (resumeWithin library.yielding (callLimit - 1)) body.index
            .generator (next (.ok value)).yielding rightAfter))) :
    outer.length + 1 < renderer.settings.maxDepth ∧
      Arrives library.yielding answers renderer token? body (calls + 1) others outer
        (advanceTarget library resume body.index .generator target.index next (.ok .null) left)
        (continued library.yielding answers
          (.proceed, renderer.withFrames (.of target none :: .of body token? :: outer),
            right)) := by
  rcases ready with ⟨object, found, same, own⟩
  have chain : Chain none target [.of target.index object] [.of target none] :=
    .last generator (same.trans generator) own
  have held := mirrors.hold (areBusy.not_mem (mirrored.free quiet)) found
  refine ⟨?_, arrives_advanceTarget mirrored arrives kind room chain held areBusy quiet onward⟩
  rcases arrives chain held areBusy quiet
    (show (Frame.of body token? :: outer).length + calls ≤ _ by
      rw [List.length_cons]
      omega) with ⟨_, _, inner, _, _, few, _⟩
  omega

theorem arrives_run {routine : Routine}
    (mirrors : Mirrors (.running body.index .generator :: others) left right)
    (areBusy : AreBusy busy (.running body.index .generator :: others))
    (quiet : RunsCalmly library resume calm busy true .generator routine left) :
    Arrives library.yielding answers renderer token? body (calls + 1) others outer
      (run library resume body.index .generator routine left)
      (continuedAt library.yielding answers renderer (.of body token?) outer
        (run library.yielding (resumeWithin library.yielding (callLimit - 1)) body.index .generator
          routine.yielding right)) := by
  refine calm_run_induction mirrored (fun left right =>
    Arrives library.yielding answers renderer token? body (calls + 1) others outer left
      (continuedAt library.yielding answers renderer (.of body token?) outer right))
    areBusy ?ends ?suspends mirrors quiet
  case ends =>
    intro result left right mirrors
    have further := mirrors.setState (.finished result) (.finished result) ⟨rfl, rfl⟩
    exact arrives_alone further kind rfl (RoutineObject.not_hasDelegated nofun)
  case suspends =>
    intro suspension next left right induction mirrors quiet
    cases suspension with
    | effect value =>
        have further := mirrors.setState (.suspended next)
          (.suspended fun reply => (next reply).yielding) ⟨rfl, rfl⟩
        exact arrives_alone further kind rfl (RoutineObject.not_hasDelegated nofun)
    | wait pending =>
        have further := mirrors.setState (.waiting pending next)
          (.waiting pending fun reply => (next reply).yielding) ⟨rfl, rfl⟩
        exact arrives_alone further kind rfl (RoutineObject.not_hasDelegated nofun)
    | delegate target =>
        unfold RunsCalmly HandsOverCalmly at quiet
        rcases quiet with ⟨handed, onward⟩
        cases targetKind : target.kind with
        | asyncGenerator =>
            rw [targetKind] at handed
            exact handed.elim
        | coroutine =>
            rw [targetKind] at handed
            exact absurd rfl handed.1
        | generator =>
            rw [targetKind] at handed
            rcases handed with ⟨-, -, ready, quiet⟩
            have unawaited : left.isAwaited target = false := by
              unfold isAwaited
              rw [targetKind]
              rfl
            rw [Suspension.yielding_delegate_generator targetKind, run_delegate_of_unawaited unawaited]
            have yielded := mirrors.setYours (.suspended fun reply => (next reply).yielding)
              ⟨rfl, rfl⟩
            have handsOver := arrives_handsOver mirrored arrives kind room ready targetKind yielded
              areBusy quiet fun returned after => by
                rw [returned] at onward
                exact induction after onward
            rw [← continuedAt_routine handsOver.1] at handsOver
            exact handsOver.2
    | iterate node =>
        unfold RunsCalmly at quiet
        rcases quiet with ⟨-, -, quiet⟩
        have yielded := mirrors.setYours (.suspended fun reply => (next reply).yielding) ⟨rfl, rfl⟩
        rcases (yielded.addRoutine .generator "element" node.body).exists with
          ⟨target, leftAdded, rightAdded, onLeft, onRight, added⟩
        rw [Element.yielding_body] at onRight
        have ready := isReady_addRoutine left .generator "element" node.body
        have generator : (left.addRoutine .generator "element" node.body).1.kind = .generator := rfl
        rw [onLeft] at quiet ready generator
        rw [run_iterate, onLeft]
        dsimp only at quiet ready generator ⊢
        have handsOver := arrives_handsOver mirrored arrives kind room ready generator added areBusy
          quiet.1 fun returned after => by
            rw [returned] at quiet
            exact induction after quiet.2
        rw [← continuedAt_element onRight handsOver.1] at handsOver
        exact handsOver.2

end Handing

section Advancing

variable {library : Library} {answers : LoopAnswers} {renderer : Renderer} {calls : Nat}
  {token? : Option Token} {body : RoutineReference} {busy : Nat → Prop} {others : List Twin}
  {answer : Value} {left right : Session} {outer : List Frame}
  (few : calls + 1 ≤ callLimit)
  (arrives : ArrivesWithin library.yielding answers renderer (calmWithin library calls)
    (resumeWithin library calls) calls)
  (kind : body.kind = .generator) (areBusy : AreBusy busy others)
  (room : outer.length + (calls + 1) ≤ renderer.settings.maxDepth)

include few arrives kind areBusy room

/-- A body is advanced that has not handed over. -/
theorem arrives_own {object : RoutineObject} (same : object.kind = .generator)
    (own : ¬ object.HasDelegated)
    (mirrors : Mirrors (.of body.index object :: others) left right)
    (quiet : AdvancesCalmly library (resumeWithin library calls) (calmWithin library calls) busy
      true body.index object (.ok answer) left) :
    Arrives library.yielding answers renderer token? body (calls + 1) others outer
      (resumeObject library (resumeWithin library calls) body.index object (.ok answer) left)
      (continued library.yielding answers (.proceed,
        renderer.withFrames ((Frame.of body token?).receiving (.ok answer) :: outer), right)) := by
  have mirrored := mirroredBy_resumeWithin library (Nat.le_sub_one_of_lt few)
  have counted := mirrors.withLiveFrames left.liveFrames (outer.length + 1)
  have found := (List.forall_mem_cons.mp counted.yours).1
  have working := areBusy.cons (.running body.index .generator)
  rw [continued_eq_continuedAt (Frame.isIdle_of body token?) (kind ▸ nofun)]
  show Arrives _ _ _ _ _ _ _ _ _
    (continuedAt _ _ _ _ _ (Session.resume _ body.index (.ok answer) _))
  rw [resume_of_found found]
  rcases object with ⟨_, state⟩
  cases same
  cases state with
  | unstarted routine =>
      rcases quiet with ⟨null, quiet⟩
      cases null
      exact arrives_run mirrored arrives kind room (counted.setState .running .running ⟨rfl, rfl⟩)
        working quiet
  | suspended next | waiting _ next =>
      exact arrives_run mirrored arrives kind room (counted.setState .running .running ⟨rfl, rfl⟩)
        working quiet
  | delegating target next => exact absurd ⟨rfl, target, next, rfl⟩ own
  | running => exact quiet.elim
  | finished outcome => exact arrives_alone counted kind rfl own

/-- A body is advanced that has handed over. -/
theorem arrives_handedOver {twins : List Twin} {innermost : Frame} {inner : List Frame}
    {target : RoutineReference} {next : Reply → Routine}
    (chain : Chain none target twins (innermost :: inner))
    (mirrors : Mirrors (twins ++ .of body.index ⟨.generator, .delegating target.index next⟩ :: others) left right)
    (quiet : AdvancesCalmly library (resumeWithin library calls) (calmWithin library calls) busy
      true body.index ⟨.generator, .delegating target.index next⟩ (.ok answer) left) :
    Arrives library.yielding answers renderer token? body (calls + 1) others outer
      (resumeObject library (resumeWithin library calls) body.index
        ⟨.generator, .delegating target.index next⟩ (.ok answer) left)
      (continued library.yielding answers (.proceed, renderer.withFrames
        (innermost.receiving (.ok answer) :: (inner ++ .of body token? :: outer)), right)) := by
  have mirrored := mirroredBy_resumeWithin library (Nat.le_sub_one_of_lt few)
  have running := ((mirrors.perm List.perm_middle).setMine .running ⟨rfl, rfl⟩).perm
    List.perm_middle.symm
  have working := areBusy.cons (.handing body.index next)
  rcases quiet with ⟨-, -, quiet, onward⟩
  refine arrives_advanceTarget mirrored arrives kind room chain running working quiet ?_
  intro value leftAfter rightAfter returned after
  rw [returned] at onward
  exact arrives_run mirrored arrives kind room after working onward

end Advancing

/-- The induction is on how many more calls may be nested. -/
theorem arrivesWithin (library : Library) (answers : LoopAnswers) (renderer : Renderer)
    {calls : Nat} (few : calls ≤ callLimit) :
    ArrivesWithin library.yielding answers renderer (calmWithin library calls)
      (resumeWithin library calls) calls := by
  induction calls with
  | zero => exact fun _ _ _ _ _ _ _ _ _ _ _ _ _ _ quiet => quiet.elim
  | succ calls induction =>
      have arrives := induction (Nat.le_of_succ_le few)
      intro token? body busy twins others innermost inner outer answer left right chain mirrors
        areBusy quiet room
      rcases quiet with ⟨free, fits, object, found, quiet⟩
      unfold resumeWithin
      rw [found]
      have kind := chain.kind_eq
      generalize given : innermost :: inner = frames at chain
      cases chain with
      | @last _ _ noted _ same own =>
          cases given
          have alike := (List.forall_mem_cons.mp mirrors.mine).1
          cases found.symm.trans alike
          exact arrives_own few arrives kind areBusy room same own mirrors quiet
      | @more _ _ target next twins frames _ rest =>
          rcases frames with _ | ⟨tip, frames⟩
          · exact absurd rfl rest.frames_ne_nil
          rw [List.cons_append] at given
          cases given
          rw [List.append_assoc] at mirrors
          have alike := (List.forall_mem_cons.mp (mirrors.perm List.perm_middle).mine).1
          cases found.symm.trans alike
          rw [List.append_assoc]
          exact arrives_handedOver few arrives kind areBusy room rest mirrors quiet

theorem arrives_resume (library : Library) (answers : LoopAnswers) (renderer : Renderer) :
    ArrivesWithin library.yielding answers renderer (calmWithin library callLimit)
      (resume library) callLimit :=
  arrivesWithin library answers renderer (Nat.le_refl callLimit)

end Renderer
end HtmlStream
