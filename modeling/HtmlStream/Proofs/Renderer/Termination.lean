import HtmlStream.Proofs.Renderer.Demand
import HtmlStream.Proofs.Routine.Descent

/-!
Every render ends, provided that the event loop itself brings no body further from its end. A turn
lets the innermost body go on, opens a frame where there is still room, or ends a frame. The main
statement is `acc_canLead`.
-/
namespace HtmlStream

/-- An event loop under which bodies only go on: nothing that happens during a wait brings a body
further from its end, and an async generator that gives an effect has gone on. -/
structure LoopAnswers.IsFaithful (answers : LoopAnswers) : Prop where
  progresses : ∀ wait session, Session.Progresses session (answers wait session).2
  descends : ∀ body answer session effect, (answers (.step body answer) session).1 = .ok effect →
    Session.Descends callLimit session (answers (.step body answer) session).2 body.index

def Demand.GoesOn : Demand → Prop
  | .write _ | .goOn _ | .nested .. => True
  | .finish _ | .fail _ => False

namespace Interpreter

variable {interpreter : Interpreter}

theorem routines_writeStyle (style : Style) (styles : StyleSet) (session : Session) :
    (interpreter.writeStyle style styles session).2.2.routines = session.routines := by
  unfold writeStyle
  split <;> rfl

theorem progresses_provide (token : Token) (provider : Provider) (session : Session) :
    Session.Progresses session (interpreter.provide token provider session).2 := by
  have progresses := fun index reply before =>
    (Session.advancing_resume interpreter.library index reply before).1
  have called : Session.Progresses session (Session.call interpreter.library
      (Session.resume interpreter.library) provider.source [] _).2 :=
    (Session.Progresses.of_routines_eq rfl).trans
      (Session.progresses_call progresses provider.source []
        (session.noteRequest token provider))
  unfold provide
  dsimp only
  split
  all_goals
    next equal =>
      rw [equal] at called
      exact called

theorem progresses_request (tokens : List Token) (token : Token) (session : Session) :
    Session.Progresses session (interpreter.request tokens token session).2 := by
  unfold request
  split
  · exact .refl session
  · split
    · exact .refl session
    · split
      · exact .refl session
      · exact progresses_provide token _ session

theorem progresses_demandOf (tokens : List Token) (producer : RoutineReference) (effect : Value)
    (styles : StyleSet) (session : Session) :
    Session.Progresses session
      (interpreter.demandOf tokens producer effect styles session).2.2 := by
  cases effect with
  | style style => exact .of_routines_eq (routines_writeStyle style styles session)
  | marker role type attributes children => cases role <;> exact .refl session
  | token token => exact progresses_request tokens token session
  | element identity type attributes children => exact .addRoutine session .generator "element" _
  | _ => exact .refl session

/-- What is true of the sessions around a demand: all bodies make progress, and the one that was
advanced descends if it goes on. -/
def HasDemanded (body : RoutineReference) (before : Session) (demanded : Demanded) : Prop :=
  Session.Progresses before demanded.2.2 ∧
    (demanded.1.GoesOn → Session.Descends callLimit before demanded.2.2 body.index)

theorem HasDemanded.ofProgress {body : RoutineReference} {before between : Session}
    {demanded : Demanded} (progress : Session.Progresses before between)
    (descends : Session.Descends callLimit before between body.index)
    (rest : Session.Progresses between demanded.2.2) : HasDemanded body before demanded :=
  ⟨progress.trans rest, fun _ => descends.trans rest⟩

theorem goesOn_ofFailure (failure : Failure) : ¬ (Demand.ofFailure failure).GoesOn := by
  unfold Demand.ofFailure
  split <;> exact id

variable (faithful : interpreter.answers.IsFaithful)

include faithful

theorem hasDemanded_async (tokens : List Token) (body : RoutineReference) (answer : Value)
    (styles : StyleSet) (session : Session) :
    HasDemanded body session (interpreter.demandOfAsync tokens body answer styles session) := by
  have progress := faithful.progresses (.step body answer) session
  have descends := faithful.descends body answer session
  unfold demandOfAsync
  cases equal : interpreter.answers (.step body answer) session with
  | mk reply after =>
      rw [equal] at progress descends
      cases reply with
      | ok effect =>
          exact .ofProgress progress (descends effect rfl)
            (progresses_demandOf tokens body effect styles after)
      | error failure => exact ⟨progress, fun goesOn => (goesOn_ofFailure failure goesOn).elim⟩

theorem progresses_await (pending : Pending) (session : Session) :
    Session.Progresses session (interpreter.await pending session).2 := by
  have progress := faithful.progresses (.settle pending) session
  unfold await
  split
  · next equal =>
      rw [equal] at progress
      split <;> exact progress
  all_goals
    next equal =>
      rw [equal] at progress
      exact progress

theorem progresses_demandOfWait (tokens : List Token) (body : RoutineReference)
    (pending : Pending) (session : Session) :
    Session.Progresses session (interpreter.demandOfWait tokens body pending session).2 := by
  unfold demandOfWait
  split
  · exact progresses_request tokens _ session
  · split
    · exact progresses_await faithful pending session
    · exact .refl session

theorem hasDemanded_advance (depth : Nat) (tokens : List Token) (body : RoutineReference)
    (reply : Reply) (styles : StyleSet) (session : Session) :
    HasDemanded body session
      (interpreter.advance depth tokens body reply styles session) := by
  have noted : Session.Progresses session (session.withLiveFrames depth) := .of_routines_eq rfl
  unfold advance demandAt
  dsimp only
  split
  · have demanded := hasDemanded_async faithful tokens body (reply.toOption.getD .null) styles
      (session.withLiveFrames depth)
    exact ⟨noted.trans demanded.1, fun goesOn => noted.descends (demanded.2 goesOn)⟩
  · have advanced := Session.advancing_resume interpreter.library body.index reply
      (session.withLiveFrames depth)
    generalize Session.resume interpreter.library body.index reply _ = result at advanced
    rcases result with ⟨progress, after⟩
    have progresses := noted.trans advanced.1
    cases progress with
    | produced effect =>
        exact .ofProgress progresses (noted.descends (advanced.2 trivial))
          (progresses_demandOf tokens body effect styles after)
    | waiting pending =>
        exact .ofProgress progresses (noted.descends (advanced.2 trivial))
          (progresses_demandOfWait faithful tokens body pending after)
    | returned value => exact ⟨progresses, fun goesOn => goesOn.elim⟩
    | raised failure =>
        exact ⟨progresses, fun goesOn => (goesOn_ofFailure failure goesOn).elim⟩

end Interpreter

/-- The frames after a result was handed on to the innermost of them. -/
def deliveredTo (value : Value) : List Frame → List Frame
  | [] => []
  | frame :: outer => frame.receiving (.ok value) :: outer

def Turn.GoesOn : Turn → Prop
  | .proceed | .chunk _ => True
  | .wait _ | .finished | .failed _ => False

namespace Renderer

variable (library : Library) {answers : LoopAnswers} {renderer : Renderer} {frame : Frame}
  {outer : List Frame}

/-- What a render is left with that goes on with given frames. -/
structure GoesOnWith (renderer : Renderer) (session : Session) (frames : List Frame)
    (turned : Turned) : Prop where
  frames_eq : turned.2.1.frames = frames
  interpreter_eq : ∀ library answers,
    turned.2.1.interpreter library answers = renderer.interpreter library answers
  routines_eq : turned.2.2.routines = session.routines

theorem goesOnWith_writing (text : Except Fault String) (session : Session) :
    GoesOnWith renderer session renderer.frames (renderer.writing text session) := by
  unfold writing
  split <;> exact ⟨rfl, fun _ _ => rfl, rfl⟩

theorem goesOnWith_deliver (value : Value) (session : Session) :
    GoesOnWith renderer session (deliveredTo value renderer.frames)
      (renderer.deliver value session) := by
  unfold deliver
  split
  · next frame outer frames =>
      rw [frames]
      refine ⟨?_, fun _ _ => ?_, rfl⟩
      · simp [answer, frames, deliveredTo, Frame.receiving]
      · simp [answer, frames, interpreter]
  · next frames =>
      have written := renderer.goesOnWith_writing
        (Serializer.resultText renderer.settings.autoescape value) session
      rw [frames] at written ⊢
      exact written

theorem goesOnWith_finish (value : Value) (session : Session) :
    GoesOnWith renderer session (deliveredTo value outer)
      ((renderer.withFrames (frame :: outer)).finish value session) := by
  rcases (renderer.withFrames outer).goesOnWith_deliver value
    (session.leaveFrame renderer.context frame) with ⟨frames, interpreter, routines⟩
  exact ⟨frames, interpreter, routines.trans (session.routines_leaveFrame _ frame)⟩

theorem push_of_room {renderer : Renderer} (frame : Frame) (session : Session)
    (room : renderer.frames.length < renderer.settings.maxDepth) :
    renderer.push library frame session = (.proceed,
      renderer.withFrames (frame :: renderer.frames),
      session.enterFrame renderer.context frame) :=
  if_neg (Nat.not_le.mpr room)

theorem room_of_goesOn_push {renderer : Renderer} {frame : Frame} {session : Session}
    (goesOn : (renderer.push library frame session).1.GoesOn) :
    renderer.frames.length < renderer.settings.maxDepth := by
  by_contra full
  unfold push at goesOn
  rw [if_pos (Nat.not_lt.mp full)] at goesOn
  split at goesOn <;> exact goesOn

/-- What is left after a demand was granted: the body goes on, another one is put before it, or it
has ended. -/
inductive Granted (renderer : Renderer) (frame : Frame) (outer : List Frame)
    (demanded : Demanded) (turned : Turned) : Prop where
  | goOn (reply : Reply) (goesOn : demanded.1.GoesOn)
      (rest : GoesOnWith renderer demanded.2.2 (frame.receiving reply :: outer) turned)
  | nested (body : RoutineReference) (token? : Option Token) (goesOn : demanded.1.GoesOn)
      (room : outer.length + 1 < renderer.settings.maxDepth)
      (rest : GoesOnWith renderer demanded.2.2 (.of body token? :: frame :: outer) turned)
  | ended (value : Value)
      (rest : GoesOnWith renderer demanded.2.2 (deliveredTo value outer) turned)

theorem granted_act (idle : frame.IsIdle) (demanded : Demanded)
    (goesOn : ((renderer.withFrames (frame :: outer)).act library demanded).1.GoesOn) :
    Granted renderer frame outer demanded
      ((renderer.withFrames (frame :: outer)).act library demanded) := by
  rcases demanded with ⟨demand, styles, session⟩
  cases demand with
  | write text =>
      refine .goOn (.ok .null) trivial ?_
      rw [idle.receiving_null]
      exact ⟨rfl, fun _ _ => rfl, rfl⟩
  | goOn reply =>
      refine .goOn reply trivial ⟨?_, fun _ _ => ?_, rfl⟩
      all_goals cases reply <;> rfl
  | nested body token? =>
      have room := room_of_goesOn_push library goesOn
      refine .nested body token? trivial room ?_
      unfold act
      dsimp only
      rw [push_of_room library _ _ room]
      exact ⟨rfl, fun _ _ => rfl, session.routines_enterFrame _ _⟩
  | finish value =>
      have rest : GoesOnWith (renderer.withStyles styles) session (deliveredTo value outer)
          (((renderer.withStyles styles).withFrames (frame :: outer)).finish value session) :=
        goesOnWith_finish value session
      exact .ended value ⟨rest.frames_eq, rest.interpreter_eq, rest.routines_eq⟩
  | fail failure => exact goesOn.elim

/-- One turn after another, waits included, as long as the render goes on. -/
def LeadsTo (library : Library) (answers : LoopAnswers) (next before : Renderer × Session) : Prop :=
  (answering library answers (before.1.turn library before.2)).1.GoesOn ∧
    (answering library answers (before.1.turn library before.2)).2 = next

theorem leadsTo_of_turn {turn : Turn} {next : Renderer × Session} {session : Session}
    (taken : renderer.turn library session = (turn, next)) (goesOn : turn.GoesOn) :
    LeadsTo library answers next (renderer, session) := by
  unfold LeadsTo
  rw [taken]
  cases turn with
  | wait wait => exact goesOn.elim
  | _ => exact ⟨goesOn, rfl⟩

/-- One turn after another, where the event loop answers as it likes each time and bodies may go on
elsewhere between the turns. -/
def CanLead (library : Library) (next before : Renderer × Session) : Prop :=
  ∃ answers : LoopAnswers, answers.IsFaithful ∧ ∃ between,
    LeadsTo library answers (next.1, between) before ∧ Session.Progresses between next.2

/-- Something may be pending for the innermost frame only. -/
inductive AreReady : List Frame → Prop
  | empty : AreReady []
  | receiving (frame : Frame) (reply : Reply) (outer : List Frame) (idle : frame.IsIdle)
      (rest : ∀ frame ∈ outer, Frame.IsIdle frame) : AreReady (frame.receiving reply :: outer)

theorem AreReady.of_idle {frames : List Frame} (idle : ∀ frame ∈ frames, Frame.IsIdle frame) :
    AreReady frames := by
  cases frames with
  | nil => exact .empty
  | cons frame outer =>
      have innermost := idle frame List.mem_cons_self
      rw [← innermost.receiving_null]
      exact .receiving frame _ outer innermost fun other member =>
        idle other (List.mem_cons_of_mem frame member)

theorem isIdle_frameOf {root : Value} {session after : Session} {frame : Frame}
    (framed : frameOf? root session = some (frame, after)) : frame.IsIdle := by
  cases root with
  | element | routine =>
      cases framed
      exact Frame.isIdle_of _ none
  | _ => cases framed

theorem areReady_deliveredTo (value : Value) (idle : ∀ frame ∈ outer, Frame.IsIdle frame) :
    AreReady (deliveredTo value outer) := by
  cases outer with
  | nil => exact .empty
  | cons frame outer =>
      exact .receiving frame (.ok value) outer (idle frame List.mem_cons_self) fun other member =>
        idle other (List.mem_cons_of_mem frame member)

/-- The first frame of a render is ready to be advanced. -/
theorem areReady_push (empty : renderer.frames = []) {frame : Frame} (idle : frame.IsIdle)
    {session : Session} (goesOn : (renderer.push library frame session).1.GoesOn) :
    AreReady (renderer.push library frame session).2.1.frames := by
  have room := room_of_goesOn_push library goesOn
  rw [push_of_room library frame session room]
  refine AreReady.of_idle fun other member => ?_
  rw [empty] at member
  cases List.mem_singleton.mp member
  exact idle

/-- A turn with the waits in it is no wait. -/
theorem answering_ne_wait (ready : AreReady renderer.frames) (session : Session) (wait : Wait) :
    (answering library answers (renderer.turn library session)).1 ≠ .wait wait := by
  generalize frames : renderer.frames = live at ready
  cases ready with
  | empty =>
      rw [turn_of_empty library frames]
      simp [answering]
  | receiving frame reply outer idle rest =>
      rw [answering_turn library answers idle reply frames]
      exact act_ne_wait _ _ wait

theorem not_goesOn_of_empty (empty : renderer.frames = []) (session : Session) :
    ¬ (answering library answers (renderer.turn library session)).1.GoesOn := by
  rw [turn_of_empty library empty]
  exact id

theorem acc_of_empty (empty : renderer.frames = []) (session : Session) :
    Acc (CanLead library) (renderer, session) := by
  refine Acc.intro _ ?_
  rintro next ⟨_, _, _, leads, _⟩
  exact (not_goesOn_of_empty library empty session leads.1).elim

theorem LeadsTo.areReady {next before : Renderer × Session}
    (leads : LeadsTo library answers next before) (ready : AreReady before.1.frames) :
    AreReady next.1.frames := by
  rcases before with ⟨renderer, session⟩
  rcases leads with ⟨goesOn, rfl⟩
  generalize frames : renderer.frames = live at ready
  cases ready with
  | empty => exact (not_goesOn_of_empty library frames session goesOn).elim
  | receiving frame reply outer idle rest =>
      rw [answering_turn library answers idle reply frames] at goesOn ⊢
      rcases granted_act library idle _ goesOn with
        ⟨reply, _, after⟩ | ⟨body, token?, _, _, after⟩ | ⟨value, after⟩
      · rw [after.frames_eq]
        exact .receiving frame reply outer idle rest
      · rw [after.frames_eq]
        apply AreReady.of_idle
        intro other member
        rcases List.mem_cons.mp member with rfl | member
        · exact Frame.isIdle_of body token?
        · rcases List.mem_cons.mp member with rfl | member
          · exact idle
          · exact rest other member
      · rw [after.frames_eq]
        exact areReady_deliveredTo value rest

/-- A render whose innermost frame has ended ends if what comes after it does. -/
def EndsAfter (library : Library) (settings : Settings) (session : Session)
    (outer : List Frame) : Prop :=
  ∀ value (next : Renderer) after, next.frames = deliveredTo value outer →
    next.settings = settings → Session.Progresses session after →
    Acc (CanLead library) (next, after)

/-- The innermost frame ends if the frames that it opens do. The induction is on how far its body is
from its end; while other frames are inside it, the body gets no further from it. -/
theorem acc_of_nested (idle : frame.IsIdle) {session : Session} {reply : Reply}
    (frames : renderer.frames = frame.receiving reply :: outer)
    (ends : EndsAfter library renderer.settings session outer)
    (nested : outer.length + 1 < renderer.settings.maxDepth →
      ∀ (next : Renderer) after body token?, next.frames = .of body token? :: frame :: outer →
        next.settings = renderer.settings →
        EndsAfter library next.settings after (frame :: outer) →
        Acc (CanLead library) (next, after)) :
    Acc (CanLead library) (renderer, session) := by
  induction Session.acc_descends callLimit frame.routine.index session
    generalizing renderer reply with
  | intro session _ induction =>
      -- The body goes on with a reply after it has descended.
      have goesOn : ∀ (next : Renderer) after reply,
          next.frames = frame.receiving reply :: outer → next.settings = renderer.settings →
          Session.Progresses session after →
          Session.Descends callLimit session after frame.routine.index →
          Acc (CanLead library) (next, after) := by
        intro next after reply frames settings progress descends
        apply induction after ⟨progress, descends⟩ frames
        · intro value later end_ frames' settings' progress'
          exact ends value later end_ frames' (settings'.trans settings) (progress.trans progress')
        · intro room later end_ body token? frames' settings'
          exact nested (settings ▸ room) later end_ body token? frames' (settings'.trans settings)
      refine Acc.intro _ ?_
      rintro ⟨next, after⟩ ⟨answers, faithful, between, ⟨turnGoesOn, equal⟩, elsewhere⟩
      rw [answering_turn library answers idle reply frames] at turnGoesOn equal
      have demanded := Interpreter.hasDemanded_advance
        (show (renderer.interpreter library answers).answers.IsFaithful from faithful)
        (outer.length + 1) (tokensOf (frame :: outer)) frame.routine reply renderer.styles session
      rcases granted_act library idle _ turnGoesOn with
        ⟨reply, advances, rest⟩ | ⟨body, token?, advances, room, rest⟩ | ⟨value, rest⟩
      all_goals
        rcases rest with ⟨frames', interpreter, routines⟩
        have later : Session.Progresses _ _ := .of_routines_eq routines
        rw [equal] at frames' interpreter later
        have settings : next.settings = renderer.settings :=
          congrArg Interpreter.settings (interpreter library answers)
        replace later := later.trans elsewhere
        have progress := demanded.1.trans later
      · exact goesOn next after reply frames' settings progress
          ((demanded.2 advances).trans later)
      · have descends := (demanded.2 advances).trans later
        apply nested room next after body token? frames' settings
        intro value later end_ frames'' settings' progress'
        exact goesOn later end_ (.ok value) frames'' (settings'.trans settings)
          (progress.trans progress') (descends.trans progress')
      · exact ends value next after frames' settings progress

/-- The induction is on how many frames there is still room for. -/
theorem acc_of_endsAfter (room : Nat) (idle : frame.IsIdle)
    (fits : renderer.settings.maxDepth ≤ outer.length + 1 + room) {session : Session}
    {reply : Reply} (frames : renderer.frames = frame.receiving reply :: outer)
    (ends : EndsAfter library renderer.settings session outer) :
    Acc (CanLead library) (renderer, session) := by
  induction room generalizing renderer frame outer session reply with
  | zero =>
      apply acc_of_nested library idle frames ends
      intro more
      exact absurd fits (Nat.not_le.mpr more)
  | succ room induction =>
      apply acc_of_nested library idle frames ends
      intro _ next after body token? frames' settings ends'
      have opened := Frame.isIdle_of body token?
      apply induction opened _ (frames'.trans _) ends'
      · rw [settings, List.length_cons]
        omega
      · exact .ok .null
      · rw [opened.receiving_null]

theorem endsAfter_of_idle (settings : Settings) (idle : ∀ frame ∈ outer, Frame.IsIdle frame)
    (session : Session) : EndsAfter library settings session outer := by
  induction outer generalizing settings session with
  | nil =>
      intro _ next after frames _ _
      exact acc_of_empty library frames after
  | cons frame outer induction =>
      intro value next after frames _ _
      apply acc_of_endsAfter library next.settings.maxDepth (idle frame List.mem_cons_self)
        (Nat.le_add_left _ _) frames
      exact induction _ (fun other member => idle other (List.mem_cons_of_mem frame member)) after

/-- A render never goes on forever, however the event loop answers each of its waits. -/
theorem acc_canLead (ready : AreReady renderer.frames) (session : Session) :
    Acc (CanLead library) (renderer, session) := by
  generalize frames : renderer.frames = live at ready
  cases ready with
  | empty => exact acc_of_empty library frames session
  | receiving frame reply outer idle rest =>
      exact acc_of_endsAfter library renderer.settings.maxDepth idle (Nat.le_add_left _ _) frames
        (endsAfter_of_idle library renderer.settings rest session)

theorem LeadsTo.canLead (faithful : answers.IsFaithful) {next before : Renderer × Session}
    (leads : LeadsTo library answers next before) : CanLead library next before :=
  ⟨answers, faithful, next.2, leads, .refl next.2⟩

theorem acc_leadsTo (faithful : answers.IsFaithful) (ready : AreReady renderer.frames)
    (session : Session) : Acc (LeadsTo library answers) (renderer, session) :=
  Subrelation.accessible (LeadsTo.canLead library faithful) (acc_canLead library ready session)

end Renderer
end HtmlStream
