import HtmlStream.Proofs.Renderer.Chaining
import HtmlStream.Proofs.Renderer.Unlimited
import HtmlStream.Renderer.Calm

/-!
Two renders side by side, in one of which bodies yield what they would hand over to. That one has a
frame for each body of a chain, so it needs more room; apart from this their renderers agree. The
main statements are `turnsAlike_turn_of_plain` and `exists_turnsAlike_of_chain`: a turn of the one is
one or several turns of the other, after which they are side by side again.
-/
namespace HtmlStream

/-! ## Stacks -/

/-- The frames of a render, the bodies that are at work for those of them that are generators, and
the frames where bodies yield. -/
inductive Stacks : List Frame → List Twin → List Frame → Prop
  | empty : Stacks [] [] []
  | plain {frame : Frame} {outer others : List Frame} {twins : List Twin} (idle : frame.IsIdle)
      (kind : frame.routine.kind ≠ .generator) (rest : Stacks outer twins others) :
      Stacks (frame :: outer) twins (frame :: others)
  | chain {token? : Option Token} {body : RoutineReference} {twins around : List Twin}
      {inner outer others : List Frame} (chain : Chain token? body twins inner)
      (few : inner.length ≤ callLimit) (rest : Stacks outer around others) :
      Stacks (.of body token? :: outer) (twins ++ around) (inner ++ others)

/-- The innermost frame is the same on both stacks, as the event loop may have to advance it. -/
inductive PlainTop : List Frame → List Twin → List Frame → Prop
  | intro {frame : Frame} {outer others : List Frame} {twins : List Twin} (idle : frame.IsIdle)
      (kind : frame.routine.kind ≠ .generator) (rest : Stacks outer twins others) :
      PlainTop (frame :: outer) twins (frame :: others)

namespace Chain

variable {token? : Option Token} {body : RoutineReference} {twins : List Twin}
  {frames : List Frame}

theorem idle (chain : Chain token? body twins frames) : ∀ frame ∈ frames, Frame.IsIdle frame := by
  induction chain with
  | last => exact List.forall_mem_singleton.mpr (Frame.isIdle_of _ _)
  | more _ _ induction =>
      exact List.forall_mem_append.mpr ⟨induction, List.forall_mem_singleton.mpr rfl⟩

/-- Only the outermost frame of a chain provides a token. -/
theorem tokensOf_eq (chain : Chain token? body twins frames) (outer : List Frame) :
    tokensOf (frames ++ outer) = tokensOf (.of body token? :: outer) := by
  induction chain generalizing outer with
  | last => rfl
  | more _ _ induction =>
      rw [List.append_assoc, induction]
      rfl

end Chain

namespace Stacks

variable {frames others : List Frame} {twins : List Twin}

theorem idle (stacked : Stacks frames twins others) : ∀ frame ∈ frames, Frame.IsIdle frame := by
  induction stacked with
  | empty => exact fun _ absent => (List.not_mem_nil absent).elim
  | plain idle _ _ induction => exact List.forall_mem_cons.mpr ⟨idle, induction⟩
  | chain _ _ _ induction => exact List.forall_mem_cons.mpr ⟨rfl, induction⟩

theorem others_idle (stacked : Stacks frames twins others) :
    ∀ frame ∈ others, Frame.IsIdle frame := by
  induction stacked with
  | empty => exact fun _ absent => (List.not_mem_nil absent).elim
  | plain idle _ _ induction => exact List.forall_mem_cons.mpr ⟨idle, induction⟩
  | chain chain _ _ induction => exact List.forall_mem_append.mpr ⟨chain.idle, induction⟩

theorem tokensOf_eq (stacked : Stacks frames twins others) : tokensOf others = tokensOf frames := by
  induction stacked with
  | empty => rfl
  | plain _ _ _ induction => rw [tokensOf_cons, tokensOf_cons, induction]
  | chain chain _ _ induction => rw [chain.tokensOf_eq, tokensOf_cons, tokensOf_cons, induction]

theorem length_le (stacked : Stacks frames twins others) :
    others.length ≤ callLimit * frames.length := by
  induction stacked with
  | empty => exact Nat.zero_le _
  | plain _ _ _ induction =>
      rw [List.length_cons, List.length_cons, Nat.mul_succ]
      exact Nat.add_le_add induction (by decide)
  | chain _ few _ induction =>
      rw [List.length_append, List.length_cons, Nat.mul_succ, Nat.add_comm]
      exact Nat.add_le_add induction few

/-- Where there is room for a frame, there is room for all bodies that it may stand for. -/
theorem length_add_le (stacked : Stacks frames twins others) {depth : Nat}
    (room : frames.length < depth) : others.length + callLimit ≤ callLimit * depth :=
  calc others.length + callLimit
      ≤ callLimit * frames.length + callLimit := Nat.add_le_add_right stacked.length_le callLimit
    _ = callLimit * (frames.length + 1) := (Nat.mul_succ ..).symm
    _ ≤ callLimit * depth := Nat.mul_le_mul_left callLimit room

theorem eq_nil_iff (stacked : Stacks frames twins others) : others = [] ↔ frames = [] := by
  cases stacked with
  | empty => rfl
  | plain => simp
  | chain chain => simp [chain.frames_ne_nil]

end Stacks

/-! ## Bodies at work -/

namespace Session

variable {session : Session} {frames others : List Frame} {twins : List Twin}

theorem IsAtWork.mono {outer : List Frame} {index : Nat} (working : session.IsAtWork outer index)
    (within : outer ⊆ frames) : session.IsAtWork frames index := by
  induction working with
  | frame member => exact .frame (within member)
  | target _ found induction => exact .target induction found

/-- All bodies of a chain are at work if the first one is. -/
theorem isAtWork_of_chain {token? : Option Token} {body : RoutineReference} {inner : List Frame}
    (chain : Chain token? body twins inner)
    (mine : ∀ twin ∈ twins, session.routine? twin.index = some twin.mine)
    (working : session.IsAtWork frames body.index) : AreBusy (session.IsAtWork frames) twins := by
  induction chain with
  | last => exact List.forall_mem_singleton.mpr working
  | more _ _ induction =>
      rcases List.forall_mem_append.mp mine with ⟨targets, found⟩
      have handed := induction targets (.target working (found _ (List.mem_singleton_self _)))
      intro index member
      rw [List.map_append] at member
      rcases List.mem_append.mp member with inside | last
      · exact handed index inside
      · cases List.mem_singleton.mp last
        exact working

/-- The twins of a stack are at work. -/
theorem areBusy_of_stacks (stacked : Stacks frames twins others)
    (mine : ∀ twin ∈ twins, session.routine? twin.index = some twin.mine) :
    AreBusy (session.IsAtWork frames) twins := by
  induction stacked with
  | empty => exact fun _ absent => (List.not_mem_nil absent).elim
  | plain _ _ _ induction =>
      exact fun index member =>
        (induction mine index member).mono (List.subset_cons_self ..)
  | @chain token? body _ _ _ outer _ chain _ _ induction =>
      rcases List.forall_mem_append.mp mine with ⟨inside, around⟩
      have driven : session.IsAtWork (.of body token? :: outer) body.index :=
        @IsAtWork.frame session _ (.of body token?) List.mem_cons_self
      have working := isAtWork_of_chain chain inside driven
      intro index member
      rw [List.map_append] at member
      rcases List.mem_append.mp member with here | further
      · exact working index here
      · exact (induction around index further).mono (List.subset_cons_self ..)

theorem Mirrors.enterFrame {left right : Session} (mirrors : Mirrors twins left right)
    (context : Nat) (frame : Frame) :
    Mirrors twins (left.enterFrame context frame) (right.enterFrame context frame) := by
  refine mirrors.write (Session.enterFrame · context frame) ?_ (routines_enterFrame · context frame)
  intro session routines liveFrames
  unfold Session.enterFrame
  split <;> rfl

theorem Mirrors.leaveFrame {left right : Session} (mirrors : Mirrors twins left right)
    (context : Nat) (frame : Frame) :
    Mirrors twins (left.leaveFrame context frame) (right.leaveFrame context frame) := by
  refine mirrors.write (Session.leaveFrame · context frame) ?_ (routines_leaveFrame · context frame)
  intro session routines liveFrames
  unfold Session.leaveFrame
  split <;> rfl

end Session

/-! ## Renders side by side -/

namespace Renderer

/-- The renderer with other frames, and with room for all bodies that a frame may stand for. -/
def widened (renderer : Renderer) (frames : List Frame) : Renderer :=
  (renderer.withDepth (callLimit * renderer.settings.maxDepth)
    (Nat.mul_pos (by decide) renderer.settings.maxDepth_pos)).withFrames frames

/-- Two renders side by side, with nothing pending. The other one has the frames `others`. -/
structure Stands (twins : List Twin) (renderer : Renderer) (others : List Frame)
    (left right : Session) : Prop where
  stacked : Stacks renderer.frames twins others
  room : renderer.frames.length ≤ renderer.settings.maxDepth
  mirrors : Session.Mirrors twins left right

/-- Two renders come to the same, unless the one fails. -/
inductive TurnsAlike : Turned → Turned → Prop
  | fails (failure : Failure) (renderer : Renderer) (session : Session) (other : Turned) :
      TurnsAlike (.failed failure, renderer, session) other
  | goesOn {twins : List Twin} {renderer : Renderer} {others : List Frame} {left right : Session}
      (turn : Turn) (reply : Reply) (going : turn.GoesOn)
      (stands : Stands twins renderer others left right) :
      TurnsAlike (turn, renderer.receive reply, left)
        (turn, (renderer.widened others).receive reply, right)
  | waits {twins : List Twin} {renderer : Renderer} {others : List Frame} {left right : Session}
      (wait : Wait) (stands : Stands twins renderer others left right)
      (plain : PlainTop renderer.frames twins others) :
      TurnsAlike (.wait wait, renderer, left) (.wait wait, renderer.widened others, right)
  | ends {renderer other : Renderer} {left right : Session}
      (mirrors : Session.Mirrors [] left right) :
      TurnsAlike (.finished, renderer, left) (.finished, other, right)

variable {library : Library} {twins : List Twin} {renderer : Renderer} {others : List Frame}
  {left right : Session}

namespace Stands

theorem after {leftAfter rightAfter : Session} (stands : Stands twins renderer others left right)
    (mirrors : Session.Mirrors twins leftAfter rightAfter) :
    Stands twins renderer others leftAfter rightAfter :=
  { stands with mirrors }

theorem alike (stands : Stands twins renderer others left right) (turn : Turn)
    (going : turn.GoesOn) :
    TurnsAlike (turn, renderer, left) (turn, renderer.widened others, right) := by
  have idle : renderer.IsIdle := fun frame innermost =>
    stands.stacked.idle frame (List.mem_of_mem_head? innermost)
  have othersIdle : (renderer.widened others).IsIdle := fun frame innermost =>
    stands.stacked.others_idle frame (List.mem_of_mem_head? innermost)
  have goesOn := TurnsAlike.goesOn turn (.ok .null) going stands
  rwa [idle.receive_null, othersIdle.receive_null] at goesOn

end Stands

section Acting

variable (stands : Stands twins renderer others left right)

include stands

theorem turnsAlike_writing (text : Except Fault String) :
    TurnsAlike (renderer.writing text left) ((renderer.widened others).writing text right) := by
  cases text with
  | ok text => exact stands.alike _ (Turn.goesOn_ofText text)
  | error fault => exact .fails ..

theorem turnsAlike_writeText (value : Value) :
    TurnsAlike (renderer.writeText value left)
      ((renderer.widened others).writeText value right) :=
  turnsAlike_writing stands (Serializer.text renderer.settings.autoescape value)

theorem turnsAlike_writeStyle (style : Style) :
    TurnsAlike (renderer.writeStyle style left)
      ((renderer.widened others).writeStyle style right) := by
  have styled (styles : StyleSet) :
      Stands twins { renderer with styles } others left right := { stands with }
  have counted := stands.mirrors.write (Session.countStyle · renderer.context)
  unfold writeStyle
  rw [show (renderer.widened others).styles = renderer.styles from rfl]
  split
  · exact ((styled _).after counted).alike _ (Turn.goesOn_ofText _)
  · exact (styled _).alike .proceed trivial

theorem not_mem_of_isFree {body : RoutineReference} (free : left.IsFree renderer.frames body) :
    body.index ∉ twins.map Twin.index :=
  (Session.areBusy_of_stacks stands.stacked stands.mirrors.mine).not_mem free.idle

/-- A body that is not at work is put on both stacks. -/
theorem turnsAlike_push {body : RoutineReference} (free : body.index ∉ twins.map Twin.index)
    (ready : left.IsReady body) (token? : Option Token) :
    TurnsAlike (renderer.push library (.of body token?) left)
      ((renderer.widened others).push library.yielding (.of body token?) right) := by
  by_cases full : renderer.settings.maxDepth ≤ renderer.frames.length
  · rw [push_of_full library full]
    exact .fails ..
  have room := Nat.lt_of_not_le full
  have ample : (renderer.widened others).frames.length
      < (renderer.widened others).settings.maxDepth :=
    (Nat.lt_add_of_pos_right (by decide)).trans_le (stands.stacked.length_add_le room)
  rw [push_of_room library _ left room, push_of_room library.yielding _ right ample]
  rcases ready with ⟨object, found, same, own⟩
  by_cases kind : body.kind = .generator
  · have held : Stands _ (renderer.withFrames (.of body token? :: renderer.frames))
        ([.of body token?] ++ others) _ _ :=
      ⟨.chain (.last kind (same.trans kind) own) (Nat.succ_le_succ (Nat.zero_le _)) stands.stacked,
        room, (stands.mirrors.hold free found).enterFrame renderer.context (.of body token?)⟩
    exact held.alike .proceed trivial
  · have held : Stands twins (renderer.withFrames (.of body token? :: renderer.frames))
        (.of body token? :: others) _ _ :=
      ⟨.plain rfl kind stands.stacked, room,
        stands.mirrors.enterFrame renderer.context (.of body token?)⟩
    exact held.alike .proceed trivial

theorem turnsAlike_runProvider {token : Token} {provider : Provider}
    (called : Session.CallsCalmly library (Session.calmWithin library callLimit)
      (left.IsAtWork renderer.frames) provider.source [] (left.noteRequest token provider))
    (free : ∀ body after, (left.noteRequest token provider).call library (Session.resume library)
      provider.source [] = (.ok (.routine body), after) → after.IsFree renderer.frames body) :
    TurnsAlike (renderer.runProvider library token provider left)
      ((renderer.widened others).runProvider library.yielding token provider right) := by
  have noted := stands.mirrors.write (Session.noteRequest · token provider)
  have areBusy := Session.areBusy_of_stacks stands.stacked stands.mirrors.mine
  have mirrored := Session.mirroredBy_resume library
  rcases (Session.after_calm_call mirrored noted areBusy called).exists with
    ⟨reply, leftAfter, rightAfter, onLeft, onRight, after⟩
  unfold runProvider
  dsimp only
  rw [onLeft, onRight]
  cases reply with
  | error failure => exact .fails ..
  | ok result =>
      cases result with
      | routine body =>
          have given := free body leftAfter onLeft
          have further := stands.after after
          exact turnsAlike_push further (not_mem_of_isFree further given) given.ready (some token)
      | _ => exact .fails ..

theorem turnsAlike_resolve {token : Token}
    (calm : renderer.ResolvesCalmly library token left) :
    TurnsAlike (renderer.resolve library token left)
      ((renderer.widened others).resolve library.yielding token right) := by
  have providing : (renderer.widened others).isProviding token = renderer.isProviding token := by
    rw [Bool.eq_iff_iff, isProviding_iff, isProviding_iff, ← stands.stacked.tokensOf_eq]
    rfl
  unfold resolve
  rw [show (renderer.widened others).providers = renderer.providers from rfl, providing]
  cases registered : renderer.providers.get? token with
  | none => exact .fails ..
  | some provider =>
      have calm := calm provider registered
      dsimp only
      cases kind : provider.kind with
      | value => exact .goesOn .proceed (.ok provider.source) trivial stands
      | sync | async =>
          have calm := calm (kind ▸ nofun)
          dsimp only
          split
          · exact .fails ..
          · exact turnsAlike_runProvider stands calm.1 calm.2

/-- An element is put on both stacks, in a body of its own. -/
theorem turnsAlike_element (node : Element) :
    TurnsAlike
      (renderer.push library (.of (left.addRoutine .generator "element" node.body).1 none)
        (left.addRoutine .generator "element" node.body).2)
      ((renderer.widened others).push library.yielding
        (.of (right.addRoutine .generator "element" node.body).1 none)
        (right.addRoutine .generator "element" node.body).2) := by
  have ready := Session.isReady_addRoutine left .generator "element" node.body
  have fresh : (left.addRoutine .generator "element" node.body).1.index
      ∉ twins.map Twin.index := by
    intro member
    rcases List.mem_map.mp member with ⟨twin, noted, same⟩
    have found := stands.mirrors.mine twin noted
    rw [same] at found
    exact nomatch left.routine?_size.symm.trans found
  rcases (stands.mirrors.addRoutine .generator "element" node.body).exists with
    ⟨body, leftAfter, rightAfter, onLeft, onRight, after⟩
  rw [Element.yielding_body] at onRight
  rw [onLeft] at ready fresh ⊢
  rw [onRight]
  exact turnsAlike_push (stands.after after) fresh ready none

theorem turnsAlike_handle (producer other : RoutineReference) {effect : Value}
    (calm : renderer.GrantsCalmly library effect left) :
    TurnsAlike (renderer.handle library producer effect left)
      ((renderer.widened others).handle library.yielding other effect right) := by
  cases effect with
  | token token => exact turnsAlike_resolve stands calm
  | style style => exact turnsAlike_writeStyle stands style
  | null => exact stands.alike .proceed trivial
  | text | markup | integer | float | notANumber => exact turnsAlike_writeText stands _
  | marker side type attributes children =>
      cases side with
      | opening | closing =>
          unfold handle
          dsimp only
          split
          · exact turnsAlike_writing stands _
          · exact stands.alike .proceed trivial
      | unspecified => exact .fails ..
  | routine body =>
      exact turnsAlike_push stands (not_mem_of_isFree stands calm) calm.ready none
  | element identity type attributes children =>
      exact turnsAlike_element stands ⟨identity, type, attributes, children⟩
  | _ => exact .fails ..

theorem turnsAlike_handleWait {producer other : RoutineReference}
    (same : producer.kind = .coroutine →
      other.kind = .coroutine ∧ PlainTop renderer.frames twins others) {pending : Pending}
    (calm : renderer.ReactsCalmly library (.waiting pending, left)) :
    TurnsAlike (renderer.handleWait library producer pending left)
      ((renderer.widened others).handleWait library.yielding other pending right) := by
  have settles : TurnsAlike
      (if producer.kind = .coroutine then (.wait (.settle pending), renderer, left)
        else (.failed (.fault .coroutineInGenerator), renderer, left))
      (if other.kind = .coroutine then (.wait (.settle pending), renderer.widened others, right)
        else (.failed (.fault .coroutineInGenerator), renderer.widened others, right)) := by
    split
    · next coroutine =>
        rw [if_pos (same coroutine).1]
        exact .waits _ stands (same coroutine).2
    · exact .fails ..
  cases pending with
  | value value =>
      cases value with
      | token token => exact turnsAlike_resolve stands calm
      | _ => exact settles
  | _ => exact settles

/-- What is not an end is acted on in the same way. -/
theorem turnsAlike_react {producer other : RoutineReference}
    (same : producer.kind = .coroutine →
      other.kind = .coroutine ∧ PlainTop renderer.frames twins others) {progress : Progress}
    (goesOn : ∀ reply, progress ≠ .ofReply reply)
    (calm : renderer.ReactsCalmly library (progress, left)) :
    TurnsAlike (renderer.react library producer progress left)
      ((renderer.widened others).react library.yielding other progress right) := by
  cases progress with
  | produced effect => exact turnsAlike_handle stands producer other calm
  | waiting pending => exact turnsAlike_handleWait stands same calm
  | returned value => exact absurd rfl (goesOn (.ok value))
  | raised failure => exact absurd rfl (goesOn (.error failure))

theorem turnsAlike_deliver (value : Value) :
    TurnsAlike (renderer.deliver value left) ((renderer.widened others).deliver value right) := by
  have nothing := stands.stacked.eq_nil_iff
  unfold deliver
  cases others with
  | nil =>
      rw [nothing.mp rfl]
      exact turnsAlike_writing stands (Serializer.resultText renderer.settings.autoescape value)
  | cons top around =>
      cases frames : renderer.frames with
      | nil => exact nomatch nothing.mpr frames
      | cons frame outer => exact .goesOn .proceed (.ok value) trivial stands

/-- The end of the innermost body of a stack answers the frame around it. -/
theorem turnsAlike_finish {frame : Frame} (value : Value) :
    TurnsAlike ((renderer.withFrames (frame :: renderer.frames)).finish value left)
      (((renderer.widened others).withFrames (frame :: others)).finish value right) :=
  turnsAlike_deliver (stands.after (stands.mirrors.leaveFrame renderer.context frame)) value

end Acting

/-! ## Turns -/

/-- A calm turn advances the innermost body calmly, unless only the event loop can. -/
theorem TurnsCalmly.advances (calm : renderer.TurnsCalmly library left) {frame : Frame}
    {outer : List Frame} {answer : Value} (idle : frame.IsIdle)
    (sync : frame.routine.kind ≠ .asyncGenerator)
    (frames : renderer.frames = frame.receiving (.ok answer) :: outer) :
    let session := left.withLiveFrames (outer.length + 1)
    session.Calm library outer frame.routine answer ∧
      (renderer.withFrames (frame :: outer)).ReactsCalmly library
        (session.resume library frame.routine.index (.ok answer)) := by
  unfold TurnsCalmly at calm
  rw [frames] at calm
  dsimp only at calm
  rw [idle.delivered_receiving] at calm
  exact calm.2 (beq_eq_false_iff_ne.mpr sync)

section Turning

variable {outer : List Frame} {answer : Value} (calm : renderer.TurnsCalmly library left)
  (room : outer.length < renderer.settings.maxDepth)

include calm room

/-- The innermost body is no generator, so that it is the same on both stacks. -/
theorem turnsAlike_turn_of_plain {frame : Frame}
    (frames : renderer.frames = frame.receiving (.ok answer) :: outer) (idle : frame.IsIdle)
    (kind : frame.routine.kind ≠ .generator) (rest : Stacks outer twins others)
    (mirrors : Session.Mirrors twins left right) :
    TurnsAlike (renderer.turn library left)
      ((renderer.widened (frame.receiving (.ok answer) :: others)).turn library.yielding
        right) := by
  have counted := mirrors.withLiveFrames (outer.length + 1) (others.length + 1)
  have stands : Stands twins (renderer.withFrames (frame :: outer)) (frame :: others) _ _ :=
    ⟨.plain idle kind rest, room, counted⟩
  by_cases async : frame.isAsyncGenerator = true
  · rw [turn_eq_delivering library idle (.ok answer) frames,
      turn_eq_delivering library.yielding idle (.ok answer) rfl]
    unfold delivering
    rw [if_pos async, if_pos async]
    exact .waits _ stands (.intro idle kind rest)
  · have sync : frame.routine.kind ≠ .asyncGenerator := fun same => async (beq_iff_eq.mpr same)
    rw [turn_of_sync library idle sync (.ok answer) frames,
      turn_of_sync library.yielding idle sync (.ok answer) rfl]
    have busy := Session.areBusy_of_stacks rest counted.mine
    have mirrored := Session.mirroredBy_resume library
    rcases calm.advances idle sync frames with ⟨⟨⟨object, found, same⟩, quiet⟩, reacts⟩
    have fits := mirrored.befits quiet
    have plain (other : RoutineObject) (foundToo :
        (left.withLiveFrames (outer.length + 1)).routine? frame.routine.index = some other) :
        other.kind ≠ .generator := by
      cases found.symm.trans foundToo
      exact same ▸ kind
    rcases (mirrored.after counted busy (fun _ => plain) quiet).exists with
      ⟨progress, leftAfter, rightAfter, onLeft, onRight, after⟩
    rw [onLeft] at fits reacts
    rw [onLeft, onRight]
    cases progress with
    | returned value =>
        have around : Stands twins (renderer.withFrames outer) others leftAfter rightAfter :=
          ⟨rest, Nat.le_of_lt room, after⟩
        exact turnsAlike_finish around value
    | raised failure => nomatch fits.2
    | produced effect | waiting pending =>
        exact turnsAlike_react (stands.after after)
          (fun coroutine => ⟨coroutine, .intro idle kind rest⟩) (by rintro (_ | _) <;> nofun) reacts

/-- The innermost body is a generator. On the other stack there are the bodies of its chain. -/
theorem exists_turnsAlike_of_chain (answers : LoopAnswers) {token? : Option Token}
    {body : RoutineReference} {around : List Twin} {innermost : Frame} {inner : List Frame}
    (frames : renderer.frames = (Frame.of body token?).receiving (.ok answer) :: outer)
    (chain : Chain token? body twins (innermost :: inner)) (rest : Stacks outer around others)
    (mirrors : Session.Mirrors (twins ++ around) left right) :
    ∃ other, continued library.yielding answers (.proceed,
        renderer.widened (innermost.receiving (.ok answer) :: (inner ++ others)), right)
          = continued library.yielding answers other ∧
      TurnsAlike (renderer.turn library left) other := by
  have kind := chain.kind_eq
  have idle := Frame.isIdle_of body token?
  have sync : (Frame.of body token?).routine.kind ≠ .asyncGenerator := kind ▸ nofun
  have counted := mirrors.withLiveFrames (outer.length + 1) right.liveFrames
  have busy := Session.areBusy_of_stacks rest (List.forall_mem_append.mp counted.mine).2
  rcases calm.advances idle sync frames with ⟨⟨-, quiet⟩, reacts⟩
  have fits := (Session.mirroredBy_resume library).befits quiet
  rcases arrives_resume library answers (renderer.widened others) chain counted busy quiet
    (rest.length_add_le room) with
    ⟨twins, tip, inner, rightAfter, chain, few, after, alone, given⟩
  refine ⟨_, given, ?_⟩
  rw [turn_of_sync library idle sync (.ok answer) frames]
  cases came : (left.withLiveFrames (outer.length + 1)).resume library body.index (.ok answer) with
  | mk progress leftAfter =>
      rw [Frame.routine_of] at fits reacts ⊢
      rw [came] at fits reacts after alone ⊢
      cases progress with
      | returned value =>
          cases alone value rfl
          rcases chain.of_alone with ⟨rfl, object, rfl⟩
          have around : Stands _ (renderer.withFrames outer) others leftAfter rightAfter :=
            ⟨rest, Nat.le_of_lt room, Session.Mirrors.release after⟩
          exact turnsAlike_finish around value
      | raised failure => nomatch fits.2
      | produced effect | waiting pending =>
          have stands : Stands _ (renderer.withFrames (.of body token? :: outer))
              (tip :: inner ++ others) leftAfter rightAfter :=
            ⟨.chain chain few rest, room, after⟩
          refine turnsAlike_react stands ?_ (by rintro (_ | _) <;> nofun) reacts
          exact fun coroutine => nomatch kind.symm.trans coroutine

end Turning

/-- What a wait is answered is acted on in the same way. -/
theorem turnsAlike_afterWait {loop : Library → LoopAnswers} {wait : Wait}
    (stands : Stands twins renderer others left right)
    (plain : PlainTop renderer.frames twins others)
    (alike : left.AnswersAlike loop library wait renderer.frames.tail)
    (calm : renderer.GoesOnCalmly library wait (loop library wait left)) :
    TurnsAlike
      (renderer.afterWait library wait (loop library wait left).1 (loop library wait left).2)
      ((renderer.widened others).afterWait library.yielding wait
        (loop library.yielding wait right).1 (loop library.yielding wait right).2) := by
  rcases renderer with ⟨providers, settings, context, styles, live⟩
  rcases stands with ⟨stacked, room, mirrors⟩
  cases plain with
  | @intro frame outer around _ idle kind rest =>
      have busy := Session.areBusy_of_stacks rest mirrors.mine
      rcases alike twins right mirrors busy with ⟨same, after⟩
      have further : Stands twins _ _ _ _ := ⟨stacked, room, after⟩
      rw [same]
      generalize loop library wait left = answered at calm further
      generalize (loop library.yielding wait right).2 = rightAfter at further
      rcases answered with ⟨reply, leftAfter⟩
      have around : Stands _ ⟨providers, settings, context, styles, outer⟩ around _ _ :=
        ⟨rest, Nat.le_of_succ_le room, further.mirrors⟩
      cases wait with
      | step generator answer =>
          cases reply with
          | ok effect => exact turnsAlike_handle further generator generator calm
          | error failure =>
              unfold afterWait finishFailing
              dsimp only
              split
              · exact turnsAlike_finish around .null
              · exact .fails ..
      | settle pending =>
          cases reply with
          | ok answer =>
              unfold afterWait
              dsimp only
              rw [further.mirrors.isOver_eq]
              split
              · exact further.alike .proceed trivial
              · exact .goesOn .proceed (.error (.fault .waitNotOver)) trivial further
          | error failure =>
              cases failure with
              | raised kind message =>
                  cases kind with
                  | cancelled =>
                      exact .goesOn .proceed (.error (.raised .cancelled message)) trivial further
                  | _ => exact .fails ..
              | _ => exact .fails ..

end Renderer
end HtmlStream
