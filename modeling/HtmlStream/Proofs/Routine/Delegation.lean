import HtmlStream.Proofs.Routine.Congruence
import HtmlStream.Proofs.Routine.Remaining
import HtmlStream.Routine.Delegation

/-!
Sessions side by side in one of which bodies yield what they would hand over to. Whatever is read of
such sessions, apart from their bodies, is the same; whatever is written to both keeps them side by
side. Twins are noted while their bodies are at work.
-/
namespace HtmlStream

namespace Routine

theorem yielding_yieldAll (effects : List (Except Failure Value)) :
    (yieldAll effects).yielding = yieldAll effects := by
  induction effects with
  | nil => rfl
  | cons effect rest induction =>
      cases effect with
      | error failure => rfl
      | ok value =>
          unfold yieldAll yielding
          congr 1
          funext reply
          cases reply with
          | ok answer => exact induction
          | error failure => rfl

end Routine

/-- An element hands over to nothing. -/
theorem Element.yielding_body (node : Element) : node.body.yielding = node.body := by
  unfold body
  split
  · unfold Routine.yielding
    congr 1
    funext reply
    cases reply with
    | ok result => exact Routine.yielding_yieldAll _
    | error failure => rfl
  · exact Routine.yielding_yieldAll _

namespace RoutineObject

@[simp] theorem kind_yielding (object : RoutineObject) : object.yielding.kind = object.kind := by
  rcases object with ⟨_ | _ | _, _ | _ | _ | _ | _ | _⟩ <;> rfl

@[simp] theorem outcome?_yielding (object : RoutineObject) :
    object.yielding.outcome? = object.outcome? := by
  rcases object with ⟨_ | _ | _, _ | _ | _ | _ | _ | _⟩ <;> rfl

end RoutineObject

theorem RoutineObject.yielding_delegating {kind : RoutineKind} {target : Nat}
    {next : Reply → Routine} (other : kind ≠ .generator) :
    yielding ⟨kind, .delegating target next⟩
      = ⟨kind, .delegating target fun reply => (next reply).yielding⟩ := by
  cases kind with
  | generator => exact absurd rfl other
  | coroutine | asyncGenerator => rfl

theorem Suspension.yielding_delegate {target : RoutineReference}
    (other : target.kind ≠ .generator) : yielding (.delegate target) = .delegate target := by
  unfold yielding
  dsimp only
  split
  · next same => exact absurd same other
  · rfl

theorem Suspension.yielding_delegate_generator {target : RoutineReference}
    (generator : target.kind = .generator) :
    yielding (.delegate target) = .effect (.routine target) := by
  unfold yielding
  dsimp only
  rw [generator]

theorem RoutineObject.not_hasDelegated {object : RoutineObject}
    (other : ∀ target next, object.state ≠ .delegating target next) : ¬ object.HasDelegated := by
  rintro ⟨-, target, next, same⟩
  exact other target next same

theorem Twin.isFair_yielding (index : Nat) (object : RoutineObject) :
    (Twin.of index object).IsFair :=
  ⟨object.kind_yielding, object.outcome?_yielding⟩

theorem Library.find?_yielding (library : Library) (reference : ComponentReference) :
    library.yielding.find? reference = (library.find? reference).map Component.yielding := by
  unfold yielding find?
  rw [List.find?_map]
  rfl

namespace Session

theorem setState_eq_self {session : Session} {index : Nat} {object : RoutineObject}
    (found : session.routine? index = some object) :
    session.setState index object.state = session := by
  have same : session.routines.modify index (fun other => { other with state := object.state })
      = session.routines := by
    refine Array.ext_getElem? fun number => ?_
    rw [Array.getElem?_modify]
    split
    · next here =>
        subst here
        rw [show session.routines[index]? = some object from found]
        rfl
    · rfl
  unfold setState
  rw [same]

theorem signature?_yielding (library : Library) (value : Value) :
    signature? library.yielding value = signature? library value := by
  cases value with
  | component reference =>
      have found := library.find?_yielding reference
      show Option.map Component.signature _ = _
      rw [found, Option.map_map]
      rfl
  | _ => rfl

/-- A session with no bodies at work, and the same session where they yield. -/
theorem mirrors_yielding (session : Session) : Mirrors [] session session.yielding where
  rest := ⟨session.routines.map RoutineObject.yielding, session.liveFrames, rfl⟩
  size := Array.size_map
  distinct := List.nodup_nil
  fair _ absent := (List.not_mem_nil absent).elim
  mine _ absent := (List.not_mem_nil absent).elim
  yours _ absent := (List.not_mem_nil absent).elim
  others _ _ := Array.getElem?_map

namespace Mirrors

variable {α : Type} {twins : List Twin} {left right : Session} (mirrors : Mirrors twins left right)

include mirrors

/-- Whatever is read of a session, apart from its bodies and the number of live frames, is the same
for both. -/
theorem read_eq (read : Session → α)
    (blind : ∀ session routines liveFrames,
      read { session with routines, liveFrames } = read session) : read right = read left := by
  rcases mirrors.rest with ⟨routines, liveFrames, rfl⟩
  exact blind left routines liveFrames

/-- What leaves the bodies alone is done to both. -/
theorem write (change : Session → Session)
    (blind : ∀ session routines liveFrames, change { session with routines, liveFrames }
        = { change session with routines, liveFrames } := by intros; rfl)
    (routines : ∀ session, (change session).routines = session.routines := by intros; rfl) :
    Mirrors twins (change left) (change right) where
  rest := by
    rcases mirrors.rest with ⟨others, liveFrames, rfl⟩
    exact ⟨others, liveFrames, blind left others liveFrames⟩
  size := by
    rw [routines, routines]
    exact mirrors.size
  distinct := mirrors.distinct
  fair := mirrors.fair
  mine twin member := by
    unfold routine?
    rw [routines]
    exact mirrors.mine twin member
  yours twin member := by
    unfold routine?
    rw [routines]
    exact mirrors.yours twin member
  others index free := by
    unfold routine?
    rw [routines, routines]
    exact mirrors.others index free

theorem withLiveFrames (count other : Nat) :
    Mirrors twins (left.withLiveFrames count) (right.withLiveFrames other) where
  rest := by
    rcases mirrors.rest with ⟨others, _, rfl⟩
    exact ⟨others, other, rfl⟩
  size := mirrors.size
  distinct := mirrors.distinct
  fair := mirrors.fair
  mine := mirrors.mine
  yours := mirrors.yours
  others := mirrors.others

/-! ## Twins -/

theorem perm {others : List Twin} (permuted : twins.Perm others) : Mirrors others left right where
  rest := mirrors.rest
  size := mirrors.size
  distinct := (permuted.map Twin.index).nodup_iff.mp mirrors.distinct
  fair twin member := mirrors.fair twin (permuted.mem_iff.mpr member)
  mine twin member := mirrors.mine twin (permuted.mem_iff.mpr member)
  yours twin member := mirrors.yours twin (permuted.mem_iff.mpr member)
  others index free := mirrors.others index fun member =>
    free ((permuted.map Twin.index).mem_iff.mp member)

/-- A body that is put to work is noted. -/
theorem hold {index : Nat} {object : RoutineObject} (free : index ∉ twins.map Twin.index)
    (found : left.routine? index = some object) :
    Mirrors (.of index object :: twins) left right where
  rest := mirrors.rest
  size := mirrors.size
  distinct := List.nodup_cons.mpr ⟨free, mirrors.distinct⟩
  fair := List.forall_mem_cons.mpr ⟨Twin.isFair_yielding index object, mirrors.fair⟩
  mine := List.forall_mem_cons.mpr ⟨found, mirrors.mine⟩
  yours := List.forall_mem_cons.mpr
    ⟨by rw [mirrors.others index free, found, Option.map_some], mirrors.yours⟩
  others other outside := mirrors.others other fun member =>
    outside (List.mem_cons_of_mem index member)

omit mirrors in
/-- A body need not be noted any more whose states follow from each other. -/
theorem release {index : Nat} {object : RoutineObject}
    (mirrors : Mirrors (.of index object :: twins) left right) :
    Mirrors twins left right where
  rest := mirrors.rest
  size := mirrors.size
  distinct := (List.nodup_cons.mp mirrors.distinct).2
  fair := (List.forall_mem_cons.mp mirrors.fair).2
  mine := (List.forall_mem_cons.mp mirrors.mine).2
  yours := (List.forall_mem_cons.mp mirrors.yours).2
  others other free := by
    by_cases here : other = index
    · subst here
      have mine := (List.forall_mem_cons.mp mirrors.mine).1
      have yours := (List.forall_mem_cons.mp mirrors.yours).1
      rw [yours, mine, Option.map_some]
    · exact mirrors.others other fun member => (List.mem_cons.mp member).elim here free

omit mirrors in
/-- A body that is noted gets further, on either side. -/
theorem setState {index : Nat} {mine yours : RoutineObject} (state other : RoutineState)
    (mirrors : Mirrors (⟨index, mine, yours⟩ :: twins) left right)
    (fair : (Twin.mk index ⟨mine.kind, state⟩ ⟨yours.kind, other⟩).IsFair) :
    Mirrors (⟨index, ⟨mine.kind, state⟩, ⟨yours.kind, other⟩⟩ :: twins)
      (left.setState index state) (right.setState index other) where
  rest := by
    rcases mirrors.rest with ⟨routines, liveFrames, rfl⟩
    exact ⟨_, liveFrames, rfl⟩
  size := by
    unfold Session.setState
    rw [Array.size_modify, Array.size_modify]
    exact mirrors.size
  distinct := mirrors.distinct
  fair := List.forall_mem_cons.mpr ⟨fair, (List.forall_mem_cons.mp mirrors.fair).2⟩
  mine := by
    rcases List.forall_mem_cons.mp mirrors.mine with ⟨here, rest⟩
    refine List.forall_mem_cons.mpr ⟨routine?_setState_self here state, fun twin member => ?_⟩
    have different : twin.index ≠ index := fun equal =>
      (List.nodup_cons.mp mirrors.distinct).1 (List.mem_map.mpr ⟨twin, member, equal⟩)
    exact (routine?_setState_of_ne left different state).trans (rest twin member)
  yours := by
    rcases List.forall_mem_cons.mp mirrors.yours with ⟨here, rest⟩
    refine List.forall_mem_cons.mpr ⟨routine?_setState_self here other, fun twin member => ?_⟩
    have different : twin.index ≠ index := fun equal =>
      (List.nodup_cons.mp mirrors.distinct).1 (List.mem_map.mpr ⟨twin, member, equal⟩)
    exact (routine?_setState_of_ne right different other).trans (rest twin member)
  others number free := by
    have different : number ≠ index := by
      rintro rfl
      exact free List.mem_cons_self
    rw [routine?_setState_of_ne left different, routine?_setState_of_ne right different]
    exact mirrors.others number free

omit mirrors in
/-- A body that is noted gets further, and stays where it is where it yields. -/
theorem setMine {index : Nat} {mine yours : RoutineObject} (state : RoutineState)
    (mirrors : Mirrors (⟨index, mine, yours⟩ :: twins) left right)
    (fair : (Twin.mk index ⟨mine.kind, state⟩ yours).IsFair) :
    Mirrors (⟨index, ⟨mine.kind, state⟩, yours⟩ :: twins) (left.setState index state) right := by
  have further := mirrors.setState state yours.state fair
  rwa [setState_eq_self (List.forall_mem_cons.mp mirrors.yours).1] at further

omit mirrors in
/-- A body that is noted gets further where it yields. -/
theorem setYours {index : Nat} {mine yours : RoutineObject} (state : RoutineState)
    (mirrors : Mirrors (⟨index, mine, yours⟩ :: twins) left right)
    (fair : (Twin.mk index mine ⟨yours.kind, state⟩).IsFair) :
    Mirrors (⟨index, mine, ⟨yours.kind, state⟩⟩ :: twins) left (right.setState index state) := by
  have further := mirrors.setState mine.state state fair
  rwa [setState_eq_self (List.forall_mem_cons.mp mirrors.mine).1] at further

/-! ## Bodies -/

theorem addRoutine (kind : RoutineKind) (name : String) (body : Routine) :
    After (Mirrors twins) (left.addRoutine kind name body)
      (right.addRoutine kind name body.yielding) := by
  refine ⟨?_, ?_⟩
  · show RoutineReference.mk kind left.routines.size name = ⟨kind, right.routines.size, name⟩
    rw [mirrors.size]
  · exact {
      rest := by
        rcases mirrors.rest with ⟨routines, liveFrames, rfl⟩
        exact ⟨_, liveFrames, rfl⟩
      size := by
        unfold Session.addRoutine
        rw [Array.size_push, Array.size_push, mirrors.size]
      distinct := mirrors.distinct
      fair := mirrors.fair
      mine := fun twin member => by
        have found := mirrors.mine twin member
        have there := (Array.getElem?_eq_some_iff.mp found).1
        rwa [routine?_addRoutine_of_ne left kind name body there.ne]
      yours := fun twin member => by
        have found := mirrors.yours twin member
        have there := (Array.getElem?_eq_some_iff.mp found).1
        rwa [routine?_addRoutine_of_ne right kind name body.yielding there.ne]
      others := fun index free => by
        by_cases here : index = left.routines.size
        · subst here
          have placed := routine?_addRoutine_self right kind name body.yielding
          rw [mirrors.size] at placed
          rw [placed, routine?_addRoutine_self]
          rfl
        · rw [routine?_addRoutine_of_ne left kind name body here,
            routine?_addRoutine_of_ne right kind name body.yielding (mirrors.size ▸ here)]
          exact mirrors.others index free }

theorem startTask (body : Routine) :
    After (Mirrors twins) (left.startTask body) (right.startTask body.yielding) := by
  rcases (mirrors.addRoutine .coroutine "task" body).exists with
    ⟨task, leftAfter, rightAfter, onLeft, onRight, mirrorsAfter⟩
  have current := mirrorsAfter.read_eq Session.current fun _ _ _ => rfl
  unfold Session.startTask
  rw [onLeft, onRight]
  dsimp only
  rw [current]
  refine ⟨rfl, ?_⟩
  dsimp only
  exact mirrorsAfter.write (withLoop · _)

theorem withContext {onLeft onRight : Nat → RenderContext → Reply × Session}
    (after : ∀ index context,
      After (Mirrors twins) (onLeft index context) (onRight index context)) :
    After (Mirrors twins) (left.withContext onLeft) (right.withContext onRight) := by
  unfold Session.withContext
  rw [mirrors.read_eq Session.current fun _ _ _ => rfl]
  split
  · exact ⟨rfl, mirrors⟩
  · next index _ =>
      rw [mirrors.read_eq (context? · index) fun _ _ _ => rfl]
      split
      · exact ⟨rfl, mirrors⟩
      · next context _ => exact after index context

/-- What a body has ended with, if it has, does not depend on how it hands over. -/
theorem outcome?_eq (index : Nat) :
    (right.routine? index).bind RoutineObject.outcome?
      = (left.routine? index).bind RoutineObject.outcome? := by
  by_cases noted : index ∈ twins.map Twin.index
  · rcases List.mem_map.mp noted with ⟨twin, member, rfl⟩
    rw [mirrors.yours twin member, mirrors.mine twin member]
    exact (mirrors.fair twin member).outcome
  · rw [mirrors.others index noted]
    cases left.routine? index with
    | none => rfl
    | some object => exact object.outcome?_yielding

theorem outcome_eq (index : Nat) : outcome index right = outcome index left := by
  have told (session : Session) : outcome index session
      = ((session.routine? index).bind RoutineObject.outcome?).getD (.ok .null) := by
    unfold outcome
    rcases session.routine? index with _ | ⟨_, _ | _ | _ | _ | _ | _⟩ <;> rfl
  rw [told, told, mirrors.outcome?_eq]

theorem hasEnded_eq (index : Nat) : right.hasEnded index = left.hasEnded index := by
  have told (session : Session) : session.hasEnded index
      = ((session.routine? index).bind RoutineObject.outcome?).isSome := by
    unfold hasEnded
    rcases session.routine? index with _ | ⟨_, _ | _ | _ | _ | _ | _⟩ <;> rfl
  rw [told, told, mirrors.outcome?_eq]

theorem isOver_eq (pending : Pending) : right.isOver pending = left.isOver pending := by
  cases pending with
  | task index => exact mirrors.hasEnded_eq index
  | value | forever => rfl

theorem isWaiting_eq {index : Nat} (free : index ∉ twins.map Twin.index)
    (own : ∀ object, left.routine? index = some object → ¬ object.HasDelegated) :
    right.isWaiting index = left.isWaiting index := by
  unfold isWaiting
  rw [mirrors.others index free]
  rcases found : left.routine? index with _ | ⟨kind, state⟩
  · rfl
  · cases state with
    | delegating target next =>
        have other : kind ≠ .generator := fun same => own _ found ⟨same, target, next, rfl⟩
        rw [Option.map_some, RoutineObject.yielding_delegating other]
    | _ => cases kind <;> rfl

theorem isAwaited_eq {target : RoutineReference} (free : target.index ∉ twins.map Twin.index) :
    right.isAwaited target = left.isAwaited target := by
  unfold isAwaited
  rw [mirrors.others _ free]
  rcases left.routine? target.index with _ | ⟨_ | _ | _, _ | _ | _ | _ | _ | _⟩ <;>
    cases target.kind <;> rfl

end Mirrors

/-- Where no body is at work, the one session determines the other. -/
theorem eq_yielding_of_mirrors {left right : Session} (mirrors : Mirrors [] left right) :
    right.withLiveFrames 0 = left.yielding.withLiveFrames 0 := by
  have routines : right.routines = left.routines.map RoutineObject.yielding := by
    refine Array.ext_getElem? fun index => ?_
    rw [Array.getElem?_map]
    exact mirrors.others index List.not_mem_nil
  rcases mirrors.rest with ⟨others, liveFrames, rfl⟩
  cases routines
  rfl

theorem outcome_yielding (index : Nat) (session : Session) :
    outcome index session.yielding = outcome index session :=
  (mirrors_yielding session).outcome_eq index

end Session
end HtmlStream
