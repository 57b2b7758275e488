import HtmlStream.Renderer.Turn
import Mathlib.SetTheory.Ordinal.Family

/-!
What is left of bodies. A routine is a tree without infinite branches, so its depth is an ordinal,
and going on with any answer lowers it. `Session.Progresses` compares two sessions body by body:
each body is where it was, or has less left than before.
-/
namespace HtmlStream

open Order

namespace Routine

noncomputable def depth : Routine → Ordinal.{0}
  | .finish _ => 0
  | .reserve _ next => ⨆ first, succ (next first).depth
  | .act _ next => ⨆ reply, succ (next reply).depth
  | .advance _ next => ⨆ advanced, succ (next advanced).depth
  | .start _ next => ⨆ task, succ (next task).depth
  | .suspend _ next => ⨆ reply, succ (next reply).depth

noncomputable def depthAfter (next : Reply → Routine) : Ordinal.{0} :=
  ⨆ reply, succ (next reply).depth

theorem depth_reserve_lt (count : Nat) (next : Nat → Routine) (first : Nat) :
    (next first).depth < (Routine.reserve count next).depth :=
  succ_le_iff.mp (Ordinal.le_iSup (fun first => succ (next first).depth) first)

theorem depth_act_lt (action : Action) (next : Reply → Routine) (reply : Reply) :
    (next reply).depth < (Routine.act action next).depth :=
  succ_le_iff.mp (Ordinal.le_iSup (fun reply => succ (next reply).depth) reply)

theorem depth_advance_lt (index : Nat) (next : Advanced → Routine) (advanced : Advanced) :
    (next advanced).depth < (Routine.advance index next).depth :=
  succ_le_iff.mp (Ordinal.le_iSup (fun advanced => succ (next advanced).depth) advanced)

theorem depth_start_lt (body : Routine) (next : RoutineReference → Routine)
    (task : RoutineReference) : (next task).depth < (Routine.start body next).depth :=
  succ_le_iff.mp (Ordinal.le_iSup (fun task => succ (next task).depth) task)

theorem depth_lt_depthAfter (next : Reply → Routine) (reply : Reply) :
    (next reply).depth < depthAfter next :=
  succ_le_iff.mp (Ordinal.le_iSup (fun reply => succ (next reply).depth) reply)

end Routine

/-- What is left of a body in some state. A body that runs or has ended has nothing left that
anybody else could advance. -/
noncomputable def RoutineState.remaining : RoutineState → Ordinal.{0}
  | .unstarted body => succ body.depth
  | .suspended next | .waiting _ next | .delegating _ next => Routine.depthAfter next
  | .running | .finished _ => 0

namespace Session

/-- What is left of the body with a number. A number that is not in use yet may get any body. -/
noncomputable def remaining (session : Session) (index : Nat) : WithTop Ordinal.{0} :=
  match session.routine? index with
  | some object => object.state.remaining
  | none => ⊤

theorem remaining_of_routine? {session : Session} {index : Nat} {object : RoutineObject}
    (found : session.routine? index = some object) :
    session.remaining index = object.state.remaining := by
  simp [remaining, found]

theorem remaining_congr {before after : Session} {index : Nat}
    (equal : after.routine? index = before.routine? index) :
    after.remaining index = before.remaining index := by
  simp [remaining, equal]

/-! ## Writing to the table of bodies -/

theorem routine?_setState_self {session : Session} {index : Nat} {object : RoutineObject}
    (found : session.routine? index = some object) (state : RoutineState) :
    (session.setState index state).routine? index = some ⟨object.kind, state⟩ := by
  simp only [routine?, setState] at found ⊢
  rw [Array.getElem?_modify, if_pos rfl, found]
  rfl

theorem routine?_setState_of_ne (session : Session) {index other : Nat} (different : other ≠ index)
    (state : RoutineState) : (session.setState index state).routine? other = session.routine? other := by
  simp only [routine?, setState]
  rw [Array.getElem?_modify, if_neg (Ne.symm different)]

theorem addRoutine_index (session : Session) (kind : RoutineKind) (name : String)
    (body : Routine) :
    (session.addRoutine kind name body).1.index = session.routines.size := rfl

theorem routine?_addRoutine_of_ne (session : Session) (kind : RoutineKind) (name : String)
    (body : Routine) {index : Nat} (different : index ≠ session.routines.size) :
    (session.addRoutine kind name body).2.routine? index = session.routine? index := by
  simp only [routine?, addRoutine]
  rw [Array.getElem?_push, if_neg different]

theorem routine?_addRoutine_self (session : Session) (kind : RoutineKind) (name : String)
    (body : Routine) :
    (session.addRoutine kind name body).2.routine? session.routines.size
      = some ⟨kind, .unstarted body⟩ := by
  simp [routine?, addRoutine]

theorem routine?_size (session : Session) : session.routine? session.routines.size = none := by
  simp [routine?]

/-! ## Progress -/

/-- Every body is where it was, or has less left. -/
def Progresses (before after : Session) : Prop :=
  ∀ index, after.routine? index = before.routine? index ∨
    after.remaining index < before.remaining index

namespace Progresses

theorem of_routines_eq {before after : Session} (equal : after.routines = before.routines) :
    Progresses before after :=
  fun index => .inl (by simp only [routine?, equal])

theorem refl (session : Session) : Progresses session session := of_routines_eq rfl

theorem trans {first second third : Session} (earlier : Progresses first second)
    (later : Progresses second third) : Progresses first third := by
  intro index
  rcases later index with same | lower
  · rcases earlier index with same' | lower'
    · exact .inl (same.trans same')
    · exact .inr (remaining_congr same ▸ lower')
  · rcases earlier index with same' | lower'
    · exact .inr (remaining_congr same' ▸ lower)
    · exact .inr (lower.trans lower')

theorem remaining_le {before after : Session} (progress : Progresses before after) (index : Nat) :
    after.remaining index ≤ before.remaining index := by
  rcases progress index with same | lower
  · exact (remaining_congr same).le
  · exact lower.le

/-- Nobody else advances a body that runs or has ended. -/
theorem routine?_eq {before after : Session} (progress : Progresses before after) {index : Nat}
    (nothing : before.remaining index = 0) : after.routine? index = before.routine? index := by
  rcases progress index with same | lower
  · exact same
  · rw [nothing] at lower
    exact absurd lower not_lt_zero

theorem addRoutine (session : Session) (kind : RoutineKind) (name : String) (body : Routine) :
    Progresses session (session.addRoutine kind name body).2 := by
  intro index
  by_cases fresh : index = session.routines.size
  · subst fresh
    right
    rw [remaining_of_routine? (session.routine?_addRoutine_self kind name body)]
    simp [remaining, routine?_size]
  · exact .inl (session.routine?_addRoutine_of_ne kind name body fresh)

/-- A body may be given any state in which less is left of it. -/
theorem setState {session : Session} {index : Nat} {object : RoutineObject} {state : RoutineState}
    (found : session.routine? index = some object)
    (lower : state.remaining < object.state.remaining) :
    Progresses session (session.setState index state) := by
  intro other
  by_cases equal : other = index
  · subst equal
    right
    rw [remaining_of_routine? (routine?_setState_self found state), remaining_of_routine? found]
    exact WithTop.coe_lt_coe.mpr lower
  · exact .inl (session.routine?_setState_of_ne equal state)

end Progresses

/-! ## What sessions do apart from their bodies -/

@[simp] theorem routines_enterFrame (session : Session) (context : Nat) (frame : Frame) :
    (session.enterFrame context frame).routines = session.routines := by
  unfold enterFrame
  split <;> rfl

@[simp] theorem routines_leaveFrame (session : Session) (context : Nat) (frame : Frame) :
    (session.leaveFrame context frame).routines = session.routines := by
  unfold leaveFrame
  split <;> rfl

theorem routines_withContext {session : Session} {use : Nat → RenderContext → Reply × Session}
    (keeps : ∀ index context, (use index context).2.routines = session.routines) :
    (session.withContext use).2.routines = session.routines := by
  unfold withContext
  split
  · rfl
  · split
    · rfl
    · exact keeps _ _

@[simp] theorem routines_readContext (session : Session) (field : ContextField) :
    (session.readContext field).2.routines = session.routines :=
  routines_withContext fun _ _ => rfl

@[simp] theorem routines_readMeta (session : Session) (key : String) (default : Value) :
    (session.readMeta key default).2.routines = session.routines :=
  routines_withContext fun _ _ => rfl

@[simp] theorem routines_writeMeta (session : Session) (key : String) (value : Value) :
    (session.writeMeta key value).2.routines = session.routines :=
  routines_withContext fun _ _ => rfl

@[simp] theorem routines_register (session : Session) (key source : Value) :
    (session.register key source).2.routines = session.routines := by
  unfold register
  split <;> rfl

end Session
end HtmlStream
