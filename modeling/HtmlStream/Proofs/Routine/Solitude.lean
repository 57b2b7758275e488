import HtmlStream.Proofs.Routine.Correspondence
import HtmlStream.Proofs.Routine.Requesting

/-!
Bodies that only one of two corresponding sessions has. What such a body does by itself leaves
everything that corresponds as it is. The main statement is `Corresponds.besides`.
-/
namespace HtmlStream.Session

/-! ## Acting alone -/

/-- A body has done something by itself: it got further, and made new bodies and objects. Nothing
else is different but the number of live frames. -/
inductive ActsAlone (index : Nat) (before : Session) : Session → Prop
  | nothing : ActsAlone index before before
  | counts {after : Session} (earlier : ActsAlone index before after) (count : Nat) :
      ActsAlone index before (after.withLiveFrames count)
  | getsTo {after : Session} (earlier : ActsAlone index before after) (state : RoutineState) :
      ActsAlone index before (after.setState index state)
  | opens {after : Session} (earlier : ActsAlone index before after) (kind : RoutineKind)
      (name : String) (body : Routine) :
      ActsAlone index before (after.addRoutine kind name body).2
  | makes {after : Session} (earlier : ActsAlone index before after) (count : Nat) :
      ActsAlone index before { after with nextIdentity := after.nextIdentity + count }

namespace ActsAlone

variable {index : Nat} {before between after : Session}

theorem trans (earlier : ActsAlone index before between) (later : ActsAlone index between after) :
    ActsAlone index before after := by
  induction later with
  | nothing => exact earlier
  | counts _ count induction => exact induction.counts count
  | getsTo _ state induction => exact induction.getsTo state
  | opens _ kind name body induction => exact induction.opens kind name body
  | makes _ count induction => exact induction.makes count

theorem size_le (alone : ActsAlone index before after) :
    before.routines.size ≤ after.routines.size := by
  induction alone with
  | nothing => exact le_rfl
  | counts _ _ induction | makes _ _ induction => exact induction
  | @getsTo between _ state induction =>
      have same : (between.setState index state).routines.size = between.routines.size :=
        Array.size_modify ..
      rw [same]
      exact induction
  | @opens between _ kind name body induction =>
      have more : (between.addRoutine kind name body).2.routines.size = between.routines.size + 1 :=
        Array.size_push ..
      omega

theorem keeps (alone : ActsAlone index before after) {other : Nat}
    (there : other < before.routines.size) (different : other ≠ index) :
    after.routine? other = before.routine? other := by
  induction alone with
  | nothing => rfl
  | counts _ _ induction | makes _ _ induction => exact induction
  | @getsTo between _ state induction =>
      exact (routine?_setState_of_ne between different state).trans induction
  | @opens between earlier kind name body induction =>
      have known : other ≠ between.routines.size := (there.trans_le earlier.size_le).ne
      exact (routine?_addRoutine_of_ne between kind name body known).trans induction

end ActsAlone

/-! ## Corresponding sessions -/

namespace Corresponds

variable {base pairing : Pairing} {left right after : Session} {index : Nat}

/-- What a body does by itself that only the first session has does not count. -/
theorem aloneLeft (same : Corresponds base pairing left right)
    (single : ∀ other, ¬ pairing.routine index other) (alone : ActsAlone index left after) :
    Corresponds base pairing after right := by
  induction alone with
  | nothing => exact same
  | counts _ count induction => exact induction.withLiveFrames count right.liveFrames
  | getsTo _ state induction => exact induction.setStateLeft single state
  | opens _ kind name body induction => exact induction.addRoutineLeft kind name body
  | makes _ count induction =>
      exact { induction with
        identityBound := fun paired =>
          (induction.identityBound paired).imp_left (Nat.lt_add_right count) }

theorem aloneRight (same : Corresponds base pairing left right)
    (single : ∀ other, ¬ pairing.routine other index) (alone : ActsAlone index right after) :
    Corresponds base pairing left after := by
  induction alone with
  | nothing => exact same
  | counts _ count induction => exact induction.withLiveFrames left.liveFrames count
  | getsTo _ state induction => exact induction.setStateRight single state
  | opens _ kind name body induction => exact induction.addRoutineRight kind name body
  | makes _ count induction => exact induction.reserveRight count

end Corresponds

/-- Two corresponding sessions have gone on, and so has a body of each that the other one does not
have. -/
structure GrowsBeside (mine yours : Nat) (pairing : Pairing) (left right : Session)
    (later : Pairing) (leftAfter rightAfter : Session) : Prop where
  extend : pairing.Extends later
  fresh : ∀ {index other}, later.routine index other → pairing.routine index other ∨
    (left.routines.size ≤ index ∧ right.routines.size ≤ other)
  leftSize : left.routines.size ≤ leftAfter.routines.size
  rightSize : right.routines.size ≤ rightAfter.routines.size
  keepsLeft : ∀ {index}, index < left.routines.size → index ≠ mine →
    (∀ other, ¬ pairing.routine index other) → leftAfter.routine? index = left.routine? index
  keepsRight : ∀ {other}, other < right.routines.size → other ≠ yours →
    (∀ index, ¬ pairing.routine index other) → rightAfter.routine? other = right.routine? other

namespace GrowsBeside

variable {mine yours : Nat} {pairing between later : Pairing} {left right leftBetween rightBetween
  leftAfter rightAfter : Session}

theorem of_grows (grows : Grows pairing left right later leftAfter rightAfter) :
    GrowsBeside mine yours pairing left right later leftAfter rightAfter where
  extend := grows.extend
  fresh := grows.fresh
  leftSize := grows.leftSize
  rightSize := grows.rightSize
  keepsLeft there _ single := grows.keepsLeft there single
  keepsRight there _ single := grows.keepsRight there single

/-- Both bodies have acted alone. -/
theorem of_alone (first : ActsAlone mine left leftAfter) (second : ActsAlone yours right rightAfter) :
    GrowsBeside mine yours pairing left right pairing leftAfter rightAfter where
  extend := .refl pairing
  fresh := .inl
  leftSize := first.size_le
  rightSize := second.size_le
  keepsLeft there different _ := first.keeps there different
  keepsRight there different _ := second.keeps there different

/-- After what two bodies have done, others have gone on, which are the same or new. -/
theorem trans {first second : Nat}
    (earlier : GrowsBeside mine yours pairing left right between leftBetween rightBetween)
    (next : GrowsBeside first second between leftBetween rightBetween later leftAfter rightAfter)
    (leftKnown : first = mine ∨ left.routines.size ≤ first)
    (rightKnown : second = yours ∨ right.routines.size ≤ second) :
    GrowsBeside mine yours pairing left right later leftAfter rightAfter where
  extend := earlier.extend.trans next.extend
  fresh paired := by
    rcases next.fresh paired with paired | ⟨index, other⟩
    · exact earlier.fresh paired
    · exact .inr ⟨earlier.leftSize.trans index, earlier.rightSize.trans other⟩
  leftSize := earlier.leftSize.trans next.leftSize
  rightSize := earlier.rightSize.trans next.rightSize
  keepsLeft {index} there different single := by
    have still (other : Nat) : ¬ between.routine index other := fun paired =>
      (earlier.fresh paired).elim (single other) fun ⟨more, _⟩ => absurd there (Nat.not_lt.mpr more)
    have other : index ≠ first := by omega
    exact (next.keepsLeft (there.trans_le earlier.leftSize) other still).trans
      (earlier.keepsLeft there different single)
  keepsRight {other} there different single := by
    have still (index : Nat) : ¬ between.routine index other := fun paired =>
      (earlier.fresh paired).elim (single index) fun ⟨_, more⟩ => absurd there (Nat.not_lt.mpr more)
    have others : other ≠ second := by omega
    exact (next.keepsRight (there.trans_le earlier.rightSize) others still).trans
      (earlier.keepsRight there different single)

end GrowsBeside

/-! ## Bodies side by side -/

/-- Two corresponding sessions, and a body of each that the other one does not have. -/
structure InTandem (base pairing : Pairing) (left right : Session) (mine yours : Nat) : Prop where
  same : Corresponds base pairing left right
  leftThere : mine < left.routines.size
  rightThere : yours < right.routines.size
  leftSingle : ∀ other, ¬ pairing.routine mine other
  rightSingle : ∀ index, ¬ pairing.routine index yours

namespace InTandem

variable {base pairing later : Pairing} {left right leftAfter rightAfter : Session} {mine yours : Nat}

theorem grows {first second : Nat} (tandem : InTandem base pairing left right mine yours)
    (grows : GrowsBeside first second pairing left right later leftAfter rightAfter)
    (same : Corresponds base later leftAfter rightAfter) :
    InTandem base later leftAfter rightAfter mine yours where
  same
  leftThere := tandem.leftThere.trans_le grows.leftSize
  rightThere := tandem.rightThere.trans_le grows.rightSize
  leftSingle other paired := (grows.fresh paired).elim (tandem.leftSingle other) fun known =>
    absurd tandem.leftThere (Nat.not_lt.mpr known.1)
  rightSingle index paired := (grows.fresh paired).elim (tandem.rightSingle index) fun known =>
    absurd tandem.rightThere (Nat.not_lt.mpr known.2)

/-- Both bodies have acted alone. -/
theorem alone (tandem : InTandem base pairing left right mine yours)
    (first : ActsAlone mine left leftAfter) (second : ActsAlone yours right rightAfter) :
    InTandem base pairing leftAfter rightAfter mine yours :=
  tandem.grows (.of_alone first second)
    ((tandem.same.aloneLeft tandem.leftSingle first).aloneRight tandem.rightSingle second)

end InTandem

/-! ## Bodies that yield -/

variable {session after : Session} {index : Nat}

/-- Advancing a generator with a reply runs a routine, and closing it instead is not noticed. -/
structure Performs (session : Session) (index : Nat) (reply : Reply) (routine : Routine) : Prop where
  ready : session.IsBefore index .generator reply routine
  closable : session.IsClosable index

theorem IsClosable.of_eq (closable : session.IsClosable index)
    (same : after.routine? index = session.routine? index) : after.IsClosable index := by
  cases closable with
  | unstarted body found => exact .unstarted body (same.trans found)
  | suspended next found failed => exact .suspended next (same.trans found) failed
  | finished outcome found => exact .finished outcome (same.trans found)

namespace Performs

variable {reply : Reply} {routine : Routine}

theorem of_eq (performs : session.Performs index reply routine)
    (same : after.routine? index = session.routine? index) : after.Performs index reply routine where
  ready := by
    cases performs.ready with
    | unstarted found => exact .unstarted (same.trans found)
    | suspended reply found goesOn => exact .suspended reply (same.trans found) goesOn
  closable := performs.closable.of_eq same

theorem unstarted (found : session.routine? index = some ⟨.generator, .unstarted routine⟩) :
    session.Performs index (.ok .null) routine :=
  ⟨.unstarted found, .unstarted routine found⟩

/-- A suspended body that every failure ends. -/
theorem suspended {next : Reply → Routine}
    (found : session.routine? index = some ⟨.generator, .suspended next⟩)
    (failed : ∀ failure, next (.error failure) = .finish (.error failure)) (reply : Reply) :
    session.Performs index reply (next reply) :=
  ⟨.suspended reply found rfl, .suspended next found failed⟩

/-- A body that has just yielded an effect goes on with the others. -/
theorem yielded {state : RoutineState} (found : session.routine? index = some ⟨.generator, state⟩)
    (rest : List (Except Failure Value)) (value : Value) :
    (session.setState index (.suspended fun
      | .ok _ => .yieldAll rest
      | .error failure => .finish (.error failure))).Performs index (.ok value) (.yieldAll rest) := by
  have after := routine?_setState_self found (.suspended fun
    | .ok _ => .yieldAll rest
    | .error failure => .finish (.error failure))
  exact suspended after (fun _ => rfl) (.ok value)

theorem there (performs : session.Performs index reply routine) :
    index < session.routines.size := by
  rcases performs.ready.exists_object with ⟨state, found⟩
  exact (Array.getElem?_eq_some_iff.mp found).1

end Performs

/-- What is left of a body that has begun to yield effects. -/
def YieldsOn (session : Session) (index : Nat) : List (Except Failure Value) → Prop
  | .ok _ :: rest => ∀ value, session.Performs index (.ok value) (.yieldAll rest)
  | _ => session.IsClosable index

/-- Advancing a body that yields gives its first effect, or ends it; nothing else happens. -/
theorem resume_performs (library : Library) {reply : Reply} {effects : List (Except Failure Value)}
    (performs : session.Performs index reply (.yieldAll effects)) :
    ∃ after, session.resume library index reply = (progressOf effects, after) ∧
      ActsAlone index session after ∧ after.YieldsOn index effects := by
  rcases performs.ready.exists_object with ⟨state, found⟩
  have running := routine?_setState_self found .running
  rw [resume_of_isBefore library performs.ready]
  rcases effects with _ | ⟨failure | effect, rest⟩
  all_goals refine ⟨_, rfl, (ActsAlone.nothing.getsTo .running).getsTo _, ?_⟩
  · exact .finished _ (routine?_setState_self running _)
  · exact .finished _ (routine?_setState_self running _)
  · exact Performs.yielded running rest

/-- A body whose close is not noticed is closed, and nothing else happens. -/
theorem closeRoutine_alone (library : Library) (closable : session.IsClosable index) :
    ∃ after, session.closeRoutine library index = (none, after) ∧
      ActsAlone index session after := by
  unfold closeRoutine close
  cases closable with
  | unstarted body found =>
      rw [found]
      exact ⟨_, rfl, .getsTo .nothing _⟩
  | suspended next found failed =>
      have exited : session.resume library index (.error .exit)
          = (.raised .exit, (session.setState index .running).setState index
              (.finished (.error .exit))) := by
        rw [resume_of_isBefore library (.suspended (.error .exit) found rfl), failed]
        rfl
      rw [found]
      dsimp only
      rw [exited]
      exact ⟨_, rfl, (ActsAlone.nothing.getsTo _).getsTo _⟩
  | finished outcome found =>
      rw [found]
      exact ⟨_, rfl, .nothing⟩

end HtmlStream.Session
