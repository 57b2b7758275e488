import HtmlStream.Proofs.Routine.Renumbering

/-!
Pairings of the numbers of two sessions. A pairing says which numbers belong together; it grows as
the sessions do. What is related by a pairing is the same under every renumbering that the pairing
allows. So nothing that is related shows a number outside the pairing.
-/
namespace HtmlStream

/-! ## Pairings -/

/-- Which numbers of bodies and of objects belong together in two sessions. -/
structure Pairing where
  routine : Nat → Nat → Prop
  identity : Nat → Nat → Prop

namespace Pairing

/-- The renumbering takes every number to the one that belongs to it. -/
structure Allows (pairing : Pairing) (numbers : Renumbering) : Prop where
  routine : ∀ {index other}, pairing.routine index other → numbers.routine index = other
  identity : ∀ {number other}, pairing.identity number other → numbers.identity number = other

/-- Two things are the same, whatever the numbers that do not belong together are taken to. -/
structure Relates {α : Type} [Numbered α] (pairing : Pairing) (left right : α) : Prop where
  lacks : LacksProbe left
  equal : ∀ {numbers}, pairing.Allows numbers → right = renumbered numbers left

/-- Two bodies do the same, whatever the numbers that do not belong together are taken to. -/
def Runs (pairing : Pairing) (routine twin : Routine) : Prop :=
  ∀ numbers, pairing.Allows numbers → routine.Renumbers numbers twin

/-- What two bodies do with what they are given is the same. -/
def Answers {α : Type} [Numbered α] (pairing : Pairing) (next other : α → Routine) : Prop :=
  ∀ numbers, pairing.Allows numbers → ∀ given, LacksProbe given →
    (next given).Renumbers numbers (other (renumbered numbers given))

/-- Two bodies got equally far. -/
inductive SameState (pairing : Pairing) : RoutineState → RoutineState → Prop
  | unstarted {body twin : Routine} (runs : pairing.Runs body twin) :
      SameState pairing (.unstarted body) (.unstarted twin)
  | suspended {next other : Reply → Routine} (answers : pairing.Answers next other) :
      SameState pairing (.suspended next) (.suspended other)
  | waiting {pending pause : Pending} {next other : Reply → Routine}
      (answers : pairing.Answers next other) :
      SameState pairing (.waiting pending next) (.waiting pause other)
  | delegating {target twin : Nat} {next other : Reply → Routine}
      (paired : pairing.routine target twin) (answers : pairing.Answers next other) :
      SameState pairing (.delegating target next) (.delegating twin other)
  | running : SameState pairing .running .running
  | finished {outcome other : Reply} (related : pairing.Relates outcome other) :
      SameState pairing (.finished outcome) (.finished other)

/-- A pairing of some more numbers. -/
structure Extends (earlier later : Pairing) : Prop where
  routine : ∀ {index other}, earlier.routine index other → later.routine index other
  identity : ∀ {number other}, earlier.identity number other → later.identity number other

namespace Extends

theorem refl (pairing : Pairing) : Extends pairing pairing := ⟨id, id⟩

theorem trans {first second third : Pairing} (earlier : Extends first second)
    (later : Extends second third) : Extends first third :=
  ⟨fun paired => later.routine (earlier.routine paired),
    fun paired => later.identity (earlier.identity paired)⟩

theorem allows {earlier later : Pairing} (extend : Extends earlier later) {numbers : Renumbering}
    (allows : later.Allows numbers) : earlier.Allows numbers :=
  ⟨fun paired => allows.routine (extend.routine paired),
    fun paired => allows.identity (extend.identity paired)⟩

theorem relates {α : Type} [Numbered α] {earlier later : Pairing} (extend : Extends earlier later)
    {left right : α} (related : earlier.Relates left right) : later.Relates left right :=
  ⟨related.lacks, fun allows => related.equal (extend.allows allows)⟩

theorem runs {earlier later : Pairing} (extend : Extends earlier later) {routine twin : Routine}
    (same : earlier.Runs routine twin) : later.Runs routine twin :=
  fun numbers allows => same numbers (extend.allows allows)

theorem answers {α : Type} [Numbered α] {earlier later : Pairing} (extend : Extends earlier later)
    {next other : α → Routine} (same : earlier.Answers next other) : later.Answers next other :=
  fun numbers allows => same numbers (extend.allows allows)

theorem sameState {earlier later : Pairing} (extend : Extends earlier later)
    {state twin : RoutineState} (same : earlier.SameState state twin) :
    later.SameState state twin := by
  cases same with
  | unstarted runs => exact .unstarted (extend.runs runs)
  | suspended answers => exact .suspended (extend.answers answers)
  | waiting answers => exact .waiting (extend.answers answers)
  | delegating paired answers => exact .delegating (extend.routine paired) (extend.answers answers)
  | running => exact .running
  | finished related => exact .finished (extend.relates related)

end Extends

/-- A body that is not paired may be taken to any number that is free. -/
theorem exists_allows_routine {pairing : Pairing} {numbers : Renumbering}
    (allows : pairing.Allows numbers) {index free : Nat} (single : ∀ other, ¬ pairing.routine index other)
    (unused : ∀ other, ¬ pairing.routine other free) :
    ∃ changed, pairing.Allows changed ∧ changed.routine index = free := by
  refine ⟨⟨numbers.routine.trans (Equiv.swap (numbers.routine index) free), numbers.identity⟩,
    ⟨fun {body other} paired => ?_, allows.identity⟩, Equiv.swap_apply_left ..⟩
  have taken := allows.routine paired
  have different : body ≠ index := fun same => single other (same ▸ paired)
  refine (Equiv.swap_apply_of_ne_of_ne ?_ ?_).trans taken
  · exact fun same => different (numbers.routine.injective same)
  · rw [taken]
    exact fun same => unused body (same ▸ paired)

theorem exists_allows_identity {pairing : Pairing} {numbers : Renumbering}
    (allows : pairing.Allows numbers) {number free : Nat}
    (single : ∀ other, ¬ pairing.identity number other)
    (unused : ∀ other, ¬ pairing.identity other free) :
    ∃ changed, pairing.Allows changed ∧ changed.identity number = free := by
  refine ⟨⟨numbers.routine, numbers.identity.trans (Equiv.swap (numbers.identity number) free)⟩,
    ⟨allows.routine, fun {object other} paired => ?_⟩, Equiv.swap_apply_left ..⟩
  have taken := allows.identity paired
  have different : object ≠ number := fun same => single other (same ▸ paired)
  refine (Equiv.swap_apply_of_ne_of_ne ?_ ?_).trans taken
  · exact fun same => different (numbers.identity.injective same)
  · rw [taken]
    exact fun same => unused object (same ▸ paired)

/-- The pairing with one more pair of bodies. -/
def withRoutine (pairing : Pairing) (index other : Nat) : Pairing :=
  { pairing with routine := fun body twin =>
      pairing.routine body twin ∨ (body = index ∧ twin = other) }

/-- The pairing with as many more pairs of objects. -/
def withIdentities (pairing : Pairing) (first other count : Nat) : Pairing :=
  { pairing with identity := fun number twin =>
      pairing.identity number twin ∨
        ∃ offset < count, number = first + offset ∧ twin = other + offset }

theorem extends_withRoutine (pairing : Pairing) (index other : Nat) :
    pairing.Extends (pairing.withRoutine index other) :=
  ⟨.inl, id⟩

theorem extends_withIdentities (pairing : Pairing) (first other count : Nat) :
    pairing.Extends (pairing.withIdentities first other count) :=
  ⟨id, .inl⟩

theorem exists_allows_withRoutine {pairing : Pairing} {numbers : Renumbering}
    (allows : pairing.Allows numbers) {index free : Nat} (single : ∀ other, ¬ pairing.routine index other)
    (unused : ∀ other, ¬ pairing.routine other free) :
    ∃ changed, (pairing.withRoutine index free).Allows changed := by
  rcases exists_allows_routine allows single unused with ⟨changed, allows, taken⟩
  refine ⟨changed, ?_, allows.identity⟩
  rintro body twin (paired | ⟨rfl, rfl⟩)
  · exact allows.routine paired
  · exact taken

theorem exists_allows_withIdentities {pairing : Pairing} {numbers : Renumbering}
    (allows : pairing.Allows numbers) {first free : Nat}
    (bound : ∀ {number other}, pairing.identity number other → number < first ∧ other < free)
    (count : Nat) : ∃ changed, (pairing.withIdentities first free count).Allows changed := by
  induction count with
  | zero =>
      refine ⟨numbers, allows.routine, ?_⟩
      rintro number other (paired | ⟨offset, less, _⟩)
      · exact allows.identity paired
      · exact (Nat.not_lt_zero offset less).elim
  | succ count induction =>
      rcases induction with ⟨numbers, allows⟩
      have single (other : Nat) :
          ¬ (pairing.withIdentities first free count).identity (first + count) other := by
        rintro (paired | ⟨offset, less, same, _⟩)
        · exact absurd (bound paired).1 (Nat.not_lt.mpr (Nat.le_add_right first count))
        · omega
      have unused (number : Nat) :
          ¬ (pairing.withIdentities first free count).identity number (free + count) := by
        rintro (paired | ⟨offset, less, _, same⟩)
        · exact absurd (bound paired).2 (Nat.not_lt.mpr (Nat.le_add_right free count))
        · omega
      rcases exists_allows_identity allows single unused with ⟨changed, allows, taken⟩
      refine ⟨changed, allows.routine, ?_⟩
      rintro number other (paired | ⟨offset, less, rfl, rfl⟩)
      · exact allows.identity (.inl paired)
      · rcases Nat.lt_succ_iff_lt_or_eq.mp less with less | rfl
        · exact allows.identity (.inr ⟨offset, less, rfl, rfl⟩)
        · exact taken

end Pairing

/-! ## What is related -/

/-- What is made of a thing says no more about numbers than the thing itself. -/
structure IsUniform {α β : Type} [Numbered α] [Numbered β] (make : α → β) : Prop where
  renumbered : ∀ numbers content, renumbered numbers (make content) = make (renumbered numbers content)
  lacksProbe : ∀ content, LacksProbe content → LacksProbe (make content)

namespace Pairing

variable {α β : Type} [Numbered α] [Numbered β] {pairing : Pairing}

theorem Relates.map {make : α → β} (uniform : IsUniform make) {left right : α}
    (related : pairing.Relates left right) : pairing.Relates (make left) (make right) where
  lacks := uniform.lacksProbe left related.lacks
  equal {numbers} allows := by rw [uniform.renumbered numbers, ← related.equal allows]

/-- What is related to something that was made in some way was made in that way. -/
theorem Relates.made {make : α → β} (injective : Function.Injective make)
    (renumbered : ∀ numbers content,
      renumbered numbers (make content) = make (Numbered.renumbered numbers content))
    (inhabited : ∃ numbers, pairing.Allows numbers) {left : α} {right : β}
    (related : pairing.Relates (make left) right) (lacks : LacksProbe left) :
    ∃ content, right = make content ∧ pairing.Relates left content := by
  rcases inhabited with ⟨numbers, allows⟩
  refine ⟨Numbered.renumbered numbers left, (related.equal allows).trans (renumbered numbers left),
    lacks, fun allowsToo => injective ?_⟩
  rw [← renumbered numbers, ← renumbered, ← related.equal allows, ← related.equal allowsToo]

theorem relates_self {content : α} (lacks : LacksProbe content)
    (same : ∀ numbers, renumbered numbers content = content) : pairing.Relates content content :=
  ⟨lacks, fun _ => (same _).symm⟩

theorem relates_cons {left right : α} {lefts rights : List α} (first : pairing.Relates left right)
    (others : pairing.Relates lefts rights) :
    pairing.Relates (left :: lefts) (right :: rights) where
  lacks := List.forall_mem_cons.mpr ⟨first.lacks, others.lacks⟩
  equal allows := congrArg₂ List.cons (first.equal allows) (others.equal allows)

theorem relates_nil : pairing.Relates ([] : List α) [] :=
  ⟨fun _ absent => (List.not_mem_nil absent).elim, fun _ => rfl⟩

theorem relates_pair {left right : α} {other twin : β} (first : pairing.Relates left right)
    (second : pairing.Relates other twin) : pairing.Relates (left, other) (right, twin) :=
  ⟨⟨first.lacks, second.lacks⟩, fun allows => congrArg₂ Prod.mk (first.equal allows)
    (second.equal allows)⟩

theorem Relates.fst {left right : α × β} (related : pairing.Relates left right) :
    pairing.Relates left.1 right.1 :=
  ⟨related.lacks.1, fun allows => congrArg Prod.fst (related.equal allows)⟩

theorem Relates.snd {left right : α × β} (related : pairing.Relates left right) :
    pairing.Relates left.2 right.2 :=
  ⟨related.lacks.2, fun allows => congrArg Prod.snd (related.equal allows)⟩

theorem relates_ok {left right : α} (related : pairing.Relates left right) :
    pairing.Relates (Except.ok left : Except β α) (.ok right) :=
  ⟨related.lacks, fun allows => congrArg Except.ok (related.equal allows)⟩

theorem relates_error {left right : β} (related : pairing.Relates left right) :
    pairing.Relates (Except.error left : Except β α) (.error right) :=
  ⟨related.lacks, fun allows => congrArg Except.error (related.equal allows)⟩

theorem relates_some {left right : α} (related : pairing.Relates left right) :
    pairing.Relates (some left) (some right) :=
  ⟨lacksProbe_some related.lacks, fun allows => congrArg some (related.equal allows)⟩

theorem relates_none : pairing.Relates (none : Option α) none :=
  ⟨lacksProbe_none, fun _ => rfl⟩

theorem Relates.option_cases (inhabited : ∃ numbers, pairing.Allows numbers) {left right : Option α}
    (related : pairing.Relates left right) :
    (left = none ∧ right = none) ∨
      ∃ mine yours, left = some mine ∧ right = some yours ∧ pairing.Relates mine yours := by
  cases left with
  | none =>
      rcases inhabited with ⟨numbers, allows⟩
      exact .inl ⟨rfl, related.equal allows⟩
  | some mine =>
      rcases related.made (fun _ _ => Option.some.inj) (fun _ _ => rfl) inhabited
        (related.lacks mine rfl) with ⟨yours, found, content⟩
      exact .inr ⟨mine, yours, rfl, found, content⟩

end Pairing

/-! ## What corresponding bodies do next -/

namespace Routine.Renumbers

variable {numbers : Renumbering} {twin : Routine}

theorem of_finish {result : Reply} (same : Renumbers numbers (.finish result) twin) :
    twin = .finish (renumbered numbers result) ∧ LacksProbe result := by
  cases same with
  | finish lacks => exact ⟨rfl, lacks⟩

theorem of_reserve {count : Nat} {next : Nat → Routine}
    (same : Renumbers numbers (.reserve count next) twin) :
    ∃ other, twin = .reserve count other ∧ ∀ first started, (∀ offset < count,
      numbers.identity (first + offset) = started + offset) →
        Renumbers numbers (next first) (other started) := by
  cases same with
  | reserve rest => exact ⟨_, rfl, rest⟩

theorem of_act {action : Action} {next : Reply → Routine}
    (same : Renumbers numbers (.act action next) twin) :
    ∃ other, twin = .act (renumbered numbers action) other ∧ LacksProbe action ∧
      ContinuesAs numbers next other := by
  cases same with
  | act lacks rest => exact ⟨_, rfl, lacks, rest⟩

theorem of_advance {index : Nat} {next : Advanced → Routine}
    (same : Renumbers numbers (.advance index next) twin) :
    ∃ other, twin = .advance (numbers.routine index) other ∧ ∀ advanced, LacksProbe advanced →
      Renumbers numbers (next advanced) (other (renumbered numbers advanced)) := by
  cases same with
  | advance rest => exact ⟨_, rfl, rest⟩

theorem of_start {body : Routine} {next : RoutineReference → Routine}
    (same : Renumbers numbers (.start body next) twin) :
    ∃ begun other, twin = .start begun other ∧ Renumbers numbers body begun ∧
      ∀ task, Renumbers numbers (next task) (other (renumbered numbers task)) := by
  cases same with
  | start begun rest => exact ⟨_, _, rfl, begun, rest⟩

theorem of_suspend {suspension : Suspension} {next : Reply → Routine}
    (same : Renumbers numbers (.suspend suspension next) twin) :
    ∃ other, twin = .suspend (renumbered numbers suspension) other ∧ LacksProbe suspension ∧
      ContinuesAs numbers next other := by
  cases same with
  | suspend lacks rest => exact ⟨_, rfl, lacks, rest⟩

end Routine.Renumbers

namespace Pairing

variable {α : Type} [Numbered α] {pairing : Pairing} {twin : Routine}

theorem Answers.runs {next other : α → Routine} (answers : pairing.Answers next other)
    {given taken : α} (related : pairing.Relates given taken) :
    pairing.Runs (next given) (other taken) := by
  intro numbers allows
  rw [related.equal allows]
  exact answers numbers allows given related.lacks

namespace Runs

variable (inhabited : ∃ numbers, pairing.Allows numbers)

include inhabited

theorem finish {result : Reply} (same : pairing.Runs (.finish result) twin) :
    ∃ other, twin = .finish other ∧ pairing.Relates result other := by
  rcases inhabited with ⟨numbers, allows⟩
  rcases (same numbers allows).of_finish with ⟨rfl, lacks⟩
  refine ⟨_, rfl, lacks, fun {changed} allowsToo => ?_⟩
  exact Routine.finish.inj (same changed allowsToo).of_finish.1

theorem reserve {count : Nat} {next : Nat → Routine}
    (same : pairing.Runs (.reserve count next) twin) :
    ∃ other, twin = .reserve count other ∧ ∀ first started,
      (pairing.withIdentities first started count).Runs (next first) (other started) := by
  rcases inhabited with ⟨numbers, allows⟩
  rcases (same numbers allows).of_reserve with ⟨other, rfl, _⟩
  refine ⟨other, rfl, fun first started changed allowsToo => ?_⟩
  have extend := pairing.extends_withIdentities first started count
  rcases (same changed (extend.allows allowsToo)).of_reserve with ⟨twin, equal, rest⟩
  cases (Routine.reserve.inj equal).2
  exact rest first started fun offset less => allowsToo.identity (.inr ⟨offset, less, rfl, rfl⟩)

theorem act {action : Action} {next : Reply → Routine}
    (same : pairing.Runs (.act action next) twin) :
    ∃ deed other, twin = .act deed other ∧ pairing.Relates action deed ∧
      pairing.Answers next other := by
  rcases inhabited with ⟨numbers, allows⟩
  rcases (same numbers allows).of_act with ⟨other, rfl, lacks, _⟩
  refine ⟨_, other, rfl, ⟨lacks, fun {changed} allowsToo => ?_⟩, fun changed allowsToo => ?_⟩
  · rcases (same changed allowsToo).of_act with ⟨twin, equal, _⟩
    exact (Routine.act.inj equal).1
  · rcases (same changed allowsToo).of_act with ⟨twin, equal, _, rest⟩
    rw [(Routine.act.inj equal).2]
    exact rest

theorem advance {index : Nat} {next : Advanced → Routine}
    (same : pairing.Runs (.advance index next) twin) :
    ∃ target other, twin = .advance target other ∧
      (∀ numbers, pairing.Allows numbers → target = numbers.routine index) ∧
      pairing.Answers next other := by
  rcases inhabited with ⟨numbers, allows⟩
  rcases (same numbers allows).of_advance with ⟨other, rfl, _⟩
  refine ⟨_, other, rfl, fun changed allowsToo => ?_, fun changed allowsToo => ?_⟩
  · rcases (same changed allowsToo).of_advance with ⟨twin, equal, _⟩
    exact (Routine.advance.inj equal).1
  · rcases (same changed allowsToo).of_advance with ⟨twin, equal, rest⟩
    rw [(Routine.advance.inj equal).2]
    exact rest

theorem start {body : Routine} {next : RoutineReference → Routine}
    (same : pairing.Runs (.start body next) twin) :
    ∃ begun other, twin = .start begun other ∧ pairing.Runs body begun ∧
      pairing.Answers next other := by
  rcases inhabited with ⟨numbers, allows⟩
  rcases (same numbers allows).of_start with ⟨begun, other, rfl, _, _⟩
  refine ⟨begun, other, rfl, fun changed allowsToo => ?_, fun changed allowsToo task _ => ?_⟩
  · rcases (same changed allowsToo).of_start with ⟨twin, _, equal, starts, _⟩
    rw [(Routine.start.inj equal).1]
    exact starts
  · rcases (same changed allowsToo).of_start with ⟨_, twin, equal, _, rest⟩
    rw [(Routine.start.inj equal).2]
    exact rest task

theorem suspend {suspension : Suspension} {next : Reply → Routine}
    (same : pairing.Runs (.suspend suspension next) twin) :
    ∃ pause other, twin = .suspend pause other ∧ pairing.Relates suspension pause ∧
      pairing.Answers next other := by
  rcases inhabited with ⟨numbers, allows⟩
  rcases (same numbers allows).of_suspend with ⟨other, rfl, lacks, _⟩
  refine ⟨_, other, rfl, ⟨lacks, fun {changed} allowsToo => ?_⟩, fun changed allowsToo => ?_⟩
  · rcases (same changed allowsToo).of_suspend with ⟨twin, equal, _⟩
    exact (Routine.suspend.inj equal).1
  · rcases (same changed allowsToo).of_suspend with ⟨twin, equal, _, rest⟩
    rw [(Routine.suspend.inj equal).2]
    exact rest

end Runs
end Pairing

theorem isUniform_produced : IsUniform Progress.produced := ⟨fun _ _ => rfl, fun _ => id⟩

theorem isUniform_waiting : IsUniform Progress.waiting := ⟨fun _ _ => rfl, fun _ => id⟩

theorem isUniform_returned : IsUniform Progress.returned := ⟨fun _ _ => rfl, fun _ => id⟩

theorem isUniform_item : IsUniform Advanced.item := ⟨fun _ _ => rfl, fun _ => id⟩

theorem isUniform_failed : IsUniform Advanced.failed := ⟨fun _ _ => rfl, fun _ => id⟩

theorem isUniform_fault : IsUniform Failure.fault := ⟨fun _ _ => rfl, fun _ => id⟩

theorem isUniform_routine : IsUniform Value.routine := ⟨fun _ _ => rfl, fun _ => id⟩

theorem isUniform_raised : IsUniform Progress.raised := ⟨fun _ _ => rfl, fun _ => id⟩

namespace Pairing

variable {pairing : Pairing}

theorem relates_null : pairing.Relates (.ok .null : Reply) (.ok .null) :=
  relates_self trivial fun _ => rfl

/-- What advancing two bodies came to. -/
inductive SameProgress (pairing : Pairing) : Progress → Progress → Prop
  | produced {effect other : Value} (related : pairing.Relates effect other) :
      SameProgress pairing (.produced effect) (.produced other)
  | waiting {pending other : Pending} (related : pairing.Relates pending other) :
      SameProgress pairing (.waiting pending) (.waiting other)
  | returned {value other : Value} (related : pairing.Relates value other) :
      SameProgress pairing (.returned value) (.returned other)
  | raised {failure other : Failure} (related : pairing.Relates failure other) :
      SameProgress pairing (.raised failure) (.raised other)

theorem Relates.sameProgress (inhabited : ∃ numbers, pairing.Allows numbers)
    {progress twin : Progress} (related : pairing.Relates progress twin) :
    pairing.SameProgress progress twin := by
  cases progress with
  | produced effect =>
      rcases related.made (fun _ _ => Progress.produced.inj) (fun _ _ => rfl) inhabited
        related.lacks with ⟨other, rfl, effects⟩
      exact .produced effects
  | waiting pending =>
      rcases related.made (fun _ _ => Progress.waiting.inj) (fun _ _ => rfl) inhabited
        related.lacks with ⟨other, rfl, waits⟩
      exact .waiting waits
  | returned value =>
      rcases related.made (fun _ _ => Progress.returned.inj) (fun _ _ => rfl) inhabited
        related.lacks with ⟨other, rfl, values⟩
      exact .returned values
  | raised failure =>
      rcases related.made (fun _ _ => Progress.raised.inj) (fun _ _ => rfl) inhabited
        related.lacks with ⟨other, rfl, failures⟩
      exact .raised failures

theorem SameProgress.relates {progress twin : Progress}
    (same : pairing.SameProgress progress twin) : pairing.Relates progress twin := by
  cases same with
  | produced related => exact .map isUniform_produced related
  | waiting related => exact .map isUniform_waiting related
  | returned related => exact .map isUniform_returned related
  | raised related => exact .map isUniform_raised related

end Pairing

end HtmlStream
