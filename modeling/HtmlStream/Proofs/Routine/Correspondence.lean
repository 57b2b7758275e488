import HtmlStream.Proofs.Routine.Pairing

/-!
Sessions that correspond: what belongs together in them is the same but for its numbers. Each has its
own log and its own count of live frames, and bodies that the other one does not have.
-/
namespace HtmlStream

namespace Pairing

variable {pairing : Pairing}

/-- How far two bodies got is the same. -/
structure RelatesObject (pairing : Pairing) (left right : RoutineObject) : Prop where
  kind : right.kind = left.kind
  state : pairing.SameState left.state right.state

theorem Extends.relatesObject {earlier later : Pairing} (extend : earlier.Extends later)
    {left right : RoutineObject} (related : earlier.RelatesObject left right) :
    later.RelatesObject left right :=
  ⟨related.kind, extend.sameState related.state⟩

end Pairing

/-! ## Sessions -/

namespace Session

/-- Everything in two sessions that belongs together is the same but for its numbers. The pairing has
all pairs that some base has. -/
structure Corresponds (base pairing : Pairing) (left right : Session) : Prop where
  extend : base.Extends pairing
  inhabited : ∃ numbers, pairing.Allows numbers
  identityBound : ∀ {number other}, pairing.identity number other →
    number < left.nextIdentity ∧ other < right.nextIdentity
  object : ∀ {index other}, pairing.routine index other → ∃ mine yours,
    left.routine? index = some mine ∧ right.routine? other = some yours ∧
      pairing.RelatesObject mine yours
  names : pairing.Relates left.names right.names
  contexts : pairing.Relates left.contexts.toList right.contexts.toList
  current : right.current = left.current
  registry : pairing.Relates left.registry right.registry
  loop : pairing.Relates left.loop right.loop

/-- Two corresponding sessions have gone on. More may belong together then, but no body that was
there before; and bodies with no counterpart have stayed as they were. -/
structure Grows (pairing : Pairing) (left right : Session) (later : Pairing)
    (leftAfter rightAfter : Session) : Prop where
  extend : pairing.Extends later
  fresh : ∀ {index other}, later.routine index other → pairing.routine index other ∨
    (left.routines.size ≤ index ∧ right.routines.size ≤ other)
  leftSize : left.routines.size ≤ leftAfter.routines.size
  rightSize : right.routines.size ≤ rightAfter.routines.size
  keepsLeft : ∀ {index}, index < left.routines.size → (∀ other, ¬ pairing.routine index other) →
    leftAfter.routine? index = left.routine? index
  keepsRight : ∀ {other}, other < right.routines.size → (∀ index, ¬ pairing.routine index other) →
    rightAfter.routine? other = right.routine? other

/-- Two results are the same but for their numbers, and come with corresponding sessions. -/
def InStep {α : Type} [Numbered α] (base pairing : Pairing) (left right : Session)
    (first second : α × Session) : Prop :=
  ∃ later, Grows pairing left right later first.2 second.2 ∧
    Corresponds base later first.2 second.2 ∧ later.Relates first.1 second.1

namespace Grows

variable {pairing between later : Pairing} {left right leftBetween rightBetween leftAfter
  rightAfter : Session}

theorem of_same (leftSame : leftAfter.routines = left.routines)
    (rightSame : rightAfter.routines = right.routines) :
    Grows pairing left right pairing leftAfter rightAfter where
  extend := .refl pairing
  fresh := .inl
  leftSize := Nat.le_of_eq (congrArg Array.size leftSame.symm)
  rightSize := Nat.le_of_eq (congrArg Array.size rightSame.symm)
  keepsLeft _ _ := congrArg (·[_]?) leftSame
  keepsRight _ _ := congrArg (·[_]?) rightSame

theorem refl (pairing : Pairing) (left right : Session) :
    Grows pairing left right pairing left right :=
  .of_same rfl rfl

theorem trans (earlier : Grows pairing left right between leftBetween rightBetween)
    (next : Grows between leftBetween rightBetween later leftAfter rightAfter) :
    Grows pairing left right later leftAfter rightAfter where
  extend := earlier.extend.trans next.extend
  fresh paired := by
    rcases next.fresh paired with paired | ⟨index, other⟩
    · exact earlier.fresh paired
    · exact .inr ⟨earlier.leftSize.trans index, earlier.rightSize.trans other⟩
  leftSize := earlier.leftSize.trans next.leftSize
  rightSize := earlier.rightSize.trans next.rightSize
  keepsLeft {index} less single := by
    have still (other : Nat) : ¬ between.routine index other := fun paired =>
      (earlier.fresh paired).elim (single other) fun ⟨more, _⟩ => absurd less (Nat.not_lt.mpr more)
    exact (next.keepsLeft (less.trans_le earlier.leftSize) still).trans
      (earlier.keepsLeft less single)
  keepsRight {other} less single := by
    have still (index : Nat) : ¬ between.routine index other := fun paired =>
      (earlier.fresh paired).elim (single index) fun ⟨_, more⟩ => absurd less (Nat.not_lt.mpr more)
    exact (next.keepsRight (less.trans_le earlier.rightSize) still).trans
      (earlier.keepsRight less single)

theorem setState {index other : Nat} (paired : pairing.routine index other)
    (state twin : RoutineState) :
    Grows pairing left right pairing (left.setState index state) (right.setState other twin) where
  extend := .refl pairing
  fresh := .inl
  leftSize := Nat.le_of_eq (Array.size_modify ..).symm
  rightSize := Nat.le_of_eq (Array.size_modify ..).symm
  keepsLeft {body} _ single := by
    have different : body ≠ index := by
      rintro rfl
      exact single other paired
    exact routine?_setState_of_ne left different state
  keepsRight {body} _ single := by
    have different : body ≠ other := by
      rintro rfl
      exact single index paired
    exact routine?_setState_of_ne right different twin

end Grows

variable {base pairing : Pairing} {left right : Session}

theorem InStep.after {α : Type} [Numbered α] {between : Pairing} {leftBetween rightBetween : Session}
    (grows : Grows pairing left right between leftBetween rightBetween)
    {first second : α × Session} (step : InStep base between leftBetween rightBetween first second) :
    InStep base pairing left right first second := by
  rcases step with ⟨later, more, same, related⟩
  exact ⟨later, grows.trans more, same, related⟩

theorem InStep.exists {α : Type} [Numbered α] {first second : α × Session}
    (step : InStep base pairing left right first second) :
    ∃ (later : Pairing) (mine yours : α) (leftAfter rightAfter : Session),
      first = (mine, leftAfter) ∧ second = (yours, rightAfter) ∧
      Grows pairing left right later leftAfter rightAfter ∧
      Corresponds base later leftAfter rightAfter ∧ later.Relates mine yours := by
  rcases first with ⟨mine, leftAfter⟩
  rcases second with ⟨yours, rightAfter⟩
  rcases step with ⟨later, more, same, related⟩
  exact ⟨later, mine, yours, leftAfter, rightAfter, rfl, rfl, more, same, related⟩

namespace Corresponds

variable (same : Corresponds base pairing left right)

include same

theorem routine_lt {index other : Nat} (paired : pairing.routine index other) :
    index < left.routines.size ∧ other < right.routines.size := by
  rcases same.object paired with ⟨mine, yours, onLeft, onRight, _⟩
  exact ⟨(Array.getElem?_eq_some_iff.mp onLeft).1, (Array.getElem?_eq_some_iff.mp onRight).1⟩

/-- A number is paired if it is always taken to the same one. -/
theorem routine_of_forced {index other : Nat}
    (forced : ∀ {numbers}, pairing.Allows numbers → other = numbers.routine index) :
    pairing.routine index other := by
  rcases same.inhabited with ⟨numbers, allows⟩
  by_cases paired : ∃ twin, pairing.routine index twin
  · rcases paired with ⟨twin, paired⟩
    have taken := allows.routine paired
    rw [← forced allows] at taken
    rwa [taken]
  · -- The number could then be taken to any number that is free, as well as to the one given.
    have single (twin : Nat) : ¬ pairing.routine index twin := fun found => paired ⟨twin, found⟩
    have unused (body : Nat) : ¬ pairing.routine body (right.routines.size + other + 1) :=
      fun found => absurd (same.routine_lt found).2 (by omega)
    rcases Pairing.exists_allows_routine allows single unused with ⟨changed, allowsToo, taken⟩
    have equal := forced allowsToo
    omega

theorem exists_reference {reference : RoutineReference} {right : RoutineReference}
    (related : pairing.Relates reference right) :
    right.kind = reference.kind ∧ right.name = reference.name ∧
      pairing.routine reference.index right.index := by
  rcases same.inhabited with ⟨numbers, allows⟩
  refine ⟨?_, ?_, same.routine_of_forced fun allows => ?_⟩
  · rw [related.equal allows]
    rfl
  · rw [related.equal allows]
    rfl
  · rw [related.equal allows]
    rfl

omit same in
theorem relates_reference {index other : Nat} (paired : pairing.routine index other)
    (kind : RoutineKind) (name : String) :
    pairing.Relates (RoutineReference.mk kind index name) ⟨kind, other, name⟩ :=
  ⟨trivial, fun allows => by rw [← allows.routine paired]; rfl⟩

/-! ## Parts that nothing is paired in -/

omit same in
/-- Neither the log nor the number of live frames belongs to what corresponds. -/
theorem of_eq {leftAfter rightAfter : Session} (same : Corresponds base pairing left right)
    (leftRest : ∃ events registrations liveFrames,
      leftAfter = { left with events, registrations, liveFrames })
    (rightRest : ∃ events registrations liveFrames,
      rightAfter = { right with events, registrations, liveFrames }) :
    Corresponds base pairing leftAfter rightAfter := by
  rcases leftRest with ⟨_, _, _, rfl⟩
  rcases rightRest with ⟨_, _, _, rfl⟩
  exact { same with }

theorem withLiveFrames (count other : Nat) :
    Corresponds base pairing (left.withLiveFrames count) (right.withLiveFrames other) :=
  same.of_eq ⟨_, _, _, rfl⟩ ⟨_, _, _, rfl⟩

theorem record (event other : Event) :
    Corresponds base pairing (left.record event) (right.record other) :=
  same.of_eq ⟨_, _, _, rfl⟩ ⟨_, _, _, rfl⟩

/-! ## Bodies -/

theorem setState {index other : Nat} (paired : pairing.routine index other)
    {state twin : RoutineState} (got : pairing.SameState state twin) :
    Corresponds base pairing (left.setState index state) (right.setState other twin) where
  extend := same.extend
  inhabited := same.inhabited
  identityBound := same.identityBound
  object {body match?} found := by
    rcases same.object found with ⟨mine, yours, onLeft, onRight, related⟩
    rcases same.inhabited with ⟨numbers, allows⟩
    by_cases here : body = index
    · subst here
      cases (allows.routine found).symm.trans (allows.routine paired)
      exact ⟨_, _, routine?_setState_self onLeft state, routine?_setState_self onRight twin,
        related.kind, got⟩
    · have there : match? ≠ other := fun equal => here <| numbers.routine.injective <|
        ((allows.routine found).trans equal).trans (allows.routine paired).symm
      rw [routine?_setState_of_ne left here, routine?_setState_of_ne right there]
      exact ⟨mine, yours, onLeft, onRight, related⟩
  names := same.names
  contexts := same.contexts
  current := same.current
  registry := same.registry
  loop := same.loop

/-- What happens to a body that only one session has does not count. -/
theorem setStateLeft {index : Nat} (single : ∀ other, ¬ pairing.routine index other)
    (state : RoutineState) : Corresponds base pairing (left.setState index state) right where
  extend := same.extend
  inhabited := same.inhabited
  identityBound := same.identityBound
  object {body other} found := by
    rcases same.object found with ⟨mine, yours, onLeft, onRight, related⟩
    have different : body ≠ index := by
      rintro rfl
      exact single other found
    refine ⟨mine, yours, ?_, onRight, related⟩
    rwa [routine?_setState_of_ne left different]
  names := same.names
  contexts := same.contexts
  current := same.current
  registry := same.registry
  loop := same.loop

theorem setStateRight {other : Nat} (single : ∀ index, ¬ pairing.routine index other)
    (state : RoutineState) : Corresponds base pairing left (right.setState other state) where
  extend := same.extend
  inhabited := same.inhabited
  identityBound := same.identityBound
  object {index body} found := by
    rcases same.object found with ⟨mine, yours, onLeft, onRight, related⟩
    have different : body ≠ other := by
      rintro rfl
      exact single index found
    refine ⟨mine, yours, onLeft, ?_, related⟩
    rwa [routine?_setState_of_ne right different]
  names := same.names
  contexts := same.contexts
  current := same.current
  registry := same.registry
  loop := same.loop

theorem not_paired_size :
    (∀ other, ¬ pairing.routine left.routines.size other) ∧
      ∀ index, ¬ pairing.routine index right.routines.size :=
  ⟨fun _ paired => absurd (same.routine_lt paired).1 (Nat.lt_irrefl _),
    fun _ paired => absurd (same.routine_lt paired).2 (Nat.lt_irrefl _)⟩

theorem addRoutineLeft (kind : RoutineKind) (name : String) (body : Routine) :
    Corresponds base pairing (left.addRoutine kind name body).2 right where
  extend := same.extend
  inhabited := same.inhabited
  identityBound := same.identityBound
  object {index other} found := by
    rcases same.object found with ⟨mine, yours, onLeft, onRight, related⟩
    refine ⟨mine, yours, ?_, onRight, related⟩
    rwa [routine?_addRoutine_of_ne left kind name body
      (Nat.ne_of_lt (same.routine_lt found).1)]
  names := same.names
  contexts := same.contexts
  current := same.current
  registry := same.registry
  loop := same.loop

theorem addRoutineRight (kind : RoutineKind) (name : String) (body : Routine) :
    Corresponds base pairing left (right.addRoutine kind name body).2 where
  extend := same.extend
  inhabited := same.inhabited
  identityBound := same.identityBound
  object {index other} found := by
    rcases same.object found with ⟨mine, yours, onLeft, onRight, related⟩
    refine ⟨mine, yours, onLeft, ?_, related⟩
    rwa [routine?_addRoutine_of_ne right kind name body
      (Nat.ne_of_lt (same.routine_lt found).2)]
  names := same.names
  contexts := same.contexts
  current := same.current
  registry := same.registry
  loop := same.loop

/-- A new body on both sides belongs together, if it is the same but for its numbers. -/
theorem addRoutine (kind : RoutineKind) (name : String) {body twin : Routine}
    (runs : pairing.Runs body twin) :
    InStep base pairing left right (left.addRoutine kind name body)
      (right.addRoutine kind name twin) := by
  rcases same.inhabited with ⟨numbers, allows⟩
  have extend := pairing.extends_withRoutine left.routines.size right.routines.size
  have paired : (pairing.withRoutine left.routines.size right.routines.size).routine
      left.routines.size right.routines.size := .inr ⟨rfl, rfl⟩
  refine ⟨pairing.withRoutine left.routines.size right.routines.size, ?_, ?_,
    relates_reference paired kind name⟩
  · exact {
      extend
      fresh := fun found => found.imp_right fun ⟨index, other⟩ => ⟨index.ge, other.ge⟩
      leftSize := by simp [Session.addRoutine]
      rightSize := by simp [Session.addRoutine]
      keepsLeft := fun less _ => routine?_addRoutine_of_ne left kind name body (Nat.ne_of_lt less)
      keepsRight := fun less _ =>
        routine?_addRoutine_of_ne right kind name twin (Nat.ne_of_lt less) }
  · exact {
      extend := same.extend.trans extend
      inhabited := Pairing.exists_allows_withRoutine allows same.not_paired_size.1
        same.not_paired_size.2
      identityBound := same.identityBound
      object := by
        rintro index other (found | ⟨rfl, rfl⟩)
        · rcases same.object found with ⟨mine, yours, onLeft, onRight, related⟩
          have less := same.routine_lt found
          rw [routine?_addRoutine_of_ne left kind name body (Nat.ne_of_lt less.1),
            routine?_addRoutine_of_ne right kind name twin (Nat.ne_of_lt less.2)]
          exact ⟨mine, yours, onLeft, onRight, extend.relatesObject related⟩
        · exact ⟨_, _, routine?_addRoutine_self left kind name body,
            routine?_addRoutine_self right kind name twin, rfl,
            .unstarted (extend.runs runs)⟩
      names := extend.relates same.names
      contexts := extend.relates same.contexts
      current := same.current
      registry := extend.relates same.registry
      loop := extend.relates same.loop }

/-- What is unchanged on both sides is in step. -/
theorem inStep {α : Type} [Numbered α] {mine yours : α} (related : pairing.Relates mine yours) :
    InStep base pairing left right (mine, left) (yours, right) :=
  ⟨pairing, .refl pairing left right, same, related⟩

/-! ## Identities -/

theorem reserve (count : Nat) :
    Corresponds base (pairing.withIdentities left.nextIdentity right.nextIdentity count)
      { left with nextIdentity := left.nextIdentity + count }
      { right with nextIdentity := right.nextIdentity + count } where
  extend := same.extend.trans (pairing.extends_withIdentities ..)
  inhabited := by
    rcases same.inhabited with ⟨numbers, allows⟩
    exact Pairing.exists_allows_withIdentities allows same.identityBound count
  identityBound := by
    rintro number other (paired | ⟨offset, less, rfl, rfl⟩)
    · exact (same.identityBound paired).imp (Nat.lt_add_right count) (Nat.lt_add_right count)
    · exact ⟨Nat.add_lt_add_left less _, Nat.add_lt_add_left less _⟩
  object paired := by
    rcases same.object paired with ⟨mine, yours, onLeft, onRight, related⟩
    exact ⟨mine, yours, onLeft, onRight,
      (pairing.extends_withIdentities ..).relatesObject related⟩
  names := (pairing.extends_withIdentities ..).relates same.names
  contexts := (pairing.extends_withIdentities ..).relates same.contexts
  current := same.current
  registry := (pairing.extends_withIdentities ..).relates same.registry
  loop := (pairing.extends_withIdentities ..).relates same.loop

omit same in
theorem grows_reserve (count : Nat) :
    Grows pairing left right
      (pairing.withIdentities left.nextIdentity right.nextIdentity count)
      { left with nextIdentity := left.nextIdentity + count }
      { right with nextIdentity := right.nextIdentity + count } :=
  { Grows.refl pairing left right with extend := pairing.extends_withIdentities .. }

/-- Objects that only one session makes do not count. -/
theorem reserveRight (count : Nat) :
    Corresponds base pairing left { right with nextIdentity := right.nextIdentity + count } :=
  { same with
    identityBound := fun paired =>
      (same.identityBound paired).imp_right (Nat.lt_add_right count) }

/-! ## Names, the registry and the loop -/

theorem lookup (name : String) : pairing.Relates (left.lookup name) (right.lookup name) := by
  have found (numbers : Renumbering) :
      (renumbered numbers left.names).find? (fun entry => entry.1 == name)
        = (left.names.find? fun entry => entry.1 == name).map (renumbered numbers) :=
    List.find?_map ..
  unfold Session.lookup
  constructor
  · cases given : left.names.find? fun entry => entry.1 == name with
    | none => exact trivial
    | some entry => exact (same.names.lacks entry (List.mem_of_find?_eq_some given)).2
  · intro numbers allows
    rw [same.names.equal allows, found]
    cases left.names.find? fun entry => entry.1 == name <;> rfl

theorem enroll {entry twin : Token × Provider} (related : pairing.Relates entry twin) :
    Corresponds base pairing (left.enroll entry) (right.enroll twin) :=
  { same with
    registry := {
      lacks := Registry.lacksProbe_insert same.registry.lacks entry.1 related.lacks.2
      equal := fun {numbers} allows => by
        have inserted := Registry.insert_renumbered numbers left.registry entry.1 entry.2
        rw [← same.registry.equal allows, ← related.fst.equal allows, ← related.snd.equal allows]
          at inserted
        exact inserted } }

theorem register {key twin source other : Value} (keys : pairing.Relates key twin)
    (sources : pairing.Relates source other) :
    InStep base pairing left right (left.register key source) (right.register twin other) := by
  have entries : pairing.Relates (Registry.entryFor key source) (Registry.entryFor twin other) := {
    lacks := Registry.lacksProbe_entryFor key sources.lacks
    equal := fun {numbers} allows => by
      rw [keys.equal allows, sources.equal allows]
      exact Registry.entryFor_renumbered numbers key source }
  unfold Session.register
  cases given : Registry.entryFor key source with
  | error fault =>
      rw [given] at entries
      rcases entries.made (fun _ _ => Except.error.inj) (fun _ _ => rfl) same.inhabited
        entries.lacks with ⟨found, refused, related⟩
      rw [refused]
      exact same.inStep (Pairing.relates_error
        (@Pairing.Relates.map _ _ _ _ _ Failure.fault ⟨fun _ _ => rfl, fun _ => id⟩ _ _ related))
  | ok entry =>
      rw [given] at entries
      rcases entries.made (fun _ _ => Except.ok.inj) (fun _ _ => rfl) same.inhabited
        entries.lacks with ⟨found, accepted, related⟩
      rw [accepted]
      exact ⟨pairing, .of_same rfl rfl, same.enroll related,
        Pairing.relates_self trivial fun _ => rfl⟩

theorem startTask {body twin : Routine}
    (runs : pairing.Runs body twin) :
    InStep base pairing left right (left.startTask body) (right.startTask twin) := by
  rcases (same.addRoutine .coroutine "task" runs).exists with
    ⟨later, task, other, leftAfter, rightAfter, onLeft, onRight, grows, sameAfter, related⟩
  unfold Session.startTask
  rw [onLeft, onRight]
  refine ⟨later, grows.trans (.of_same rfl rfl), ?_, related⟩
  have current : rightAfter.current = leftAfter.current := sameAfter.current
  exact { sameAfter with
    loop := {
      lacks := by
        intro step member
        rcases List.mem_append.mp member with member | member
        · exact sameAfter.loop.lacks step member
        · cases List.mem_singleton.mp member
          exact trivial
      equal := fun {numbers} allows => by
        have worker : Worker.task other.index = (Worker.task task.index).renumbered numbers := by
          rw [related.equal allows]
          rfl
        dsimp only [Session.withLoop]
        rw [sameAfter.loop.equal allows, worker, current, EventLoop.setContext_renumbered]
        exact EventLoop.schedule_renumbered numbers _ (.resume (.task task.index) (.ok .null)) } }

/-! ## Render contexts -/

theorem relates_context? (index : Nat) :
    pairing.Relates (left.context? index) (right.context? index) where
  lacks context found :=
    same.contexts.lacks context (Array.mem_toList_iff.mpr (Array.mem_of_getElem? found))
  equal {numbers} allows := by
    have listed (contexts : Array RenderContext) : contexts[index]? = contexts.toList[index]? :=
      Array.getElem?_toList.symm
    unfold context?
    rw [listed, listed, same.contexts.equal allows]
    exact List.getElem?_map ..

theorem withContext {onLeft onRight : Nat → RenderContext → Reply × Session}
    (inStep : ∀ index {context other : RenderContext}, pairing.Relates context other →
      InStep base pairing left right (onLeft index context) (onRight index other)) :
    InStep base pairing left right (left.withContext onLeft) (right.withContext onRight) := by
  have outside : InStep base pairing left right
      ((.error (.fault .noRenderContext) : Reply), left) (.error (.fault .noRenderContext), right) :=
    same.inStep (Pairing.relates_self trivial fun _ => rfl)
  unfold Session.withContext
  rw [same.current]
  cases left.current with
  | none => exact outside
  | some index =>
      dsimp only
      rcases (same.relates_context? index).option_cases same.inhabited with
        ⟨onLeft, onRight⟩ | ⟨mine, yours, onLeft, onRight, related⟩
      · rw [onLeft, onRight]
        exact outside
      · rw [onLeft, onRight]
        exact inStep index related

theorem readContext (field : ContextField) :
    InStep base pairing left right (left.readContext field) (right.readContext field) := by
  refine same.withContext fun index context other related => same.inStep ?_
  rcases same.inhabited with ⟨numbers, allows⟩
  rw [related.equal allows]
  cases field with
  | routeName => cases context.routeName <;> exact Pairing.relates_self trivial fun _ => rfl
  | maxDepth | stylesEmitted => exact Pairing.relates_self trivial fun _ => rfl
  | contextStack =>
      refine Pairing.relates_self ?_ ?_
      · refine (Value.allLackProbes_iff _).mpr fun item member => ?_
        rcases List.mem_map.mp member with ⟨label, _, rfl⟩
        trivial
      · intro numbers
        refine congrArg (fun items => Except.ok (Value.list items)) ?_
        refine (Value.renumberedAll_eq numbers _).trans ((List.map_map ..).trans ?_)
        rfl

theorem readMeta (key : String) {default other : Value} (defaults : pairing.Relates default other) :
    InStep base pairing left right (left.readMeta key default) (right.readMeta key other) := by
  refine same.withContext fun index context twin related => same.inStep (Pairing.relates_ok ?_)
  refine ⟨RenderContext.lacksProbe_getMeta related.lacks key defaults.lacks, fun {numbers} allows => ?_⟩
  rw [related.equal allows, defaults.equal allows]
  exact RenderContext.getMeta_renumbered numbers context key default

/-- A change of render contexts that numbers have no part in. -/
theorem modifyContext (index : Nat) {change other : RenderContext → RenderContext}
    (lacks : ∀ context, LacksProbe context → LacksProbe (change context))
    (commutes : ∀ {numbers}, pairing.Allows numbers → ∀ context,
      other (renumbered numbers context) = renumbered numbers (change context)) :
    Corresponds base pairing (left.modifyContext index change)
      (right.modifyContext index other) :=
  { same with
    contexts := {
      lacks := by
        intro context member
        rcases List.mem_iff_getElem?.mp member with ⟨number, found⟩
        rw [Session.modifyContext, Array.toList_modify, List.getElem?_modify,
          Option.map_eq_map] at found
        rcases Option.map_eq_some_iff.mp found with ⟨before, there, rfl⟩
        have lacksBefore := same.contexts.lacks before (List.mem_of_getElem? there)
        split
        · exact lacks before lacksBefore
        · exact lacksBefore
      equal := fun {numbers} allows => by
        refine List.ext_getElem? fun number => ?_
        have before : right.contexts.toList[number]?
            = left.contexts.toList[number]?.map (renumbered numbers) := by
          rw [same.contexts.equal allows]
          exact List.getElem?_map ..
        refine Eq.trans ?_ (List.getElem?_map ..).symm
        rw [Session.modifyContext, Session.modifyContext, Array.toList_modify, Array.toList_modify,
          List.getElem?_modify, List.getElem?_modify, before, Option.map_eq_map, Option.map_eq_map,
          Option.map_map, Option.map_map]
        refine congrFun (congrArg Option.map (funext fun context => ?_)) _
        dsimp only [Function.comp]
        split
        · exact commutes allows context
        · rfl } }

theorem writeMeta (key : String) {value other : Value} (values : pairing.Relates value other) :
    InStep base pairing left right (left.writeMeta key value) (right.writeMeta key other) := by
  refine same.withContext fun index _ _ _ => ?_
  refine ⟨pairing, .of_same rfl rfl, ?_, Pairing.relates_self trivial fun _ => rfl⟩
  refine same.modifyContext index
    (fun _ lack => RenderContext.lacksProbe_insertMeta values.lacks lack) fun {numbers} allows context => ?_
  rw [values.equal allows]
  exact congrArg (fun metadata => { context with metadata })
    (RenderContext.insertMeta_renumbered numbers key value context.metadata)

/-! ## What outlives bodies -/

theorem holds_eq {index other : Nat} (paired : pairing.routine index other) :
    right.holds other = left.holds index := by
  rcases same.inhabited with ⟨numbers, allows⟩
  have within (bindings : Bindings) :
      ((renumbered numbers bindings).any fun entry => entry.2.holds other)
        = bindings.any fun entry => entry.2.holds index := by
    refine List.any_map.trans (congrArg bindings.any (funext fun entry => ?_))
    rw [← allows.routine paired]
    exact Value.holds_renumbered numbers index entry.2
  have registered : ((renumbered numbers left.registry).any fun entry => entry.2.source.holds other)
      = left.registry.any fun entry => entry.2.source.holds index := by
    refine List.any_map.trans (congrArg left.registry.any (funext fun entry => ?_))
    rw [← allows.routine paired]
    exact Value.holds_renumbered numbers index entry.2.source
  have noted : (right.contexts.toList.any fun context =>
        context.metadata.any fun entry => entry.2.holds other)
      = left.contexts.toList.any fun context =>
        context.metadata.any fun entry => entry.2.holds index := by
    rw [same.contexts.equal allows]
    exact List.any_map.trans (congrArg _ (funext fun context => within context.metadata))
  unfold holds
  dsimp only
  rw [← Array.any_toList, ← Array.any_toList, noted, same.names.equal allows, within,
    same.registry.equal allows, registered]

end Corresponds
end Session
end HtmlStream
