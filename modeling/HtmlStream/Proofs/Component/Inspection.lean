import HtmlStream.Component.Inspection

/-!
Remembered inspections. Whatever components were inspected before, and whether or not they could be
remembered, a component is found to accept the names that it declares. The main statement is
`argumentsFor_after`.
-/
namespace HtmlStream

/-! ## Components that are one key -/

theorem Session.signature?_eq_none (library : Library) {callee : Value}
    (other : ∀ reference, callee ≠ .component reference) (unlike : callee ≠ .depthProbe) :
    signature? library callee = none := by
  cases callee with
  | component reference => exact absurd rfl (other reference)
  | depthProbe => exact absurd rfl unlike
  | _ => rfl

namespace Value

/-- Keys that are one key to a collection have one name, if they are components. -/
theorem eq_component_of_matchesItem {callee : Value} {reference : ComponentReference}
    (hashable : reference.hashable = true) (same : callee.matchesItem (.component reference) = true) :
    ∃ other : ComponentReference, callee = .component other ∧ other.name = reference.name := by
  cases callee with
  | component other =>
      have named : other.name = reference.name := by
        simpa [matchesItem, equalsAs, atomEquals, hashable] using same
      exact ⟨other, rfl, named⟩
  | _ => simp [matchesItem, equalsAs, atomEquals, integer?, hashable] at same

theorem eq_depthProbe_of_matchesItem {callee : Value}
    (same : callee.matchesItem .depthProbe = true) : callee = .depthProbe := by
  cases callee with
  | depthProbe => rfl
  | _ => simp [matchesItem, equalsAs, atomEquals, integer?] at same

end Value

theorem Session.signature?_eq_of_matchesItem (library : Library) {known component : Value}
    (hashable : component.unhashablePart? = none) (same : known.matchesItem component = true) :
    signature? library known = signature? library component := by
  cases component with
  | component reference =>
      have keyed : reference.hashable = true := by simpa [Value.unhashablePart?] using hashable
      obtain ⟨other, rfl, named⟩ := Value.eq_component_of_matchesItem keyed same
      simp only [signature?, Library.find?, named]
  | depthProbe => rw [Value.eq_depthProbe_of_matchesItem same]
  | _ =>
      refine signature?_eq_none library ?_ ?_
      · rintro reference rfl
        simp_all [Value.matchesItem, Value.equalsAs, Value.atomEquals, Value.integer?,
          Value.unhashablePart?]
      · rintro rfl
        simp [Value.matchesItem, Value.equalsAs, Value.atomEquals, Value.integer?] at same

theorem Signature.accepts_of_rest {signature : Signature} (taken : signature.rest.isSome = true)
    (key : Value) : signature.accepts key = true := by
  unfold accepts
  rw [taken]
  exact Bool.true_or _

namespace Inspection

variable {library : Library}

theorem inspect_eq_of_matchesItem {known component : Value}
    (hashable : component.unhashablePart? = none) (same : known.matchesItem component = true) :
    inspect library known = inspect library component := by
  unfold inspect
  rw [Session.signature?_eq_of_matchesItem library hashable same]

/-! ## What is remembered -/

/-- What is remembered of a component is what an inspection would find. -/
def IsSound (library : Library) (memory : InspectionMemory) : Prop :=
  ∀ entry ∈ memory, entry.2 = inspect library entry.1

theorem isSound_nil : IsSound library [] :=
  nofun

variable {memory : InspectionMemory}

theorem acceptedNames_eq (sound : IsSound library memory) (component : Value) :
    (acceptedNames library component memory).1 = inspect library component := by
  unfold acceptedNames inspectOnce
  cases hashable : component.unhashablePart? with
  | some part => rfl
  | none =>
      cases found : remembered? component memory with
      | none => rfl
      | some entry =>
          have known := sound entry (List.mem_of_find?_eq_some found)
          have same : entry.1.matchesItem component = true := by
            unfold remembered? at found
            simpa using List.find?_some found
          exact known.trans (inspect_eq_of_matchesItem hashable same)

theorem isSound_acceptedNames (sound : IsSound library memory) (component : Value) :
    IsSound library (acceptedNames library component memory).2 := by
  unfold acceptedNames inspectOnce
  cases component.unhashablePart? with
  | some part => exact sound
  | none =>
      cases found : remembered? component memory with
      | none =>
          intro entry member
          rcases List.mem_cons.mp (List.mem_of_mem_take member) with rfl | earlier
          · rfl
          · exact sound entry earlier
      | some known =>
          intro entry member
          rcases List.mem_cons.mp member with rfl | earlier
          · exact sound entry (List.mem_of_find?_eq_some found)
          · exact sound entry (List.mem_filter.mp earlier).1

theorem isSound_after (components : List Value) : IsSound library (after library components) :=
  List.foldlRecOn components _ isSound_nil fun _ sound component _ =>
    isSound_acceptedNames sound component

/-! ## Arguments -/

theorem contains_byName (signature : Signature) (name : String) :
    (signature.byName.map Parameter.name).contains name = signature.declares name := by
  rw [Bool.eq_iff_iff]
  simp [Signature.declares]

theorem filter_inspect (component : Value) (arguments : Entries) :
    (inspect library component).filter arguments
      = match Session.signature? library component with
        | some signature => arguments.filter fun argument => signature.accepts argument.1
        | none => arguments := by
  unfold inspect
  cases Session.signature? library component with
  | none => rfl
  | some signature =>
      cases taken : signature.rest.isSome with
      | true =>
          dsimp only
          rw [taken, List.filter_eq_self.mpr fun argument _ =>
            Signature.accepts_of_rest taken argument.1]
          rfl
      | false =>
          dsimp only
          rw [taken, if_neg Bool.false_ne_true]
          refine List.filter_congr fun argument _ => ?_
          obtain ⟨key, value⟩ := argument
          cases key <;> simp only [contains_byName, Signature.accepts, taken, Bool.false_or]

/-- Whatever was inspected before, a component is given the arguments that it accepts. -/
theorem argumentsFor_after (earlier : List Value) (component : Value) (attributes : Entries)
    (children : List Value) :
    (argumentsFor library component attributes children (after library earlier)).1
      = Component.argumentsFor (Session.signature? library component) attributes children := by
  have sound : IsSound library (after library earlier) := isSound_after earlier
  have names := acceptedNames_eq sound component
  unfold argumentsFor
  dsimp only
  rw [names]
  exact filter_inspect component _

end Inspection

end HtmlStream
