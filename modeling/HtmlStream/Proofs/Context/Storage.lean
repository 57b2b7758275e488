import HtmlStream.Context.Storage
import Mathlib.Data.List.Induction

/-!
Histories of a registry. The last registration of a token counts, the first one gives it its place, and
a snapshot is not changed by what comes after it, because no mapping is changed that is in use or
looked at. The main statement is `isLastWriteWins_after`.
-/
namespace HtmlStream

/-! ## Entries of a mapping -/

namespace Registry

variable (registry : Registry) (token : Token) (provider : Provider)

theorem get?_insert_eq (other : Token) :
    (registry.insert token provider).get? other
      = if other = token then some provider else registry.get? other := by
  unfold get?
  induction registry with
  | nil =>
      by_cases same : other = token
      · simp [insert, same]
      · simp [insert, same, Ne.symm same]
  | cons entry rest induction =>
      unfold insert
      by_cases same : other = token
      · subst same
        cases found : entry.1 == other <;> simp_all
      · cases found : entry.1 == token with
        | false =>
            rw [if_neg Bool.false_ne_true, List.find?_cons, List.find?_cons]
            split
            · rw [if_neg same]
            · exact induction
        | true =>
            have own := eq_of_beq found
            simp [same, Ne.symm same, own]

theorem tokens_insert :
    (registry.insert token provider).tokens
      = if token ∈ registry.tokens then registry.tokens else registry.tokens ++ [token] := by
  unfold tokens
  induction registry with
  | nil => rfl
  | cons entry rest induction =>
      unfold insert
      by_cases found : entry.1 = token
      · simp [found]
      · rw [if_neg (by simpa using found), List.map_cons, induction]
        by_cases later : token ∈ rest.map Prod.fst
        · simp [later]
        · simp [later, Ne.symm found]

/-- A mapping in which entries were registered one after the other. -/
def ofRegistrations (registrations : List (Token × Provider)) : Registry :=
  registrations.foldl (fun registry entry => registry.insert entry.1 entry.2) []

theorem ofRegistrations_concat (registrations : List (Token × Provider))
    (entry : Token × Provider) :
    ofRegistrations (registrations ++ [entry])
      = (ofRegistrations registrations).insert entry.1 entry.2 := by
  simp [ofRegistrations]

/-- The induction is on the registrations, the last one first. -/
theorem tokens_ofRegistrations (registrations : List (Token × Provider)) :
    tokens (ofRegistrations registrations) = (registrations.map Prod.fst).eraseDups := by
  induction registrations using List.reverseRecOn with
  | nil => rfl
  | append_singleton registrations entry induction =>
      rw [ofRegistrations_concat, tokens_insert, induction, List.map_append, List.eraseDups_append]
      by_cases known : entry.1 ∈ registrations.map Prod.fst
      · simp [known, List.removeAll]
      · simp [known, List.removeAll, List.eraseDups_cons]

theorem get?_ofRegistrations (registrations : List (Token × Provider)) :
    get? (ofRegistrations registrations) token = registrations.reverse.lookup token := by
  induction registrations using List.reverseRecOn with
  | nil => rfl
  | append_singleton registrations entry induction =>
      rw [ofRegistrations_concat, get?_insert_eq, induction, List.reverse_append]
      obtain ⟨own, provider⟩ := entry
      by_cases same : token = own
      · simp [same]
      · have differs : (token == own) = false := beq_eq_false_iff_ne.mpr same
        simp [List.lookup_cons, same, differs]

/-! ## Refused entries -/

/-- What no registration takes: a key that is no token, or an async generator as a provider. -/
def IsRefused (key source : Value) : Prop :=
  (∀ token, key ≠ .token token) ∨ ∃ reference : ComponentReference,
    source = .component reference ∧ reference.hashable = true ∧
      reference.kind = some .asyncGenerator

theorem exists_fault_of_isRefused {key source : Value} (refused : IsRefused key source) :
    ∃ fault : Fault, fault.kind = .type ∧ entryFor key source = .error fault := by
  rcases refused with unlike | ⟨reference, rfl, hashable, kind⟩
  · cases key with
    | token token => exact absurd rfl (unlike token)
    | _ => exact ⟨_, rfl, rfl⟩
  · cases key with
    | token token =>
        refine ⟨.asyncGeneratorProvider reference.name, rfl, ?_⟩
        simp [entryFor, Provider.classify, hashable, kind, Bind.bind, Except.bind]
    | _ => exact ⟨_, rfl, rfl⟩

theorem exists_entryFor_of_not_isRefused {key source : Value} (accepted : ¬ IsRefused key source) :
    ∃ entry, entryFor key source = .ok entry := by
  unfold IsRefused at accepted
  cases key with
  | token token =>
      cases source with
      | component reference =>
          obtain ⟨name, kind, hashable⟩ := reference
          rcases hashable with _ | _
          · exact ⟨_, rfl⟩
          · rcases kind with _ | _ | _ | _
            · exact ⟨_, rfl⟩
            · exact ⟨_, rfl⟩
            · simp at accepted
            · exact ⟨_, rfl⟩
      | _ => exact ⟨_, rfl⟩
  | _ => simp at accepted

/-- The entries before the first one that is refused, with their providers. -/
def registered : Entries → List (Token × Provider)
  | [] => []
  | (key, source) :: rest =>
      match entryFor key source with
      | .ok entry => entry :: registered rest
      | .error _ => []

/-- What an update comes to: the first entry that is refused is at fault, and those before it are
registered. -/
theorem update_eq (registry : Registry) (entries : Entries) :
    registry.update entries
      = (entries.findSome? fun entry =>
            match entryFor entry.1 entry.2 with
            | .ok _ => none
            | .error fault => some fault,
          (registered entries).foldl (fun registry entry => registry.insert entry.1 entry.2)
            registry) := by
  induction entries generalizing registry with
  | nil => rfl
  | cons entry rest induction =>
      obtain ⟨key, source⟩ := entry
      unfold update set registered
      rw [List.findSome?_cons]
      cases entryFor key source with
      | error fault => rfl
      | ok entry => exact induction (registry.insert entry.1 entry.2)

/-- An entry that is refused ends an update. -/
theorem update_of_isRefused (registry : Registry) {first rest : Entries} {key source : Value}
    (accepted : ∀ entry ∈ first, ¬ IsRefused entry.1 entry.2) (refused : IsRefused key source) :
    (∃ fault : Fault, fault.kind = .type ∧
        (registry.update (first ++ (key, source) :: rest)).1 = some fault) ∧
      (registry.update (first ++ (key, source) :: rest)).2 = (registry.update first).2 := by
  induction first generalizing registry with
  | nil =>
      obtain ⟨fault, kind, known⟩ := exists_fault_of_isRefused refused
      exact ⟨⟨fault, kind, by simp [update_eq, known]⟩, by simp [update_eq, registered, known]⟩
  | cons entry first induction =>
      obtain ⟨own, later⟩ := List.forall_mem_cons.mp accepted
      obtain ⟨made, known⟩ := exists_entryFor_of_not_isRefused own
      have next := induction (registry.insert made.1 made.2) later
      simpa [update_eq, registered, known] using next

theorem update_of_accepted (registry : Registry) {entries : Entries}
    (accepted : ∀ entry ∈ entries, ¬ IsRefused entry.1 entry.2) :
    (registry.update entries).1 = none := by
  rw [update_eq]
  refine List.findSome?_eq_none_iff.mpr fun entry member => ?_
  obtain ⟨made, known⟩ := exists_entryFor_of_not_isRefused (accepted entry member)
  rw [known]

/-- A call on a registry that is not stored anywhere. -/
def perform (registry : Registry) : RegistryCall → Option Fault × Registry
  | .set key source | .assign key source =>
      match registry.set key source with
      | .ok registry => (none, registry)
      | .error fault => (some fault, registry)
  | .update entries => registry.update entries
  | .snapshot => (none, registry)

end Registry

namespace RegistryCall

/-- The entries that a call registers in turn. -/
def entries : RegistryCall → Entries
  | .set key source | .assign key source => [(key, source)]
  | .update entries => entries
  | .snapshot => []

end RegistryCall

theorem Registry.perform_eq_update (registry : Registry) (call : RegistryCall) :
    registry.perform call = registry.update call.entries := by
  cases call with
  | set key source | assign key source =>
      dsimp only [perform, RegistryCall.entries]
      rw [update]
      cases registry.set key source <;> rfl
  | update entries => rfl
  | snapshot => rfl

theorem Registry.get?_perform_of_ne (registry : Registry) {token other : Token}
    (differs : other ≠ token) (source : Value) :
    (registry.perform (.set (.token token) source)).2.get? other = registry.get? other := by
  have known : entryFor (.token token) source
      = (Provider.classify source).map fun provider => (token, provider) := by
    unfold entryFor
    cases Provider.classify source <;> rfl
  rw [perform_eq_update, update_eq]
  dsimp only [RegistryCall.entries]
  rw [registered, known]
  cases Provider.classify source with
  | error fault => rfl
  | ok provider => exact (registry.get?_insert_eq token provider other).trans (if_neg differs)

namespace Storage

/-! ## Calls on what is stored -/

variable {storage next later : Storage}

/-- The mapping in use and those that snapshots look at have been made. -/
structure IsSound (storage : Storage) : Prop where
  current : storage.current < storage.mappings.size
  snapshots : ∀ number ∈ storage.snapshots, number < storage.mappings.size

/-- No mapping that was made has changed, and no snapshot is gone. -/
structure Extends (storage next : Storage) : Prop where
  size : storage.mappings.size ≤ next.mappings.size
  kept : ∀ number < storage.mappings.size, next.read number = storage.read number
  snapshots : storage.snapshots <+: next.snapshots

theorem Extends.refl (storage : Storage) : storage.Extends storage :=
  ⟨Nat.le_refl _, fun _ _ => rfl, List.prefix_refl _⟩

theorem Extends.trans (before : storage.Extends next) (after : next.Extends later) :
    storage.Extends later where
  size := Nat.le_trans before.size after.size
  kept number less :=
    (after.kept number (Nat.lt_of_lt_of_le less before.size)).trans (before.kept number less)
  snapshots := before.snapshots.trans after.snapshots

/-- A call that leaves the storage in order, changes nothing that was there, and comes to what it comes
to on a plain registry. -/
structure Performs (storage : Storage) (result : Option Fault × Storage)
    (expected : Option Fault × Registry) : Prop where
  sound : result.2.IsSound
  kept : storage.Extends result.2
  fault : result.1 = expected.1
  contents : result.2.contents = expected.2

theorem read_copy (storage : Storage) (number : Nat) :
    storage.copy.2.read number
      = if number = storage.mappings.size then storage.contents else storage.read number := by
  simp only [copy, read, Array.getElem?_push]
  split <;> rfl

/-- Entering changes one mapping. -/
theorem read_enter {number : Nat} (made : number < storage.mappings.size) (token : Token)
    (provider : Provider) (other : Nat) :
    (storage.enter number token provider).read other
      = if number = other then (storage.read number).insert token provider
        else storage.read other := by
  simp only [enter, read, Array.getElem?_modify]
  split
  · next same =>
      subst same
      simp [made]
  · rfl

theorem extends_copy (storage : Storage) : storage.Extends storage.copy.2 where
  size := by simp [copy]
  kept number less := by rw [read_copy, if_neg (Nat.ne_of_lt less)]
  snapshots := List.prefix_refl _

theorem IsSound.copy (sound : storage.IsSound) : storage.copy.2.IsSound where
  current := Nat.lt_of_lt_of_le sound.current (extends_copy storage).size
  snapshots number member :=
    Nat.lt_of_lt_of_le (sound.snapshots number member) (extends_copy storage).size

theorem performs_set (sound : storage.IsSound) (key source : Value) :
    storage.Performs (storage.set key source) (storage.contents.update [(key, source)]) := by
  cases key with
  | token token =>
      have made : storage.mappings.size < storage.copy.2.mappings.size := by simp [copy]
      have own := read_copy storage storage.mappings.size
      rw [if_pos rfl] at own
      unfold set Registry.update Registry.set Registry.entryFor
      cases Provider.classify source with
      | error fault =>
          have unchanged := (extends_copy storage).kept storage.current sound.current
          exact ⟨sound.copy, extends_copy storage, rfl, unchanged⟩
      | ok provider =>
          have entered := read_enter made token provider
          have size : (storage.copy.2.enter storage.mappings.size token provider).mappings.size
              = storage.copy.2.mappings.size := Array.size_modify
          refine ⟨⟨size ▸ made, fun number member => size ▸ sound.copy.snapshots number member⟩,
            ⟨size ▸ (extends_copy storage).size, fun number less => ?_, List.prefix_refl _⟩, rfl, ?_⟩
          · have older := entered number
            rw [if_neg (Nat.ne_of_gt less), (extends_copy storage).kept number less] at older
            exact older
          · have newest := entered storage.mappings.size
            rw [if_pos rfl, own] at newest
            exact newest
  | _ => exact ⟨sound, .refl storage, rfl, rfl⟩

theorem performs_update (sound : storage.IsSound) (entries : Entries) :
    storage.Performs (storage.update entries) (storage.contents.update entries) := by
  induction entries generalizing storage with
  | nil => exact ⟨sound, .refl storage, rfl, rfl⟩
  | cons entry rest induction =>
      obtain ⟨key, source⟩ := entry
      have first := performs_set sound key source
      unfold update
      unfold Registry.update at first ⊢
      generalize storage.set key source = result at first ⊢
      obtain ⟨fault?, next⟩ := result
      cases set : storage.contents.set key source with
      | error fault =>
          rw [set] at first
          cases first.fault
          exact ⟨first.sound, first.kept, rfl, first.contents⟩
      | ok registry =>
          rw [set] at first
          cases first.fault
          have others := induction first.sound
          rw [first.contents] at others
          exact ⟨others.sound, first.kept.trans others.kept, others.fault, others.contents⟩

theorem performs_perform (sound : storage.IsSound) (call : RegistryCall) :
    storage.Performs (storage.perform call) (storage.contents.perform call) := by
  rw [Registry.perform_eq_update]
  cases call with
  | set key source | assign key source => exact performs_set sound key source
  | update entries => exact performs_update sound entries
  | snapshot =>
      refine ⟨⟨sound.current, fun number member => ?_⟩, ⟨Nat.le_refl _, fun _ _ => rfl,
        List.prefix_append _ _⟩, rfl, rfl⟩
      rcases List.mem_append.mp member with earlier | last
      · exact sound.snapshots number earlier
      · exact List.mem_singleton.mp last ▸ sound.current

/-! ## Histories -/

theorem after_append_singleton (calls : List RegistryCall) (call : RegistryCall) :
    after (calls ++ [call]) = ((after calls).perform call).2 := by
  simp [after]

theorem isSound_after (calls : List RegistryCall) : (after calls).IsSound := by
  induction calls using List.reverseRecOn with
  | nil => exact ⟨Nat.one_pos, nofun⟩
  | append_singleton calls call induction =>
      rw [after_append_singleton]
      exact (performs_perform induction call).sound

theorem extends_after (before later : List RegistryCall) :
    (after before).Extends (after (before ++ later)) := by
  induction later using List.reverseRecOn with
  | nil => rw [List.append_nil]; exact .refl _
  | append_singleton later call induction =>
      rw [← List.append_assoc, after_append_singleton]
      exact induction.trans (performs_perform (isSound_after _) call).kept

/-- What the calls registered, one after the other. -/
def registrations (calls : List RegistryCall) : List (Token × Provider) :=
  calls.flatMap fun call => Registry.registered call.entries

theorem contents_after (calls : List RegistryCall) :
    (after calls).contents = Registry.ofRegistrations (registrations calls) := by
  induction calls using List.reverseRecOn with
  | nil => rfl
  | append_singleton calls call induction =>
      rw [after_append_singleton, (performs_perform (isSound_after calls) call).contents,
        Registry.perform_eq_update, Registry.update_eq, induction]
      simp [registrations, Registry.ofRegistrations]

open Registry (IsRefused)

/-- A map in which the last registration of a token counts and that keeps its snapshots: the registry
after some calls. -/
structure IsLastWriteWins (calls : List RegistryCall) : Prop where
  /-- What is refused is reported and changes nothing. -/
  refused : ∀ key source, IsRefused key source →
    ∀ call ∈ [RegistryCall.set key source, .assign key source],
      (∃ fault : Fault, fault.kind = .type ∧ ((after calls).perform call).1 = some fault) ∧
        ((after calls).perform call).2.contents = (after calls).contents
  /-- Before an entry that is refused, an update does the same as setting the entries in turn. -/
  stopped : ∀ first key source rest, (∀ entry ∈ first, ¬ IsRefused entry.1 entry.2) →
    IsRefused key source →
      (∃ fault : Fault, fault.kind = .type ∧
          ((after calls).perform (.update (first ++ (key, source) :: rest))).1 = some fault) ∧
        ((after calls).perform (.update (first ++ (key, source) :: rest))).2.contents
          = (after (calls ++ first.map fun entry => .set entry.1 entry.2)).contents
  /-- Nothing else is refused. -/
  accepted : ∀ call : RegistryCall, (∀ entry ∈ call.entries, ¬ IsRefused entry.1 entry.2) →
    ((after calls).perform call).1 = none
  tokens : (after calls).contents.tokens = ((registrations calls).map Prod.fst).eraseDups
  providers : ∀ token,
    (after calls).contents.get? token = (registrations calls).reverse.lookup token
  /-- A registration does not change what another token stands for. -/
  apart : ∀ token other : Token, token.identity ≠ other.identity → ∀ source,
    ((after calls).perform (.set (.token token) source)).2.contents.get? other
      = (after calls).contents.get? other
  /-- Each snapshot reads as the registry did. -/
  snapshots : ∀ before later, calls = before ++ .snapshot :: later →
    ∃ number, (after calls).snapshots[(after before).snapshots.length]? = some number ∧
      (after calls).read number = (after before).contents
  /-- A call does to the stored registry what it does to the registry itself. -/
  running : ∀ call, ((after calls).perform call).1 = ((after calls).contents.perform call).1 ∧
    ((after calls).perform call).2.contents = ((after calls).contents.perform call).2

theorem contents_after_sets (calls : List RegistryCall) (entries : Entries)
    (accepted : ∀ entry ∈ entries, ¬ IsRefused entry.1 entry.2) :
    (after (calls ++ entries.map fun entry => .set entry.1 entry.2)).contents
      = ((after calls).contents.update entries).2 := by
  have each : registrations (entries.map fun entry => .set entry.1 entry.2)
      = Registry.registered entries := by
    induction entries with
    | nil => rfl
    | cons entry rest induction =>
        obtain ⟨own, later⟩ := List.forall_mem_cons.mp accepted
        obtain ⟨made, known⟩ := Registry.exists_entryFor_of_not_isRefused own
        have others := induction later
        unfold registrations at others ⊢
        rw [List.map_cons, List.flatMap_cons, others]
        simp [RegistryCall.entries, Registry.registered, known]
  rw [contents_after, contents_after, Registry.update_eq, ← each]
  simp [registrations, Registry.ofRegistrations]

theorem exists_snapshot (before later : List RegistryCall) :
    ∃ number,
      (after (before ++ .snapshot :: later)).snapshots[(after before).snapshots.length]?
          = some number ∧
        (after (before ++ .snapshot :: later)).read number = (after before).contents := by
  have taken : after (before ++ [.snapshot]) = (after before).snapshot :=
    after_append_singleton before .snapshot
  have reaches := extends_after (before ++ [.snapshot]) later
  rw [List.append_assoc, List.singleton_append, taken] at reaches
  refine ⟨(after before).current, ?_, reaches.kept _ (isSound_after before).current⟩
  obtain ⟨more, continued⟩ := reaches.snapshots
  rw [← continued]
  simp [snapshot]

theorem isLastWriteWins_after (calls : List RegistryCall) : IsLastWriteWins calls := by
  have performs := performs_perform (isSound_after calls)
  refine ⟨fun key source refused call member => ?_, fun first key source rest before refused => ?_,
    fun call entries => ?_, ?_, fun token => ?_, fun token other apart source => ?_,
    fun before later split => ?_, fun call => ⟨(performs call).fault, (performs call).contents⟩⟩
  · have entries : call.entries = [] ++ (key, source) :: [] := by
      simp only [List.mem_cons, List.not_mem_nil, or_false] at member
      rcases member with rfl | rfl <;> rfl
    rw [(performs call).fault, (performs call).contents, Registry.perform_eq_update, entries]
    exact Registry.update_of_isRefused _ (List.forall_mem_nil _) refused
  · rw [(performs _).fault, (performs _).contents, contents_after_sets calls first before]
    exact Registry.update_of_isRefused _ before refused
  · rw [(performs call).fault, Registry.perform_eq_update]
    exact Registry.update_of_accepted _ entries
  · rw [contents_after, Registry.tokens_ofRegistrations]
  · rw [contents_after, Registry.get?_ofRegistrations]
  · have differs : other ≠ token := fun same => apart (same ▸ rfl)
    rw [(performs _).contents]
    exact Registry.get?_perform_of_ne _ differs source
  · subst split
    exact exists_snapshot before later

end Storage

end HtmlStream
