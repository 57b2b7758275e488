import HtmlStream.Proofs.Routine.Congruence

/-!
Bodies without the registrations that they make. Nothing that a body does depends on what is
registered meanwhile, except that the registry holds the bodies in its providers, which are not closed
as long as they are held. So bodies that register, and the same bodies without their registrations,
are advanced in step as long as no registration concerns a provider that holds a body. The main
statement is `follows_resume`.
-/
namespace HtmlStream

/-! ## Stripped programs -/

namespace Action

/-- Whether the action is a registration that the registry accepts. -/
def isRegistration : Action → Bool
  | .register key source =>
      match Registry.entryFor key source with
      | .ok _ => true
      | .error _ => false
  | _ => false

end Action

theorem exists_entry_of_isRegistration {action : Action} (registers : action.isRegistration = true) :
    ∃ key source entry, action = .register key source ∧
      Registry.entryFor key source = .ok entry := by
  cases action with
  | register key source =>
      unfold Action.isRegistration at registers
      dsimp only at registers
      cases accepted : Registry.entryFor key source with
      | ok entry => exact ⟨key, source, entry, rfl, accepted⟩
      | error fault =>
          rw [accepted] at registers
          cases registers
  | _ => cases registers

namespace Routine

/-- A body without its registrations. Those that the registry refuses stay, since they fail. -/
def stripped : Routine → Routine
  | .finish result => .finish result
  | .reserve count next => .reserve count fun first => (next first).stripped
  | .act action next =>
      if action.isRegistration then (next (.ok .null)).stripped
      else .act action fun reply => (next reply).stripped
  | .advance index next => .advance index fun advanced => (next advanced).stripped
  | .start body next => .start body.stripped fun task => (next task).stripped
  | .suspend suspension next => .suspend suspension fun reply => (next reply).stripped

theorem stripped_registration {action : Action} (registers : action.isRegistration = true)
    (next : Reply → Routine) : (act action next).stripped = (next (.ok .null)).stripped :=
  if_pos registers

theorem stripped_act {action : Action} (registersNot : action.isRegistration = false)
    (next : Reply → Routine) :
    (act action next).stripped = .act action fun reply => (next reply).stripped :=
  if_neg (Bool.eq_false_iff.mp registersNot)

theorem stripped_yieldAll (effects : List (Except Failure Value)) :
    (yieldAll effects).stripped = yieldAll effects := by
  induction effects with
  | nil => rfl
  | cons effect rest induction =>
      cases effect with
      | error failure => rfl
      | ok value =>
          unfold yieldAll stripped
          congr 1
          funext reply
          cases reply with
          | ok answer => exact induction
          | error failure => rfl

end Routine

/-- An element registers nothing itself. -/
theorem Element.stripped_body (node : Element) : node.body.stripped = node.body := by
  unfold body
  split
  · rw [Routine.stripped_act rfl]
    congr 1
    funext reply
    cases reply with
    | ok result => exact Routine.stripped_yieldAll _
    | error failure => rfl
  · exact Routine.stripped_yieldAll _

def RoutineState.stripped : RoutineState → RoutineState
  | .unstarted body => .unstarted body.stripped
  | .suspended next => .suspended fun reply => (next reply).stripped
  | .waiting pending next => .waiting pending fun reply => (next reply).stripped
  | .delegating target next => .delegating target fun reply => (next reply).stripped
  | .running => .running
  | .finished outcome => .finished outcome

def RoutineObject.stripped (object : RoutineObject) : RoutineObject :=
  { object with state := object.state.stripped }

def Component.stripped (component : Component) : Component :=
  { component with body := fun bindings => (component.body bindings).stripped }

def Library.stripped (library : Library) : Library :=
  library.map Component.stripped

theorem Library.find?_stripped (library : Library) (reference : ComponentReference) :
    library.stripped.find? reference = (library.find? reference).map Component.stripped := by
  unfold stripped find?
  rw [List.find?_map]
  rfl

/-! ## Registries that hold the same bodies -/

/-- No body is held by the value. -/
def Value.HoldsNoBody (value : Value) : Prop :=
  ∀ index, value.holds index = false

namespace Registry

def holds (registry : Registry) (index : Nat) : Bool :=
  registry.any fun entry => entry.2.source.holds index

variable {registry : Registry} {token : Token} {provider : Provider}

/-- Replacing a provider that holds no body by another such one changes nothing about the bodies that
are held. -/
theorem holds_insert (holdsNone : provider.source.HoldsNoBody)
    (replacesNone : ∀ replaced, registry.get? token = some replaced → replaced.source.HoldsNoBody)
    (index : Nat) : (registry.insert token provider).holds index = registry.holds index := by
  induction registry with
  | nil => simp [insert, holds, holdsNone index]
  | cons entry rest induction =>
      unfold get? at replacesNone
      rw [List.find?_cons] at replacesNone
      unfold insert
      cases same : entry.1 == token with
      | true =>
          rw [same] at replacesNone
          have replaced := replacesNone entry.2 rfl index
          simp [holds, holdsNone index, replaced]
      | false =>
          rw [same] at replacesNone
          have later := induction replacesNone
          unfold holds at later ⊢
          rw [if_neg Bool.false_ne_true, List.any_cons, List.any_cons, later]

/-- What an insertion leaves is the new provider or one that was there. -/
theorem get?_insert {other : Token} {found : Provider}
    (there : (registry.insert token provider).get? other = some found) :
    found = provider ∨ registry.get? other = some found := by
  unfold get? at there ⊢
  induction registry with
  | nil =>
      rw [insert, List.find?_cons] at there
      split at there
      · cases there
        exact .inl rfl
      · cases there
  | cons entry rest induction =>
      rw [insert] at there
      split at there
      next same =>
        rw [List.find?_cons] at there ⊢
        have tokens := eq_of_beq same
        dsimp only at there
        rw [tokens]
        split at there
        · cases there
          exact .inl rfl
        · exact .inr there
      next =>
        rw [List.find?_cons] at there ⊢
        split at there
        · exact .inr there
        · exact induction there

end Registry

/-! ## Sessions -/

namespace Session

/-- A session with all its bodies stripped. -/
def stripped (session : Session) : Session :=
  { session with routines := session.routines.map RoutineObject.stripped }

/-- An entry is apart from bodies if neither its provider holds one nor the provider that it replaces,
if there was one at `origin`. -/
structure IsApart (origin : Session) (entry : Token × Provider) : Prop where
  holdsNone : entry.2.source.HoldsNoBody
  replacesNone : ∀ replaced, origin.registry.get? entry.1 = some replaced →
    replaced.source.HoldsNoBody

/-- Since `origin` something has been registered that is not apart from bodies. -/
def IsEntangled (origin session : Session) : Prop :=
  ∃ made, session.registrations = made ++ origin.registrations ∧
    ∃ entry ∈ made, ¬ origin.IsApart entry

theorem keptByBodies_isEntangled (origin : Session) : KeptByBodies origin.IsEntangled where
  blind entangled _ _ _ _ := entangled
  enroll entangled entry := by
    rcases entangled with ⟨made, registered, earlier, member, notApart⟩
    exact ⟨entry :: made, congrArg (entry :: ·) registered, earlier,
      List.mem_cons_of_mem entry member, notApart⟩
  withMeta entangled _ _ _ := entangled

/-- A session and what it is without the registrations since `origin`, which are all apart from
bodies. -/
structure Shadows (origin left right : Session) : Prop where
  rest : ∃ registrations, right = { left with
    routines := left.routines.map RoutineObject.stripped
    registry := origin.registry
    registrations }
  since : ∃ made, left.registrations = made ++ origin.registrations
  holds : ∀ index, left.registry.holds index = origin.registry.holds index
  keeps : ∀ token provider, left.registry.get? token = some provider →
    provider.source.HoldsNoBody ∨ origin.registry.get? token = some provider

variable {α : Type} {origin left right : Session}

/-- Two results are equal and come with sessions of which one shadows the other, unless a registration
was not apart from bodies. -/
def Follows (origin : Session) (left right : α × Session) : Prop :=
  origin.IsEntangled left.2 ∨ After origin.Shadows left right

theorem Follows.of_after {left right : α × Session} (after : After origin.Shadows left right) :
    Follows origin left right :=
  .inr after

theorem Shadows.refl (session : Session) : session.Shadows session session.stripped where
  rest := ⟨session.registrations, rfl⟩
  since := ⟨[], rfl⟩
  holds _ := rfl
  keeps _ _ there := .inr there

theorem Shadows.follows {left right : Session} (shadows : origin.Shadows left right) (result : α) :
    Follows origin (result, left) (result, right) :=
  .inr ⟨rfl, shadows⟩

namespace Shadows

variable (shadows : origin.Shadows left right)

include shadows

/-- Whatever is read of a session, apart from its bodies and its registry, is the same for both. -/
theorem read_eq (read : Session → α)
    (blind : ∀ session routines registry registrations,
      read { session with routines, registry, registrations } = read session) :
    read right = read left := by
  rcases shadows.rest with ⟨registrations, rfl⟩
  exact blind left _ _ registrations

/-- What writes neither bodies nor the registry is done to both. -/
theorem write (change : Session → Session)
    (blind : ∀ session routines registry registrations,
      change { session with routines, registry, registrations }
        = { change session with routines, registry, registrations } := by intros; rfl)
    (routines : (change left).routines = left.routines := by rfl)
    (registry : (change left).registry = left.registry := by rfl)
    (registrations : (change left).registrations = left.registrations := by rfl) :
    origin.Shadows (change left) (change right) where
  rest := by
    rcases shadows.rest with ⟨others, rfl⟩
    exact ⟨others, by rw [blind, routines]⟩
  since := by
    rw [registrations]
    exact shadows.since
  holds := by
    rw [registry]
    exact shadows.holds
  keeps := by
    rw [registry]
    exact shadows.keeps

theorem routine?_eq (index : Nat) :
    right.routine? index = (left.routine? index).map RoutineObject.stripped := by
  rcases shadows.rest with ⟨registrations, rfl⟩
  exact Array.getElem?_map

theorem setState (index : Nat) (state : RoutineState) :
    origin.Shadows (left.setState index state) (right.setState index state.stripped) where
  rest := by
    rcases shadows.rest with ⟨registrations, rfl⟩
    refine ⟨registrations, ?_⟩
    unfold Session.setState
    congr 1
    apply Array.ext_getElem?
    intro other
    simp only [Array.getElem?_modify, Array.getElem?_map]
    split
    · rw [Option.map_map, Option.map_map]
      rfl
    · rfl
  since := shadows.since
  holds := shadows.holds
  keeps := shadows.keeps

theorem addRoutine (kind : RoutineKind) (name : String) (body : Routine) :
    After origin.Shadows (left.addRoutine kind name body)
      (right.addRoutine kind name body.stripped) := by
  refine ⟨?_, ?_, shadows.since, shadows.holds, shadows.keeps⟩
  · rcases shadows.rest with ⟨registrations, rfl⟩
    unfold Session.addRoutine
    rw [Array.size_map]
  · rcases shadows.rest with ⟨registrations, rfl⟩
    refine ⟨registrations, ?_⟩
    unfold Session.addRoutine
    rw [Array.map_push]
    rfl

theorem holds_eq (index : Nat) : right.holds index = left.holds index := by
  have held (session : Session) : session.holds index
      = ((session.names.any fun entry => entry.2.holds index)
        || (session.contexts.any fun context =>
          context.metadata.any fun entry => entry.2.holds index)
        || session.registry.holds index) := rfl
  rw [held, held, shadows.holds]
  rcases shadows.rest with ⟨registrations, rfl⟩
  rfl

/-- A registration that is apart from bodies is only seen in the registry. -/
theorem enroll {entry : Token × Provider} (apart : origin.IsApart entry) :
    origin.Shadows (left.enroll entry) right where
  rest := shadows.rest
  since := by
    rcases shadows.since with ⟨made, registered⟩
    exact ⟨entry :: made, congrArg (entry :: ·) registered⟩
  holds index := by
    refine (Registry.holds_insert apart.holdsNone (fun replaced there => ?_) index).trans
      (shadows.holds index)
    rcases shadows.keeps entry.1 replaced there with plain | original
    · exact plain
    · exact apart.replacesNone replaced original
  keeps token provider there := by
    rcases Registry.get?_insert there with rfl | earlier
    · exact .inl apart.holdsNone
    · exact shadows.keeps token provider earlier

end Shadows
end Session
end HtmlStream
