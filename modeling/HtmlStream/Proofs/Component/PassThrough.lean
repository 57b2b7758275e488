import HtmlStream.Proofs.Script.Blindness

/-!
Components that pass their children on. They yield a fragment of what they are given, and nothing
else; they cannot tell numbers. The main statements are `expand_passThrough` and
`isBlind_passThrough`.
-/
namespace HtmlStream

open Session

namespace Script

/-- A body that binds no names has no generators of its own. -/
theorem Piece.finishing_self (received : Scope) (held : Value) (result : Reply) :
    finishing received received held result = .finish result := by
  have none : ownGenerators received received = [] := by
    unfold ownGenerators
    refine List.filter_eq_nil_iff.mpr fun index member => ?_
    simpa using List.mem_reverse.mp member
  unfold finishing
  rw [none]

end Script

namespace Component

/-- The component that yields a fragment of its children, and does nothing else. -/
def passThrough (name : String) : Component where
  reference := ⟨name, some .generator, true⟩
  signature := ⟨[], [⟨childrenKey, none⟩], [], none⟩
  body := Script.bodyOfStatements .generator
    [.operation (.yield (.element (.constant .fragment) (some (.constant .null))
      [.named childrenKey])) none]

variable {library : Library} {name : String}

/-- Once it has its children, the body makes a fragment of them and yields it. -/
theorem exists_passThrough (name : String) (bindings : Bindings) :
    ∃ (onward : Reply → Routine) (next : Value → Nat → Reply → Routine),
      (passThrough name).body bindings
        = (match Script.Scope.get? bindings childrenKey with
          | some children => (pure children : Work Value)
          | none => Work.act (.lookup childrenKey)) onward ∧
      (∀ children, onward (.ok children) = .reserve 1 fun identity =>
        .suspend (.effect (.element identity .fragment [] [children])) (next children identity)) ∧
      (∀ failure, onward (.error failure) = .finish (.error failure)) ∧
      ∀ children identity, (∀ value, next children identity (.ok value) = .yieldAll []) ∧
        ∀ failure, next children identity (.error failure) = .finish (.error failure) := by
  refine ⟨_, _, rfl, fun children => rfl, fun failure => ?_, fun children identity =>
    ⟨fun value => ?_, fun failure => ?_⟩⟩
  · cases failure with
    | exit => exact Script.Piece.finishing_self bindings .null _
    | _ => rfl
  · exact Script.Piece.finishing_self bindings .null _
  · cases failure with
    | exit => exact Script.Piece.finishing_self bindings .null _
    | _ => rfl

/-- An element of the component opens a body that was given the children. -/
theorem expand_passThrough
    (found : library.find? (passThrough name).reference = some (passThrough name))
    (resume : Resumption) (children : List Value) (session : Session) :
    expand library resume (.component (passThrough name).reference) [] children session
      = (.ok (.routine ⟨.generator, session.routines.size, name⟩),
          (session.addRoutine .generator name
            ((passThrough name).body [(childrenKey, .list children)])).2) := by
  unfold expand call callComponent signature?
  dsimp only
  rw [found]
  rfl

theorem isBlind_passThrough (base : Pairing) (name : String) :
    (passThrough name).IsBlind base := by
  have none : LacksProbe ([] : List Parameter) := nofun
  have one : LacksProbe [Parameter.mk childrenKey .none] :=
    List.forall_mem_singleton.mpr lacksProbe_none
  have declared : (passThrough name).body = (Script.DeclaredBody.statements .generator
      [.operation (.yield (.element (.constant .fragment) (some (.constant .null))
        [.named childrenKey])) .none]).bind := rfl
  refine isBlind_of_declared declared ?_ (Pairing.relates_self ⟨none, one, none⟩ fun _ => rfl)
  exact ⟨⟨⟨fun _ => rfl, trivial⟩, ⟨fun _ => rfl, trivial⟩, trivial, trivial⟩, trivial⟩

end Component
end HtmlStream
