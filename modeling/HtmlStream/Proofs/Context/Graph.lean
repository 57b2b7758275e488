import HtmlStream.Proofs.Routine.Requesting

/-!
Registries as graphs. Where every factory makes bodies that ask for a fixed list of tokens, the
tokens are the nodes of a graph and what their factories ask for are its edges. Tokens from which no
path is infinite can be resolved; `IsResolvable.not_cyclic` says that they lie on no cycle.
-/
namespace HtmlStream

open Relation

/-- A provider whose factory makes bodies that ask for some tokens in order and return. -/
inductive Provider.Requests (library : Library) (lookup : String → Reply) :
    List Token → Provider → Prop
  | intro {tokens : List Token} {providerKind : ProviderKind} {reference : ComponentReference}
      {component : Component} {bindings : Bindings} {kind : RoutineKind}
      (found : library.find? reference = some component)
      (bound : component.signature.bind reference.name
        (if reference.hashable then none else some (.component reference)) [] = .ok bindings)
      (kind_eq : component.reference.kind = some kind) (notAsync : kind ≠ .asyncGenerator)
      (requests : (component.body bindings).Requests lookup tokens) :
      Requests library lookup tokens ⟨providerKind, .component reference⟩

namespace Provider.Requests

variable {library : Library} {lookup : String → Reply} {tokens others : List Token}
  {provider : Provider}

theorem unique (requests : provider.Requests library lookup tokens)
    (alike : provider.Requests library lookup others) : tokens = others := by
  cases requests with
  | intro found bound _ _ requests =>
      cases alike with
      | intro found' bound' _ _ requests' =>
          rw [found] at found'
          cases found'
          rw [bound] at bound'
          cases bound'
          exact requests.unique requests'

/-- Calling the factory gives a body that has not started. -/
theorem exists_call (requests : provider.Requests library lookup tokens) :
    ∃ kind name body, kind ≠ .asyncGenerator ∧ body.Requests lookup tokens ∧
      ∀ resume (session : Session), session.call library resume provider.source []
        = (.ok (.routine ⟨kind, session.routines.size, name⟩),
            (session.addRoutine kind name body).2) := by
  cases requests with
  | @intro _ reference component bindings kind found bound kind_eq notAsync requests =>
      refine ⟨kind, reference.name, component.body bindings, notAsync, requests, ?_⟩
      intro resume session
      unfold Session.call Session.callComponent
      dsimp only
      rw [found]
      dsimp only
      rw [bound]
      dsimp only
      rw [kind_eq]
      rfl

end Provider.Requests

namespace Registry

/-- The tokens that factories are registered for. -/
def factories (registry : Registry) : List Token :=
  (registry.filter fun entry => entry.2.kind != .value).map Prod.fst

theorem mem_of_get? {registry : Registry} {token : Token} {provider : Provider}
    (found : registry.get? token = some provider) : (token, provider) ∈ registry := by
  rcases Option.map_eq_some_iff.mp found with ⟨⟨other, same⟩, first, rfl⟩
  have equal : other = token := by simpa using List.find?_some first
  exact equal ▸ List.mem_of_find?_eq_some first

theorem mem_factories {registry : Registry} {token : Token} {provider : Provider}
    (found : registry.get? token = some provider) (factory : provider.kind ≠ .value) :
    token ∈ registry.factories := by
  refine List.mem_map.mpr ⟨_, List.mem_filter.mpr ⟨mem_of_get? found, ?_⟩, rfl⟩
  simpa using factory

variable (registry : Registry) (library : Library) (lookup : String → Reply)

/-- Every factory asks for some tokens in order and returns. -/
def IsRequesting : Prop :=
  ∀ token provider, registry.get? token = some provider → provider.kind ≠ .value →
    ∃ tokens, provider.Requests library lookup tokens

/-- The edges of the graph: the factory for one token asks for another token. -/
def Asks (token other : Token) : Prop :=
  ∃ provider tokens, registry.get? token = some provider ∧ provider.kind ≠ .value ∧
    provider.Requests library lookup tokens ∧ other ∈ tokens

/-- Why a request for a token may fail: what it leads to is not registered, or lies on a cycle. -/
inductive Refuses (token : Token) : Failure → Prop
  | missing {other : Token} (labels : List String)
      (reaches : ReflTransGen (registry.Asks library lookup) token other)
      (unregistered : registry.get? other = none) :
      Refuses token (.engine (.missingContext (.token other) labels))
  | cyclic {other : Token} (labels : List String)
      (reaches : ReflTransGen (registry.Asks library lookup) token other)
      (cycle : TransGen (registry.Asks library lookup) other other) :
      Refuses token (.engine (.contextCycle (.token other) labels))

/-- No path from a token is infinite. -/
def IsResolvable (token : Token) : Prop :=
  Acc (fun other token => registry.Asks library lookup token other) token

variable {registry library lookup} {token other : Token}

theorem Refuses.of_asks {failure : Failure} (refuses : registry.Refuses library lookup other failure)
    (asks : registry.Asks library lookup token other) :
    registry.Refuses library lookup token failure := by
  cases refuses with
  | missing labels reaches unregistered => exact .missing labels (.head asks reaches) unregistered
  | cyclic labels reaches cycle => exact .cyclic labels (.head asks reaches) cycle

/-- If everything that a token leads to is registered, a request for it fails at cycles only. -/
theorem Refuses.exists_cycle {failure : Failure}
    (refuses : registry.Refuses library lookup token failure)
    (registered : ∀ other, ReflTransGen (registry.Asks library lookup) token other →
      (registry.get? other).isSome) :
    ∃ other labels, ReflTransGen (registry.Asks library lookup) token other ∧
      TransGen (registry.Asks library lookup) other other ∧
      failure = .engine (.contextCycle (.token other) labels) := by
  cases refuses with
  | missing labels reaches unregistered =>
      have found := registered _ reaches
      rw [unregistered] at found
      cases found
  | cyclic labels reaches cycle => exact ⟨_, labels, reaches, cycle, rfl⟩

theorem IsResolvable.of_reaches (resolvable : registry.IsResolvable library lookup token)
    (reaches : ReflTransGen (registry.Asks library lookup) token other) :
    registry.IsResolvable library lookup other := by
  induction reaches with
  | refl => exact resolvable
  | tail _ asks induction => exact induction.inv asks

/-- A token that can be resolved lies on no cycle. -/
theorem IsResolvable.not_cyclic (resolvable : registry.IsResolvable library lookup token) :
    ¬ TransGen (registry.Asks library lookup) token token := by
  have paths := resolvable.transGen
  clear resolvable
  induction paths with
  | intro token _ induction => exact fun cycle => induction token (transGen_swap.mpr cycle) cycle

end Registry

end HtmlStream
