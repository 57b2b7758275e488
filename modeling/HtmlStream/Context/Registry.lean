import HtmlStream.Failure.Fault
import HtmlStream.Value.Equality

/-!
Registries: which provider stands for which token. Tokens keep the order of their first
registration; a later registration replaces the provider.
-/
namespace HtmlStream

structure Provider where
  kind : ProviderKind
  source : Value

namespace Provider

/-- Classify a provider by what calling it returns: generator components and coroutine components
are factories, everything else is the value itself. An async generator returns nothing that could
be provided. -/
def classify (source : Value) : Except Fault Provider :=
  match source with
  | .component reference =>
      if !reference.hashable then .ok ⟨.value, source⟩
      else match reference.kind with
        | some .generator => .ok ⟨.sync, source⟩
        | some .coroutine => .ok ⟨.async, source⟩
        | some .asyncGenerator => .error (.asyncGeneratorProvider reference.name)
        | none => .ok ⟨.value, source⟩
  | _ => .ok ⟨.value, source⟩

def toValue (provider : Provider) : Value :=
  .provider provider.kind provider.source

end Provider

abbrev Registry := List (Token × Provider)

namespace Registry

def get? (registry : Registry) (token : Token) : Option Provider :=
  (registry.find? fun entry => entry.1 == token).map Prod.snd

def contains (registry : Registry) (token : Token) : Bool :=
  (registry.get? token).isSome

def tokens (registry : Registry) : List Token :=
  registry.map Prod.fst

def insert (registry : Registry) (token : Token) (provider : Provider) : Registry :=
  match registry with
  | [] => [(token, provider)]
  | entry :: rest =>
      if entry.1 == token then (token, provider) :: rest else entry :: insert rest token provider

/-- The provider for any value: only tokens have one, and a value that cannot be a key is refused. -/
def providerFor (registry : Registry) (key : Value) : Except Fault (Option Provider) :=
  match key with
  | .token token => .ok (registry.get? token)
  | other =>
      match other.unhashablePart? with
      | some part => .error (.unhashable part.typeName)
      | none => .ok none

/-- The entry that registers a provider for what should be a token. -/
def entryFor (key source : Value) : Except Fault (Token × Provider) := do
  match key with
  | .token token => return (token, ← Provider.classify source)
  | other => throw (.tokenExpected other.typeName)

/-- Register a provider for what should be a token. A fault leaves the registry as it was. -/
def set (registry : Registry) (key source : Value) : Except Fault Registry := do
  let (token, provider) ← entryFor key source
  return registry.insert token provider

/-- Register each entry in turn. The entries before a faulty one stay registered. -/
def update (registry : Registry) : Entries → Option Fault × Registry
  | [] => (none, registry)
  | (key, source) :: rest =>
      match registry.set key source with
      | .ok registry => update registry rest
      | .error fault => (some fault, registry)

end Registry
end HtmlStream
