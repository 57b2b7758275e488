import HtmlStream.Context.Registry

/-!
Where a registry keeps its entries. A registration copies the mapping in use, enters the provider in
the copy and takes the copy into use. A snapshot looks at the mapping that was in use; nothing is copied
for it.
-/
namespace HtmlStream

/-- What can be called on a registry. -/
inductive RegistryCall where
  | set (key source : Value)
  /-- Assigning an item. -/
  | assign (key source : Value)
  | update (entries : Entries)
  | snapshot

/-- Mappings in the order in which they were made, the number of the one in use, and the numbers of
those that snapshots look at. -/
structure Storage where
  mappings : Array Registry
  current : Nat
  snapshots : List Nat

namespace Storage

def empty : Storage := ⟨#[[]], 0, []⟩

def read (storage : Storage) (number : Nat) : Registry :=
  storage.mappings[number]?.getD []

def contents (storage : Storage) : Registry :=
  storage.read storage.current

/-- Copy the mapping in use. -/
def copy (storage : Storage) : Nat × Storage :=
  (storage.mappings.size,
    { storage with mappings := storage.mappings.push storage.contents })

/-- Enter a provider in a mapping, in place. -/
def enter (storage : Storage) (number : Nat) (token : Token) (provider : Provider) : Storage :=
  { storage with
    mappings := storage.mappings.modify number fun mapping => mapping.insert token provider }

def set (storage : Storage) (key source : Value) : Option Fault × Storage :=
  match key with
  | .token token =>
      let (number, storage) := storage.copy
      match Provider.classify source with
      | .ok provider => (none, { storage.enter number token provider with current := number })
      | .error fault => (some fault, storage)
  | other => (some (.tokenExpected other.typeName), storage)

/-- Set each entry in turn, up to the first one that is refused. -/
def update (storage : Storage) : Entries → Option Fault × Storage
  | [] => (none, storage)
  | (key, source) :: rest =>
      match storage.set key source with
      | (none, storage) => update storage rest
      | (some fault, storage) => (some fault, storage)

def snapshot (storage : Storage) : Storage :=
  { storage with snapshots := storage.snapshots ++ [storage.current] }

def perform (storage : Storage) : RegistryCall → Option Fault × Storage
  | .set key source | .assign key source => storage.set key source
  | .update entries => storage.update entries
  | .snapshot => (none, storage.snapshot)

/-- What is stored after some calls on a new registry. -/
def after (calls : List RegistryCall) : Storage :=
  calls.foldl (fun storage call => (storage.perform call).2) empty

end Storage
end HtmlStream
