import HtmlStream.Routine.Resume

/-!
Inspections of components: the names of the attributes that reach them. What an inspection found is
remembered for the next call of the same component, unless the component cannot be a key.
-/
namespace HtmlStream

/-- The names that reach something callable; `none` if all of them do. -/
abbrev AcceptedNames := Option (List String)

namespace AcceptedNames

/-- The arguments whose names are accepted. -/
def filter (names : AcceptedNames) (arguments : Entries) : Entries :=
  match names with
  | some names => arguments.filter fun argument =>
      match argument.1 with
      | .text name | .markup name => names.contains name
      | _ => false
  | none => arguments

end AcceptedNames

/-- The inspections that are remembered, the one that was used last at the front. -/
abbrev InspectionMemory := List (Value × AcceptedNames)

namespace Inspection

/-- How many inspections are remembered; beyond that the one that was not used for longest is
forgotten. -/
def capacity : Nat := 512

/-- The names that a signature declares. All names are accepted by what takes the rest, and by what
has no signature. -/
def inspect (library : Library) (component : Value) : AcceptedNames :=
  match Session.signature? library component with
  | some signature =>
      if signature.rest.isSome then none else some (signature.byName.map Parameter.name)
  | none => none

def remembered? (component : Value) (memory : InspectionMemory) :
    Option (Value × AcceptedNames) :=
  memory.find? fun entry => entry.1.matchesItem component

/-- Inspect a component that can be a key, if that was not done yet. -/
def inspectOnce (library : Library) (component : Value) (memory : InspectionMemory) :
    Except Fault AcceptedNames × InspectionMemory :=
  match component.unhashablePart? with
  | some part => (.error (.unhashable part.typeName), memory)
  | none =>
      match remembered? component memory with
      | some entry =>
          (.ok entry.2, entry :: memory.filter fun other => !other.1.matchesItem component)
      | none =>
          let names := inspect library component
          (.ok names, ((component, names) :: memory).take capacity)

/-- The names that a component accepts. One that cannot be a key is inspected each time. -/
def acceptedNames (library : Library) (component : Value) (memory : InspectionMemory) :
    AcceptedNames × InspectionMemory :=
  match inspectOnce library component memory with
  | (.ok names, memory) => (names, memory)
  | (.error _, memory) => (inspect library component, memory)

/-- The arguments of a component for an element, as far as the names are accepted. -/
def argumentsFor (library : Library) (component : Value) (attributes : Entries)
    (children : List Value) (memory : InspectionMemory) : Entries × InspectionMemory :=
  let (names, memory) := acceptedNames library component memory
  (names.filter (attributes.insert (.text childrenKey) (.list children)), memory)

/-- What is remembered after some components were inspected, in their order. -/
def after (library : Library) (components : List Value) : InspectionMemory :=
  components.foldl (fun memory component => (acceptedNames library component memory).2) []

end Inspection
end HtmlStream
