import HtmlStream.Component.Signature
import HtmlStream.Routine.Basic

/-!
Components and the library that holds them by name.
-/
namespace HtmlStream

structure Component where
  reference : ComponentReference
  signature : Signature
  body : Bindings → Routine

abbrev Library := List Component

namespace Library

def find? (library : Library) (reference : ComponentReference) : Option Component :=
  List.find? (fun component => component.reference.name == reference.name) library

end Library

/-- The attribute name under which a component receives its declared children. -/
def childrenKey : String := "children"

namespace Component

/-- The arguments of a component for an element: its attributes and the list of its children, as
far as the component accepts them. -/
def argumentsFor (signature : Option Signature) (attributes : Entries) (children : List Value) :
    Entries :=
  let all := attributes.insert (.text childrenKey) (.list children)
  match signature with
  | some signature => all.filter fun argument => signature.accepts argument.1
  | none => all

end Component
end HtmlStream
