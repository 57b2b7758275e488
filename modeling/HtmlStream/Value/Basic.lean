import HtmlStream.Settings

/-!
The values that templates, components and providers hand around. Components are written against
values of any kind, so what may stand where is checked when a value is used, not before.

Elements, styles, tokens and other objects are told apart by identity, not by content; each carries
the number it was given when it was made.
-/
namespace HtmlStream

inductive RoutineKind where
  | generator
  | asyncGenerator
  | coroutine
  deriving DecidableEq, Repr

/-- A suspended or running body: where its state is kept, and the name of its component. -/
structure RoutineReference where
  kind : RoutineKind
  index : Nat
  name : String
  deriving DecidableEq

/-- A component as a value. `kind` is `none` for a plain function, which answers at once. A
component that is not `hashable` is itself an empty mapping that can be called. -/
structure ComponentReference where
  name : String
  kind : Option RoutineKind
  hashable : Bool
  deriving DecidableEq

/-- A handle for a dependency; two tokens of one name are different tokens. -/
structure Token where
  identity : Nat
  name : Option String
  deriving DecidableEq

/-- A style fragment; two fragments of one content are different fragments. -/
structure Style where
  identity : Nat
  content : String
  deriving DecidableEq

/-- How a provider gives its value: as it is, by running a generator, or by running a
coroutine. -/
inductive ProviderKind where
  | value
  | sync
  | async
  deriving DecidableEq

inductive MarkerRole where
  | opening
  | closing
  | unspecified
  deriving DecidableEq

inductive Value where
  | null
  | boolean (value : Bool)
  | integer (value : Int)
  | float (value : Float)
  /-- A float that is no number. It equals nothing, not even itself, but a collection finds it again
  by its identity. -/
  | notANumber (identity : Nat)
  | text (content : String)
  | markup (content : String)
  | list (items : List Value)
  | tuple (items : List Value)
  | mapping (entries : List (Value × Value))
  | element (identity : Nat) (type : Value) (attributes : List (Value × Value))
      (children : List Value)
  | style (style : Style)
  /-- A boundary of a tag, with attributes and children as they were given. -/
  | marker (role : MarkerRole) (type attributes children : Value)
  /-- The element type of several roots: it has children and no tag. -/
  | fragment
  | token (token : Token)
  | provider (kind : ProviderKind) (source : Value)
  | settings (settings : Settings)
  /-- An object that no rule of this library knows. -/
  | object (identity : Nat) (name : String)
  /-- An object that knows its own markup. -/
  | safe (identity : Nat) (content : String)
  | routine (routine : RoutineReference)
  | component (component : ComponentReference)
  /-- The callable that makes a mapping of its keyword arguments. -/
  | mappingType
  /-- The callable that tells the number of live frames. -/
  | depthProbe

/-- Attributes and other mappings: keys and values in order. -/
abbrev Entries := List (Value × Value)

/-- An element: a tag, a fragment or a component with its attributes and children. Making one
renders nothing. -/
structure Element where
  identity : Nat
  type : Value
  attributes : Entries
  children : List Value

namespace Element

def toValue (node : Element) : Value :=
  .element node.identity node.type node.attributes node.children

end Element

structure Marker where
  type : Value
  attributes : Value

namespace Value

def isText : Value → Bool
  | .text _ | .markup _ => true
  | _ => false

def isElement : Value → Bool
  | .element .. => true
  | _ => false

def isCallable : Value → Bool
  | .component _ | .mappingType | .depthProbe => true
  | _ => false

def generator? : Value → Option Nat
  | .routine ⟨.generator, index, _⟩ => some index
  | _ => none

def float? : Value → Option Float
  | .float number => some number
  | .notANumber _ => some (0.0 / 0.0)
  | _ => none

/-- The entries of a mapping; a component that is a mapping has none. -/
def asMapping? : Value → Option Entries
  | .mapping entries => some entries
  | .component reference => if reference.hashable then none else some []
  | _ => none

/-- How many items a value holds, if it holds items at all. -/
def length? : Value → Option Nat
  | .list items | .tuple items => some items.length
  | .text content | .markup content => some content.length
  | .mapping entries => some entries.length
  | .component reference => if reference.hashable then none else some 0
  | _ => none

/-- Whether a value counts as true where a condition is asked for. -/
def truth : Value → Bool
  | .null => false
  | .boolean value => value
  | .integer value => value != 0
  | .float value => value != 0
  | .text content | .markup content => !content.isEmpty
  | .list items | .tuple items => !items.isEmpty
  | .mapping entries => !entries.isEmpty
  | .component reference => reference.hashable
  | _ => true

end Value
end HtmlStream
