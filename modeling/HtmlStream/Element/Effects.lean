import HtmlStream.Element.Children
import HtmlStream.Routine.Work

/-!
What an element does when it is driven. A tag yields its opening marker, the effects of its
children and its closing marker; a fragment only the effects of its children; a component what its
call gives. Nested elements and bodies are not opened here: they are yielded, and the renderer
drives them on its own stack.
-/
namespace HtmlStream

namespace Element

/-- The effects of the children, up to the first that has none that could be rendered. -/
def childEffects (children : List Value) : List (Except Failure Value) :=
  match children with
  | [] => []
  | child :: rest =>
      match child.childEffect with
      | .ok none => childEffects rest
      | .ok (some effect) => .ok effect :: childEffects rest
      | .error failure => [.error failure]

/-- Whether a tag has a closing marker: void tags have one only around declared children. -/
def hasClosing (name : String) (children : List Value) : Bool :=
  !children.isEmpty || !Template.isVoid name

def marker (node : Element) (role : MarkerRole) : Value :=
  .marker role node.type (.mapping node.attributes) (.tuple node.children)

def effects (node : Element) : List (Except Failure Value) :=
  let inner := childEffects (flattenChildren node.children)
  match node.type with
  | .text name | .markup name =>
      .ok (node.marker .opening) :: inner
        ++ (if hasClosing name node.children then [.ok (node.marker .closing)] else [])
  | _ => inner

def body (node : Element) : Routine :=
  if node.type.isCallable then
    .act (.expand node.type node.attributes node.children) fun
      | .ok result => .yieldAll [.ok result]
      | .error failure => .finish (.error failure)
  else .yieldAll node.effects

end Element
end HtmlStream
