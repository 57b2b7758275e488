import HtmlStream.Component.Library
import HtmlStream.Element.Children

/-!
HTML text of effects. Nothing is escaped unless the serializer escapes; values that know their own
markup never are. Each style fragment is written where it is met first, and only there.
-/
namespace HtmlStream

/-- A character of a text or an attribute value in escaped form. -/
def escapedCharacter : Char → List Char
  | '&' => "&amp;".toList
  | '<' => "&lt;".toList
  | '>' => "&gt;".toList
  | '"' => "&quot;".toList
  | '\'' => "&#x27;".toList
  | other => [other]

def escapeHtml (text : String) : String :=
  String.ofList (text.toList.flatMap escapedCharacter)

/-- What was recorded as written already, told apart as the keys of a mapping are. -/
abbrev StyleSet := List Value

structure Serializer where
  autoescape : Bool
  styles : StyleSet

namespace Serializer

def start (autoescape : Bool) : Serializer := ⟨autoescape, []⟩

/-- A value as text on the page. Markup stays markup, which a value tells from plain text. -/
def shown (autoescape : Bool) (value : Value) : Except Fault Value :=
  match value with
  | .markup content => .ok (.markup content)
  | .safe _ content => .ok (.text content)
  | other => other.written.map fun text => .text (if autoescape then escapeHtml text else text)

def text (autoescape : Bool) (value : Value) : Except Fault String :=
  (shown autoescape value).map Value.toText

/-- Whether a key is the one under which children are declared. -/
def isChildrenKey : Value → Bool
  | .text name | .markup name => name == childrenKey
  | _ => false

/-- One attribute: the children, null and false are left out, and true shows only the name. -/
def attributeText (autoescape : Bool) (key value : Value) : Except Fault String :=
  if isChildrenKey key then .ok ""
  else match value with
    | .null | .boolean false => .ok ""
    | .boolean true => do return " " ++ (← key.written)
    | other => do return " " ++ (← key.written) ++ "=\"" ++ (← text autoescape other) ++ "\""

/-- The attributes of a tag, which have to be a mapping. -/
def attributesText (autoescape : Bool) (attributes : Value) : Except Fault String :=
  match attributes.asMapping? with
  | some entries => do
      return String.join (← entries.mapM fun entry => attributeText autoescape entry.1 entry.2)
  | none => .error (.attributesNotMapping attributes.typeName)

def openingTag (autoescape : Bool) (marker : Marker) : Except Fault String := do
  let attributes ← attributesText autoescape marker.attributes
  return "<" ++ (← marker.type.written) ++ attributes ++ ">"

def closingTag (marker : Marker) : Except Fault String := do
  return "</" ++ (← marker.type.written) ++ ">"

/-- The text that a page ends with: the result of its root, if that is a text or a number. Markup
that is returned counts as plain text. -/
def resultText (autoescape : Bool) (result : Value) : Except Fault String :=
  match result with
  | .text _ | .markup _ | .integer _ | .float _ | .notANumber _ => do
      text autoescape (.text (← result.written))
  | _ => .ok ""

/-! ## Styles -/

def isRecorded (styles : StyleSet) (value : Value) : Bool :=
  styles.any fun recorded => recorded.matchesItem value

/-- Record a value; whether it was new. -/
def record (styles : StyleSet) (value : Value) : Bool × StyleSet :=
  if isRecorded styles value then (false, styles) else (true, value :: styles)

/-- The block of a style where it is met first. -/
def styleBlock (styles : StyleSet) (style : Style) : Option String × StyleSet :=
  match record styles (.style style) with
  | (true, styles) => (some ("<style>" ++ style.content ++ "</style>"), styles)
  | (false, styles) => (none, styles)

end Serializer
end HtmlStream
