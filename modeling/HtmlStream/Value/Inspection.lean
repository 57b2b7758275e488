import HtmlStream.Value.Equality
import HtmlStream.Text.Quoted
import HtmlStream.Text.Blank
import HtmlStream.Decimal.Layout
import HtmlStream.Decimal.Numeral

/-!
How values are shown: the name of a value's type, its inspected form (what it looks like inside
another value or in a message) and its plain text (what it contributes to a page).
-/
namespace HtmlStream

namespace RoutineKind

def typeName : RoutineKind → String
  | .generator => "generator"
  | .asyncGenerator => "async_generator"
  | .coroutine => "coroutine"

end RoutineKind

namespace MarkerRole

def typeName : MarkerRole → String
  | .opening => "StartTag"
  | .closing => "EndTag"
  | .unspecified => "TagMarker"

end MarkerRole

namespace ProviderKind

def name : ProviderKind → String
  | .value => "value"
  | .sync => "sync"
  | .async => "async"

end ProviderKind

namespace Token

/-- A token whose name is missing or empty is shown without one. -/
def shownName? (token : Token) : Option String :=
  token.name.filter fun name => !name.isEmpty

def inspect (token : Token) : String :=
  match token.shownName? with
  | some name => "<Context " ++ Text.quoted name ++ ">"
  | none => "<Context at 0x0>"

/-- What a token is called where the chain of resolved tokens is shown. -/
def label (token : Token) : String :=
  token.shownName?.getD token.inspect

end Token

namespace Style

def previewLimit : Nat := 40

/-- The content without the blanks around it; what is longer than the limit is cut to fit with the
three dots at its end. -/
def preview (style : Style) : String :=
  let trimmed := Text.trimBlanks style.content.toList
  if previewLimit < trimmed.length then String.ofList (trimmed.take (previewLimit - 3)) ++ "..."
  else String.ofList trimmed

def inspect (style : Style) : String :=
  "Css(" ++ Text.quoted style.preview ++ ")"

end Style

namespace Value

def typeName : Value → String
  | .null => "NoneType"
  | .boolean _ => "bool"
  | .integer _ => "int"
  | .float _ | .notANumber _ => "float"
  | .text _ => "str"
  | .markup _ => "Markup"
  | .list _ => "list"
  | .tuple _ => "tuple"
  | .mapping _ => "dict"
  | .element .. => "Element"
  | .style _ => "Css"
  | .marker role .. => role.typeName
  | .fragment => "_FragmentType"
  | .token _ => "Context"
  | .provider .. => "Provider"
  | .settings _ => "RenderConfig"
  | .object .. => "Opaque"
  | .safe .. => "Safe"
  | .routine reference => reference.kind.typeName
  | .component reference => if reference.hashable then "function" else reference.name
  | .mappingType => "type"
  | .depthProbe => "function"

def ownName? : Value → Option String
  | .token handle => handle.name
  | .routine reference => some reference.name
  | .component reference => some reference.name
  | .mappingType => some "dict"
  | .depthProbe => some "DEPTH"
  | _ => none

/-- A short name for a message: the value's own name unless that is empty, else that of its type. -/
def describe (value : Value) : String :=
  (value.ownName?.filter fun name => !name.isEmpty).getD value.typeName

def inspectAtom : Value → String
  | .null => "None"
  | .boolean value => if value then "True" else "False"
  | .integer value => toString value
  | .float value => Decimal.floatText value
  | .notANumber _ => "nan"
  | .text content | .markup content => Text.quoted content
  | .style sheet => sheet.inspect
  | .fragment => "Fragment"
  | .token handle => handle.inspect
  | .settings record => record.inspect
  | .object _ name => "<opaque " ++ name ++ ">"
  | .safe _ content => "<safe " ++ content ++ ">"
  | .routine reference =>
      "<" ++ reference.kind.typeName ++ " object " ++ reference.name ++ " at 0x0>"
  | .component reference =>
      if reference.hashable then "<function " ++ reference.name ++ " at 0x0>" else "\x7b\x7d"
  | .mappingType => "<class 'dict'>"
  | .depthProbe => "<function DEPTH at 0x0>"
  | _ => ""

/-- What an element's type is called: the tag or the component. -/
def elementName : Value → String
  | .text name | .markup name => name
  | .component reference => if reference.hashable then reference.name else "\x7b\x7d"
  | .mappingType => "dict"
  | .depthProbe => "DEPTH"
  | other => inspectAtom other

def commaSeparated (pieces : List String) : String :=
  String.intercalate ", " pieces

mutual
def inspect : Value → String
  | .list items => "[" ++ commaSeparated (inspectItems items) ++ "]"
  | .tuple [item] => "(" ++ inspect item ++ ",)"
  | .tuple items => "(" ++ commaSeparated (inspectItems items) ++ ")"
  | .mapping entries => "\x7b" ++ commaSeparated (inspectEntries entries) ++ "\x7d"
  | .element _ type attributes children =>
      "<Element " ++ elementName type
        ++ " props=\x7b" ++ commaSeparated (inspectEntries attributes)
        ++ "\x7d children=" ++ toString children.length ++ ">"
  | .marker role type attributes children =>
      role.typeName ++ "(type=" ++ inspect type ++ ", props=" ++ inspect attributes
        ++ ", children=" ++ inspect children ++ ")"
  | .provider kind source =>
      "Provider(kind=<ProviderKind." ++ kind.name.toUpper ++ ": '" ++ kind.name
        ++ "'>, source=" ++ inspect source ++ ")"
  | other => inspectAtom other

def inspectItems : List Value → List String
  | [] => []
  | head :: tail => inspect head :: inspectItems tail

def inspectEntries : List (Value × Value) → List String
  | [] => []
  | (key, value) :: rest => (inspect key ++ ": " ++ inspect value) :: inspectEntries rest
end

/-! ## What can be written

An integer with too many digits cannot be written, and so nothing that shows it can. -/

mutual
def isWritable : Value → Bool
  | .integer value => Decimal.isShortInteger value
  | .list items | .tuple items => areWritable items
  | .mapping entries | .element _ _ entries _ => entriesAreWritable entries
  | .marker _ type attributes children =>
      isWritable type && isWritable attributes && isWritable children
  | .provider _ source => isWritable source
  | .settings record => Decimal.isShortInteger record.maxDepth && Decimal.isShortInteger record.bufferSize
  | _ => true

def areWritable : List Value → Bool
  | [] => true
  | head :: tail => isWritable head && areWritable tail

def entriesAreWritable : List (Value × Value) → Bool
  | [] => true
  | (key, value) :: rest => isWritable key && isWritable value && entriesAreWritable rest
end

/-- The plain text: texts stand for themselves, everything else is inspected. -/
def toText : Value → String
  | .text content | .markup content => content
  | other => other.inspect

end Value
end HtmlStream
