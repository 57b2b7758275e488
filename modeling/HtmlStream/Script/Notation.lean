import HtmlStream.Script.Document
import HtmlStream.Script.Statement

/-!
The notation of scripts: how documents are read as expressions and statements. An expression that
is no literal is a record of one field, which names an operator and holds its operands; a statement
is a record whose fields say what is done.
-/
namespace HtmlStream.Script

open Document (mismatch)

def contextFieldOf : String → Reading ContextField
  | "route_name" => .ok .routeName
  | "max_depth" => .ok .maxDepth
  | "styles_emitted" => .ok .stylesEmitted
  | "context_stack" => .ok .contextStack
  | _ => mismatch "context field"

def markerRoleOf : String → MarkerRole
  | "$start" => .opening
  | "$end" => .closing
  | _ => .unspecified

def settingOf : Document → Reading Setting
  | .null => .ok .null
  | .boolean value => .ok (.flag value)
  | .integer value => .ok (.number value)
  | .text content => .ok (.text content)
  | _ => mismatch "setting"

def settingNames : List String := ["autoescape", "encoding", "max_depth", "buffer_size"]

/-- What a caller asks for, by the names of the settings. -/
def settingsRequestOf (document : Document) : Reading SettingsRequest := do
  let standard : SettingsRequest := {}
  let setting (name : String) (default : Setting) : Reading Setting :=
    (document.field? name).elim (.ok default) settingOf
  let unknown := (← document.toFields).find? fun field => !settingNames.contains field.1
  return {
    autoescape := ← setting "autoescape" standard.autoescape
    encoding := ← setting "encoding" standard.encoding
    maxDepth := ← setting "max_depth" standard.maxDepth
    bufferSize := ← setting "buffer_size" standard.bufferSize
    unknownName := unknown.map Prod.fst }

def settingsAmong (document : Document) : Reading SettingsRequest := do
  settingsRequestOf (.record ((← document.toFields).filter fun field =>
    settingNames.contains field.1))

def optionalText (document : Document) : Reading (Option String) :=
  document.optional Document.toText

/-- A document that stands for itself; what is left out is null. -/
def literalOf : Document → Reading Value
  | .null => .ok .null
  | .boolean value => .ok (.boolean value)
  | .integer value => .ok (.integer value)
  | .text content => .ok (.text content)
  | _ => mismatch "literal"

/-! ## Expressions -/

mutual
def expressionOf (document : Document) : Reading Expression :=
  match document with
  | .null => .ok (.constant .null)
  | .boolean value => .ok (.constant (.boolean value))
  | .integer value => .ok (.constant (.integer value))
  | .text content => .ok (.constant (.text content))
  | .list items => do return .list (← expressionsOf items)
  | .record [(name, operand)] => operatorOf name operand
  | .record _ => mismatch "expression"
termination_by (sizeOf document, 0)

def expressionsOf (documents : List Document) : Reading (List Expression) :=
  match documents with
  | [] => .ok []
  | head :: tail => do return (← expressionOf head) :: (← expressionsOf tail)
termination_by (sizeOf documents, 0)

/-- Operators that hold one text or any one expression. -/
def operatorOf (name : String) (operand : Document) : Reading Expression :=
  match name with
  | "$v" => do return .named (← operand.toText)
  | "$f" => do return .floatNumeral (← operand.toNumeral)
  | "$i" => do return .integerNumeral (← operand.toNumeral)
  | "$m" => do return .constant (.markup (← operand.toText))
  | "$safe" => do return .safe (← operand.toText)
  | "$o" => do return .object (← operand.toText)
  | "$frag" => .ok (.constant .fragment)
  | "$dict" => .ok (.constant .mappingType)
  | "$token" => do return .newToken (← optionalText operand)
  | "$rc" => do return .contextField (← contextFieldOf (← operand.toText))
  | "$config" => do return .settings (← settingsRequestOf operand)
  | "$css" => do return .style (← templateOf operand)
  | "$html" => do return .markup (← templateOf operand)
  | "$range" => do return .range (← expressionOf operand)
  | "$provider" => do return .provider (← expressionOf operand)
  | _ =>
      match operand with
      | .list operands => listOperatorOf name operands
      | _ => mismatch "operator"
termination_by (sizeOf operand, 2)

/-- Operators that hold several operands. -/
def listOperatorOf (name : String) (operands : List Document) : Reading Expression :=
  match name, operands with
  | "$tuple", items => do return .tuple (← expressionsOf items)
  | "$cat", items => do return .joined (← expressionsOf items)
  | "$d", entries => do return .mapping (← entriesOf entries)
  | "$rep", [text, count] => do return .repeated (← text.toText) (← count.toInteger)
  | "$nest", [item, count] => do return .nested (← expressionOf item) (← count.toCount)
  | "$sub", [left, right] => do
      return .difference (← expressionOf left) (← expressionOf right)
  | "$eq", [left, right] => do return .equality (← expressionOf left) (← expressionOf right)
  | "$item", [container, key] => do
      return .item (← expressionOf container) (← expressionOf key)
  | "$map", [target, items, body] => do
      return .each (← target.toText) (← expressionOf items) (← expressionOf body)
  | "$call", [callee] => do return .call (← expressionOf callee) []
  | "$call", [callee, .record arguments] => do
      return .call (← expressionOf callee) (← argumentsOf arguments)
  | "$meta", [key] => do return .metadata (← key.toText) none
  | "$meta", [key, default] => do
      return .metadata (← key.toText) (some (← expressionOf default))
  | "$h", [type] => do return .element (← expressionOf type) none []
  | "$h", type :: attributes :: children => do
      return .element (← expressionOf type) (some (← expressionOf attributes))
        (← expressionsOf children)
  | other, operands => markerOf other operands
termination_by (sizeOf operands, 1)

/-- Markers of a tag: its type, then perhaps its attributes, then perhaps its children. -/
def markerOf (name : String) (operands : List Document) : Reading Expression :=
  if ["$start", "$end", "$tag"].contains name then
    let role := markerRoleOf name
    match operands with
    | [type] => do return .marker role (← expressionOf type) none none
    | [type, attributes] => do
        return .marker role (← expressionOf type) (some (← expressionOf attributes)) none
    | [type, attributes, children] => do
        return .marker role (← expressionOf type) (some (← expressionOf attributes))
          (some (← expressionOf children))
    | _ => mismatch "marker"
  else mismatch "operator"
termination_by (sizeOf operands, 0)

def entriesOf (documents : List Document) : Reading (List (Expression × Expression)) :=
  match documents with
  | [] => .ok []
  | .list [key, value] :: rest => do
      return (← expressionOf key, ← expressionOf value) :: (← entriesOf rest)
  | _ => mismatch "entry"
termination_by (sizeOf documents, 0)

def argumentsOf (fields : List (String × Document)) : Reading (List (String × Expression)) :=
  match fields with
  | [] => .ok []
  | (name, value) :: rest => do return (name, ← expressionOf value) :: (← argumentsOf rest)
termination_by (sizeOf fields, 0)

/-- A template holds its static strings and its interpolations; any other expression stands for
itself. -/
def templateOf (document : Document) : Reading TemplateExpression :=
  match document.field? "s", _found : document.field? "i" with
  | some strings, some (.list interpolations) => do
      return .template (← (← strings.toItems).mapM Document.toText)
        (← interpolationsOf interpolations)
  | some strings, _ => do
      return .template (← (← strings.toItems).mapM Document.toText) []
  | none, _ => do return .other (← expressionOf document)
termination_by (sizeOf document, 1)
decreasing_by
  · have := Document.sizeOf_lt_of_field? _found
    simp_all [Prod.lex_def]
    omega
  · simp [Prod.lex_def]

def interpolationsOf (documents : List Document) : Reading (List InterpolationExpression) :=
  match documents with
  | [] => .ok []
  | head :: tail => do return (← interpolationOf head) :: (← interpolationsOf tail)
termination_by (sizeOf documents, 0)

/-- An interpolation is an expression, or a record that also holds its conversion and its format
specification. -/
def interpolationOf (document : Document) : Reading InterpolationExpression :=
  match _found : document.field? "$x" with
  | some value => do
      return .mk (← expressionOf value) (← literalOf (document.field "conv"))
        (← literalOf (document.field "spec"))
  | none => do return .mk (← expressionOf document) .null .null
termination_by (sizeOf document, 1)
decreasing_by
  · have := Document.sizeOf_lt_of_field? _found
    simp_all [Prod.lex_def]
  · simp [Prod.lex_def]
end

/-- Two expressions, the second for the first. -/
def entryOf : Document → Reading (Expression × Expression)
  | .list [key, value] => do return (← expressionOf key, ← expressionOf value)
  | _ => mismatch "entry"

/-! ## Statements -/

/-- The kind and the message of a failure that is raised by name. -/
def failureOf (documents : List Document) : Reading (FailureKind × Option String) :=
  match documents with
  | .text name :: rest =>
      match FailureKind.ofName? name with
      | some kind => do return (kind, ← optionalText (rest.headD .null))
      | none => mismatch "kind of failure"
  | _ => mismatch "failure"

/-- The operation that a field of a statement names, if it names one. -/
def operationOf? (name : String) (operand : Document) : Option (Reading Operation) :=
  let unary (operation : Expression → Operation) : Option (Reading Operation) :=
    some ((expressionOf operand).map operation)
  match name, operand with
  | "yield", _ => unary .yield
  | "from", _ => unary .delegate
  | "get", _ => unary .request
  | "log", _ => unary .log
  | "await", _ => unary .await
  | "foreign", _ => unary .awaitForeign
  | "sleep", _ => some (.ok .sleep)
  | "block", _ => some (.ok .waitForever)
  | "set_context", entry => some ((entryOf entry).map fun (token, provider) =>
      .register token provider)
  | "set_meta", .list [.text key, value] => some ((expressionOf value).map (.writeMeta key))
  | _, _ => none

def operationIn? : List (String × Document) → Option (Reading Operation)
  | [] => none
  | (name, operand) :: rest =>
      match operationOf? name operand with
      | some operation => some operation
      | none => operationIn? rest

/-- A statement that holds no other statements. -/
def plainStatementOf (document : Document) : Reading Statement := do
  match operationIn? (← document.toFields) with
  | some operation => return .operation (← operation) (← optionalText (document.field "as"))
  | none =>
      match document.field? "let", document.field? "return", document.field? "raise" with
      | some (.list [.text target, value]), _, _ => return .assign target (← expressionOf value)
      | _, some result, _ => return .give (← expressionOf result)
      | _, _, some failure => do
          let (kind, message) ← failureOf (← failure.toItems)
          return .fail kind message
      | _, _, _ => mismatch "statement"

mutual
def statementOf (document : Document) : Reading Statement :=
  match document.field? "if", document.field? "for" with
  | some condition, _ => do
      return .branch (← expressionOf condition) (← statementsIn document "then")
        (← statementsIn document "else")
  | _, some (.list [.text target, items]) => do
      return .loop target (← expressionOf items) (← statementsIn document "do")
  | _, _ =>
      if document.hasField "try" then do
        return .guarded (← statementsIn document "try") (← handlersIn document "except")
          (← statementsIn document "finally")
      else if document.hasField "task" then do
        return .task (← statementsIn document "task") (← optionalText (document.field "as"))
      else plainStatementOf document
termination_by (sizeOf document, 1)

/-- The statements of a field; none if there is no such field. -/
def statementsIn (document : Document) (name : String) : Reading (List Statement) :=
  match _found : document.field? name with
  | some (.list documents) => statementsOf documents
  | some .null | none => .ok []
  | some _ => mismatch "statements"
termination_by (sizeOf document, 0)
decreasing_by
  have := Document.sizeOf_lt_of_field? _found
  simp_all [Prod.lex_def]
  omega

def statementsOf (documents : List Document) : Reading (List Statement) :=
  match documents with
  | [] => .ok []
  | head :: tail => do return (← statementOf head) :: (← statementsOf tail)
termination_by (sizeOf documents, 0)

def handlersIn (document : Document) (name : String) :
    Reading (List (String × List Statement)) :=
  match _found : document.field? name with
  | some (.list documents) => handlersOf documents
  | some .null | none => .ok []
  | some _ => mismatch "handlers"
termination_by (sizeOf document, 0)
decreasing_by
  have := Document.sizeOf_lt_of_field? _found
  simp_all [Prod.lex_def]
  omega

def handlersOf (documents : List Document) : Reading (List (String × List Statement)) :=
  match documents with
  | [] => .ok []
  | .list [.text name, .list body] :: rest => do
      return (name, ← statementsOf body) :: (← handlersOf rest)
  | _ => mismatch "handler"
termination_by (sizeOf documents, 0)
end

end HtmlStream.Script
