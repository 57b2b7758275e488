import HtmlStream.Routine.Resume
import HtmlStream.Script.Notation

/-!
Declarations: components and global names as a script states them. Defaults of parameters are
evaluated once, when the component is declared.
-/
namespace HtmlStream.Script

structure ParameterDeclaration where
  name : String
  default : Option Expression

/-- What a component does: it gives the value of an expression, or runs statements. -/
inductive DeclaredBody where
  | expression (expression : Expression)
  | statements (kind : RoutineKind) (statements : List Statement)

namespace DeclaredBody

def kind? : DeclaredBody → Option RoutineKind
  | .expression .. => none
  | .statements kind .. => some kind

def bind : DeclaredBody → Bindings → Routine
  | .expression result => bodyOfExpression result
  | .statements kind body => bodyOfStatements kind body

end DeclaredBody

structure Declaration where
  name : String
  hashable : Bool
  positionalOnly : List ParameterDeclaration
  positional : List ParameterDeclaration
  keywordOnly : List ParameterDeclaration
  rest : Option String
  body : DeclaredBody

/-! ## Notation -/

def routineKindOf : String → Reading RoutineKind
  | "gen" => .ok .generator
  | "agen" => .ok .asyncGenerator
  | "async" => .ok .coroutine
  | _ => Document.mismatch "kind of component"

/-- A parameter is its name, or a list of its name and its default. -/
def parameterOf : Document → Reading ParameterDeclaration
  | .text name => .ok ⟨name, none⟩
  | .list [.text name] => .ok ⟨name, none⟩
  | .list [.text name, default] => do return ⟨name, some (← expressionOf default)⟩
  | _ => Document.mismatch "parameter"

def parametersIn (document : Document) (name : String) : Reading (List ParameterDeclaration) := do
  (← (document.field name).toItems).mapM parameterOf

def declaredBodyOf (document : Document) : Reading DeclaredBody := do
  match ← (document.field "kind").toText with
  | "func" => return .expression (← expressionOf (document.field "body"))
  | kind => return .statements (← routineKindOf kind) (← statementsIn document "body")

def declarationOf (name : String) (document : Document) : Reading Declaration := do
  return {
    name
    hashable := !(← (document.field "unhashable").orDefault Document.toFlag false)
    positionalOnly := ← parametersIn document "posonly"
    positional := ← parametersIn document "params"
    keywordOnly := ← parametersIn document "kwonly"
    rest := ← optionalText (document.field "kwargs")
    body := ← declaredBodyOf document }

/-! ## Programs -/

/-- The components that were declared, and the session in which everything happens. -/
structure Program where
  library : Library
  session : Session

namespace Program

def empty : Program := ⟨[], .empty⟩

def evaluate (expression : Expression) (program : Program) : Reply × Program :=
  let (reply, session) :=
    program.session.perform program.library (expression.evaluate []).toRoutine
  (reply, { program with session })

def makeParameters :
    List ParameterDeclaration → Program → Except Failure (List Parameter) × Program
  | [], program => (.ok [], program)
  | ⟨name, none⟩ :: rest, program =>
      let (parameters, program) := makeParameters rest program
      (parameters.map (⟨name, none⟩ :: ·), program)
  | ⟨name, some default⟩ :: rest, program =>
      match program.evaluate default with
      | (.error failure, program) => (.error failure, program)
      | (.ok value, program) =>
          let (parameters, program) := makeParameters rest program
          (parameters.map (⟨name, some value⟩ :: ·), program)

def define (name : String) (value : Value) (program : Program) : Program :=
  { program with session := program.session.define name value }

def declare (declaration : Declaration) (program : Program) : Except Failure Unit × Program :=
  let (positionalOnly, program) := makeParameters declaration.positionalOnly program
  let (positional, program) := makeParameters declaration.positional program
  let (keywordOnly, program) := makeParameters declaration.keywordOnly program
  match positionalOnly, positional, keywordOnly with
  | .ok positionalOnly, .ok positional, .ok keywordOnly =>
      let reference : ComponentReference :=
        ⟨declaration.name, declaration.body.kind?, declaration.hashable⟩
      let component : Component :=
        ⟨reference, ⟨positionalOnly, positional, keywordOnly, declaration.rest⟩,
          declaration.body.bind⟩
      (.ok (), define declaration.name (.component reference)
        { program with library := component :: program.library })
  | .error failure, _, _ | _, .error failure, _ | _, _, .error failure =>
      (.error failure, program)

end Program
end HtmlStream.Script
