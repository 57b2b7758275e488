import HtmlStream.Failure.Basic
import HtmlStream.Terminal
import HtmlStream.Text.Lines

/-!
The wording of failures. A palette only adds escape sequences to the text.
-/
namespace HtmlStream

def stackedLines (parts : List String) : String :=
  String.intercalate "\n" parts

/-- The tokens that were being resolved, one a line below a heading; nothing if there were none. -/
def contextStackText (palette : Palette) (stack : List String) : String :=
  if stack.isEmpty then ""
  else stackedLines (palette.dimmed "Context stack:"
    :: stack.map fun label => "  • " ++ palette.location label)

namespace EngineError

/-- Where a syntax error lies: the line counts if there is one, the column only after it. -/
def syntaxLocation (line column : Option Int) : String :=
  match line.filter (· ≠ 0) with
  | none => "<html>"
  | some line =>
      "<html>:" ++ toString line ++ (match column with
        | some column => ":" ++ toString column
        | none => "")

def blanks (count : Int) : String :=
  String.ofList (List.replicate count.toNat ' ')

/-- The offending line with a caret below the column, if the source has that line. -/
def sourceSnippet (palette : Palette) (source : Option String) (line column : Option Int) :
    List String :=
  match source, line with
  | some source, some line =>
      if line ≤ 0 then []
      else match (Text.lines source)[line.toNat - 1]? with
        | none => []
        | some content =>
            let gutter := palette.dimmed "   |"
            let caret := match column with
              | some column => [gutter ++ " " ++ blanks (column + 1) ++ "^"]
              | none => []
            gutter :: palette.sourceLine line content true :: caret
  | _, _ => []

def runtimeMessage (palette : Palette) (text : String) (stack : List String)
    (suggestion : Option String) : String :=
  stackedLines (("Runtime Error: " ++ text)
    :: (if stack.isEmpty then [] else [contextStackText palette stack])
    ++ (match suggestion.filter (· ≠ "") with
      | some suggestion => ["  " ++ palette.hint "Suggestion:" ++ " " ++ suggestion]
      | none => []))

/-- The name of the token that is not provided, if the missing context is a named token. -/
def contextName? : Value → Option String
  | .token token => token.shownName?
  | _ => none

def missingContextMessage (palette : Palette) (context : Value) (stack : List String) : String :=
  let name? := contextName? context
  stackedLines ((match name? with
      | some name => "Context " ++ Text.quoted name ++ " not provided"
      | none => "Context not provided")
    :: (if 1 < stack.length then [contextStackText palette stack] else [])
    ++ ["  " ++ palette.hint "Hint:" ++ " Register a provider with route.set_context("
        ++ name?.getD "context" ++ ", ...)"])

def message (palette : Palette) : EngineError → String
  | .stated message => message
  | .templateSyntax text source line column =>
      stackedLines (("Syntax Error: " ++ text)
        :: ("  --> " ++ syntaxLocation line column)
        :: sourceSnippet palette source line column)
  | .missingContext context stack => missingContextMessage palette context stack
  | .contextCycle context stack =>
      "Circular context dependency: " ++ String.intercalate " → " (stack ++ [context.describe])
  | .invalidComponent component result =>
      "Components must be generator functions: " ++ Text.quoted component.describe
        ++ (match result with
          | .null => ""
          | other => " returned " ++ other.typeName)
  | .runtime cause stack => runtimeMessage palette cause.text stack cause.suggestion
  | .depthExceeded limit code stack =>
      let error := EngineError.depthExceeded limit code stack
      runtimeMessage palette (error.text?.getD "") stack (error.suggestion?.getD none)

/-- Whether `part` occurs in `text`. -/
def occursIn (part text : List Char) : Bool :=
  match text with
  | [] => part.isEmpty
  | _ :: rest => part.isPrefixOf text || occursIn part rest

/-- The message behind the error's code, unless the message shows the code already. -/
def compactMessage (palette : Palette) (error : EngineError) : String :=
  let message := error.message palette
  match error.code? with
  | some code =>
      if occursIn code.text.toList message.toList then message
      else palette.errorHeader (some code.text) message
  | none => message

end EngineError

namespace Failure

def message (palette : Palette) : Failure → String
  | .exit => ""
  | .raised kind message =>
      match kind, message with
      | _, none => ""
      | .key, some message => Text.quoted message
      | _, some message => message
  | .fault cause => cause.message
  | .engine cause => cause.message palette

/-- How a handler sees a failure: the name of its kind and its message. -/
def toValue (failure : Failure) : Value :=
  .list [.text failure.kind.name, .text (failure.message .plain)]

end Failure
end HtmlStream
