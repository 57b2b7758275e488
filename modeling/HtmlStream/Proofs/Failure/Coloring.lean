import HtmlStream.Proofs.Text.Coloring
import HtmlStream.Proofs.Text.Lines
import Mathlib.Tactic.SplitIfs

/-!
Colours in the messages of the engine's errors. Every message is colored word by word, so the colored
message is the plain one with escape sequences in it, and both show the error's code or both do not.
The main statement is `stripColors_messages`.
-/
namespace HtmlStream

open List (Forall₂)

/-! ## Pieces of messages -/

theorem isUnescaped_quoted {text : String} (free : IsUnescaped text) :
    IsUnescaped (Text.quoted text) := by
  have quote : escapeCharacter ≠ Text.quoteFor text.toList := by
    unfold Text.quoteFor
    split <;> decide
  have digits : ∀ count code, escapeCharacter ∉ Text.hexadecimalDigits count code := by
    intro count code member
    rcases List.mem_append.mp member with padding | written
    · exact absurd (List.eq_of_mem_replicate padding) (by decide)
    · exact escapeCharacter_not_mem_toDigits (by decide) code written
  have numeric : ∀ character, escapeCharacter ∉ Text.numericEscape character := by
    intro character
    have marks : escapeCharacter ≠ '\\' ∧ escapeCharacter ≠ 'x' ∧ escapeCharacter ≠ 'u' ∧
        escapeCharacter ≠ 'U' := by decide
    unfold Text.numericEscape
    extract_lets code
    split_ifs <;> simp [digits, marks]
  have each : ∀ character ∈ text.toList,
      escapeCharacter ∉ Text.quotedCharacter Text.isPrintable (Text.quoteFor text.toList)
        character := by
    intro character member
    have own : escapeCharacter ≠ character := fun equal => free (equal ▸ member)
    have marks : escapeCharacter ≠ '\\' ∧ escapeCharacter ≠ 'n' ∧ escapeCharacter ≠ 'r' ∧
        escapeCharacter ≠ 't' := by decide
    unfold Text.quotedCharacter
    split_ifs <;> simp [own, marks, numeric]
  simp only [IsUnescaped, Text.quoted, String.toList_ofList, List.cons_append, List.mem_cons,
    List.mem_append, List.mem_flatMap, List.not_mem_nil, or_false, quote, false_or]
  rintro ⟨character, member, inside⟩
  exact each character member inside

theorem isUnescaped_of_mem_lines {source content : String} (free : IsUnescaped source)
    (member : content ∈ Text.lines source) : IsUnescaped content := by
  obtain ⟨found, line, rfl⟩ := List.mem_map.mp member
  intro escape
  rw [String.toList_ofList] at escape
  exact (Text.mem_or_mem_of_mem_linesFrom line escape).elim nofun free

theorem isUnescaped_lineNumber (number : Int) : IsUnescaped (Palette.lineNumber number) := by
  have padding : ∀ count, IsUnescaped (String.ofList (List.replicate count ' ')) := by
    intro count member
    rw [String.toList_ofList] at member
    exact absurd (List.eq_of_mem_replicate member) (by decide)
  exact isUnescaped_append.mpr ⟨padding _, isUnescaped_toString number⟩

namespace EngineError

variable (palette : Palette)

/-- The names, texts and labels that the message of an error is made of. -/
def parts : EngineError → List String
  | .stated message => [message]
  | .templateSyntax text source _ _ => text :: source.toList
  | .missingContext context stack => (contextName? context).toList ++ stack
  | .contextCycle context stack => stack ++ [context.describe]
  | .invalidComponent component result => [component.describe, result.typeName]
  | .runtime cause stack => cause.text :: (cause.suggestion.toList ++ stack)
  | .depthExceeded _ _ stack => stack

/-! ## Whole messages -/

theorem tinted_contextStackText {stack : List String} (free : ∀ label ∈ stack, IsUnescaped label) :
    Tinted palette (contextStackText palette stack) (contextStackText .plain stack) := by
  have heading : IsUnescaped "Context stack:" := by decide
  have bullet : Tinted palette "  •" "  •" := .bare (by decide)
  unfold contextStackText
  split
  · exact .bare (by decide)
  · refine .stackedLines (.cons (.styled [.dim] heading) ?_)
    rw [List.forall₂_map_left_iff, List.forall₂_map_right_iff, List.forall₂_same]
    exact fun label member => .joined (.inl rfl) bullet (.styled [.cyan] (free label member))

theorem tinted_sourceLine (number : Int) {content : String} (free : IsUnescaped content) :
    Tinted palette (palette.sourceLine number content true)
      (Palette.plain.sourceLine number content true) := by
  have mark : IsUnescaped ">" := by decide
  have bar : Tinted palette "|" "|" := .bare (by decide)
  have gutter : IsUnescaped (">" ++ Palette.lineNumber number) :=
    isUnescaped_append.mpr ⟨mark, isUnescaped_lineNumber number⟩
  have code : Tinted palette (palette.colorize [.brightRed] content) content :=
    .styled [.brightRed] free
  have line := Tinted.joined (.inl rfl) (.joined (.inl rfl) (.styled [.yellow] gutter) bar) code
  have bars : " | " = " " ++ "|" ++ " " := rfl
  simp only [Palette.sourceLine, reduceIte, bars, ← String.append_assoc]
  exact line

theorem isUnescaped_blanks (count : Int) : IsUnescaped (blanks count) := by
  intro member
  rw [blanks, String.toList_ofList] at member
  exact absurd (List.eq_of_mem_replicate member) (by decide)

theorem tinted_sourceSnippet {source : Option String} (free : ∀ text ∈ source, IsUnescaped text)
    (line column : Option Int) :
    Forall₂ (Tinted palette) (sourceSnippet palette source line column)
      (sourceSnippet .plain source line column) := by
  have margin : IsUnescaped "   |" := by decide
  have mark : IsUnescaped "^" := by decide
  have caret : ∀ column : Int, Tinted palette (palette.dimmed "   |" ++ " " ++ blanks (column + 1) ++ "^")
      ("   |" ++ " " ++ blanks (column + 1) ++ "^") := by
    intro column
    have pointer : IsUnescaped (blanks (column + 1) ++ "^") :=
      isUnescaped_append.mpr ⟨isUnescaped_blanks _, mark⟩
    have dimmed : Tinted palette (palette.dimmed "   |") "   |" := .styled [.dim] margin
    have pointed := Tinted.joined (.inl rfl) dimmed (.bare pointer)
    rw [← String.append_assoc, ← String.append_assoc] at pointed
    exact pointed
  unfold sourceSnippet
  split
  · next source line =>
      split
      · exact .nil
      · split
        · exact .nil
        · next content found =>
            have member : content ∈ Text.lines source := List.mem_of_getElem? found
            have inside := isUnescaped_of_mem_lines (free source rfl) member
            refine .cons (.styled [.dim] margin) (.cons (tinted_sourceLine palette line inside) ?_)
            cases column with
            | none => exact .nil
            | some column => exact .cons (caret column) .nil
  · exact .nil

theorem tinted_runtimeMessage {text : String} {stack : List String} {suggestion : Option String}
    (textFree : IsUnescaped text) (stackFree : ∀ label ∈ stack, IsUnescaped label)
    (suggestionFree : ∀ text ∈ suggestion, IsUnescaped text) :
    Tinted palette (runtimeMessage palette text stack suggestion)
      (runtimeMessage .plain text stack suggestion) := by
  have heading : IsUnescaped "Runtime Error: " := by decide
  have indent : Tinted palette " " " " := .bare (by decide)
  have title : IsUnescaped "Suggestion:" := by decide
  refine .stackedLines (.cons (.bare (isUnescaped_append.mpr ⟨heading, textFree⟩)) ?_)
  apply List.rel_append
  · split
    · exact .nil
    · exact .cons (tinted_contextStackText palette stackFree) .nil
  · cases shown : suggestion.filter (· ≠ "") with
    | none => exact .nil
    | some advice =>
        have given := suggestionFree advice (Option.mem_def.mpr (Option.filter_eq_some_iff.mp shown).1)
        exact .cons (.joined (.inl rfl) (.joined (.inl rfl) indent (.styled [.green] title))
          (.bare given)) .nil

theorem tinted_missingContextMessage {context : Value} {stack : List String}
    (nameFree : ∀ name ∈ contextName? context, IsUnescaped name)
    (stackFree : ∀ label ∈ stack, IsUnescaped label) :
    Tinted palette (missingContextMessage palette context stack)
      (missingContextMessage .plain context stack) := by
  have literals : IsUnescaped "Context " ∧ IsUnescaped " not provided" ∧
      IsUnescaped "Context not provided" ∧ IsUnescaped "Hint:" ∧ IsUnescaped "context" ∧
      IsUnescaped "Register a provider with route.set_context(" ∧ IsUnescaped ", ...)" := by
    decide
  obtain ⟨word, missing, unnamed, title, other, advice, ending⟩ := literals
  have indent : Tinted palette " " " " := .bare (by decide)
  have hint : ∀ name, IsUnescaped name → Tinted palette
      ("  " ++ palette.hint "Hint:" ++ " Register a provider with route.set_context(" ++ name
        ++ ", ...)")
      ("  " ++ Palette.plain.hint "Hint:" ++ " Register a provider with route.set_context(" ++ name
        ++ ", ...)") := by
    intro name free
    have shown : IsUnescaped ("Register a provider with route.set_context(" ++ name ++ ", ...)") := by
      simp [advice, free, ending]
    have words : ∀ shownTitle, "  " ++ shownTitle ++ " Register a provider with route.set_context("
          ++ name ++ ", ...)"
        = " " ++ " " ++ shownTitle ++ " "
          ++ ("Register a provider with route.set_context(" ++ name ++ ", ...)") := by
      intro shownTitle
      simp [← String.toList_inj]
    rw [words, words]
    exact .joined (.inl rfl) (.joined (.inl rfl) indent (.styled [.green] title)) (.bare shown)
  unfold missingContextMessage
  extract_lets name?
  refine .stackedLines (.cons (.bare ?_) (List.rel_append ?_ (.cons (hint _ ?_) .nil)))
  · cases named : name? with
    | none => exact unnamed
    | some name => simp [word, missing, isUnescaped_quoted (nameFree name named)]
  · split
    · exact .cons (tinted_contextStackText palette stackFree) .nil
    · exact .nil
  · cases named : name? with
    | none => exact other
    | some name => exact nameFree name named

theorem isUnescaped_syntaxLocation (line column : Option Int) :
    IsUnescaped (syntaxLocation line column) := by
  have page : IsUnescaped "<html>" := by decide
  have start : IsUnescaped "<html>:" := by decide
  have colon : IsUnescaped ":" := by decide
  have empty : IsUnescaped "" := by decide
  unfold syntaxLocation
  split
  · exact page
  · cases column <;> simp only [isUnescaped_append, isUnescaped_toString, start, colon, empty, and_self]

/-- An error that is made of texts without escape characters is colored word by word. -/
theorem tinted_message (error : EngineError) (free : ∀ part ∈ error.parts, IsUnescaped part) :
    Tinted palette (error.message palette) (error.message .plain) := by
  cases error with
  | stated message => exact .bare (free message List.mem_cons_self)
  | templateSyntax text source line column =>
      simp only [parts, List.forall_mem_cons, Option.mem_toList] at free
      have heading : IsUnescaped "Syntax Error: " := by decide
      have arrow : IsUnescaped "  --> " := by decide
      have place := isUnescaped_syntaxLocation line column
      exact .stackedLines (.cons (.bare (isUnescaped_append.mpr ⟨heading, free.1⟩))
        (.cons (.bare (isUnescaped_append.mpr ⟨arrow, place⟩))
          (tinted_sourceSnippet palette free.2 line column)))
  | missingContext context stack =>
      simp only [parts, List.forall_mem_append, Option.mem_toList] at free
      exact tinted_missingContextMessage palette free.1 free.2
  | contextCycle context stack =>
      have heading : IsUnescaped "Circular context dependency: " := by decide
      have arrow : IsUnescaped " → " := by decide
      exact .bare (isUnescaped_append.mpr ⟨heading, isUnescaped_intercalate arrow free⟩)
  | invalidComponent component result =>
      simp only [parts, List.forall_mem_cons, List.not_mem_nil, false_implies, implies_true,
        and_true] at free
      have heading : IsUnescaped "Components must be generator functions: " := by decide
      have returned : IsUnescaped " returned " := by decide
      have name := isUnescaped_quoted free.1
      refine .bare (isUnescaped_append.mpr ⟨isUnescaped_append.mpr ⟨heading, name⟩, ?_⟩)
      split
      · decide
      · exact isUnescaped_append.mpr ⟨returned, free.2⟩
  | runtime cause stack =>
      simp only [parts, List.forall_mem_cons, List.forall_mem_append, Option.mem_toList] at free
      exact tinted_runtimeMessage palette free.1 free.2.2 free.2.1
  | depthExceeded limit code stack =>
      have start : IsUnescaped "Maximum render depth exceeded (" := by decide
      have ending : IsUnescaped ")" := by decide
      have advice : IsUnescaped "Check for components that render themselves unconditionally" := by
        decide
      have text : IsUnescaped ("Maximum render depth exceeded (" ++ toString limit ++ ")") :=
        isUnescaped_append.mpr ⟨isUnescaped_append.mpr ⟨start, isUnescaped_toString limit⟩, ending⟩
      have suggestion : ∀ text ∈ some "Check for components that render themselves unconditionally",
          IsUnescaped text := by
        rintro _ ⟨⟩
        exact advice
      exact tinted_runtimeMessage palette text free suggestion

/-- The header only has its code colored. -/
theorem stripsTo_errorHeader (code : ErrorCode) {colored plain : String}
    (strips : StripsTo colored plain) :
    StripsTo (palette.errorHeader (some code.text) colored)
      (Palette.plain.errorHeader (some code.text) plain) := by
  have free : IsUnescaped code.text := code.isWord_text.escape
  have colon : StripsTo ": " ": " := .of_isUnescaped (by decide)
  have named : (some code.text).filter (· != "") = some code.text := by cases code <;> decide
  unfold Palette.errorHeader
  rw [named]
  exact ((StripsTo.colorize palette [.brightRed, .bold] free).append colon).append strips

/-- Taking the escape sequences out of the colored message of an error leaves the plain one, and
likewise for the message behind the error's code. -/
theorem stripColors_messages (error : EngineError) (free : ∀ part ∈ error.parts, IsUnescaped part) :
    stripColors (error.message .colored) = error.message .plain ∧
      stripColors (error.compactMessage .colored) = error.compactMessage .plain := by
  have tinted := tinted_message .colored error free
  refine ⟨tinted.stripsTo.stripColors_eq, StripsTo.stripColors_eq ?_⟩
  unfold compactMessage
  extract_lets colored plain
  cases error.code? with
  | none => exact tinted.stripsTo
  | some code =>
      have shown : occursIn code.text.toList colored.toList = occursIn code.text.toList plain.toList :=
        tinted.occursIn_eq code.isWord_text
      dsimp only
      rw [shown]
      split
      · exact tinted.stripsTo
      · exact stripsTo_errorHeader .colored code tinted.stripsTo

/-- Two contexts are being resolved, and the message looks as if a sequence were in it. -/
theorem stripColors_messages_stacked :
    let error : EngineError := .runtime (.stated none "[0mW-RUN" (some "Look at font")) ["theme", "font"]
    (∀ part ∈ error.parts, IsUnescaped part) ∧
      error.message .colored ≠ error.message .plain ∧
      stripColors (error.compactMessage .colored)
        = "W-RUN-001: Runtime Error: [0mW-RUN\nContext stack:\n  • theme\n  • font\n"
          ++ "  Suggestion: Look at font" := by
  intro error
  have free : ∀ part ∈ error.parts, IsUnescaped part := by decide
  have plain : error.compactMessage .plain
      = "W-RUN-001: Runtime Error: [0mW-RUN\nContext stack:\n  • theme\n  • font\n"
        ++ "  Suggestion: Look at font" := by decide
  exact ⟨free, by decide, (stripColors_messages error free).2.trans plain⟩

end EngineError

end HtmlStream
