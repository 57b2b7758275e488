import HtmlStream.Failure.Message
import HtmlStream.Proofs.Template.Location
import HtmlStream.Proofs.Text.Lines

/-!
What the message of a syntax error shows of the source: a line, and a caret in the line below it.
The line is looked up among the lines by all boundaries and numbered by line feeds, and the caret is
placed as if every line number took two places. The main statements are `message_of_rejected` and
`caret_column`.
-/
namespace HtmlStream

namespace EngineError

/-- The line of a source that has a number, counted from one. -/
def shownLine? (source : String) (line : Nat) : Option String :=
  (Text.lines source)[line - 1]?

/-- What stands before a line of the source in a message. -/
def lineGutter (line : Nat) : String :=
  ">" ++ Palette.lineNumber line ++ " | "

/-- What stands before the caret in a message. -/
def caretGutter (column : Nat) : String :=
  "   | " ++ blanks (column + 1)

/-- The lines of a message below its heading. -/
def snippet (line column : Nat) : Option String → List String
  | none => []
  | some content => ["   |", lineGutter line ++ content, caretGutter column ++ "^"]

theorem sourceSnippet_plain (source : String) {line : Nat} (positive : 0 < line) (column : Nat) :
    sourceSnippet .plain (some source) (some line) (some column)
      = snippet line column (shownLine? source line) := by
  have above : ¬ (line : Int) ≤ 0 := by omega
  simp only [sourceSnippet, if_neg above, Int.toNat_natCast, shownLine?]
  cases (Text.lines source)[line - 1]? with
  | none => rfl
  | some content =>
      simp [snippet, lineGutter, caretGutter, Palette.sourceLine, Palette.colorize, Palette.dimmed]

theorem message_templateSyntax (text source : String) {line : Nat} (positive : 0 < line)
    (column : Nat) :
    (templateSyntax text (some source) (some line) (some column)).message .plain
      = stackedLines (("Syntax Error: " ++ text)
        :: ("  --> " ++ syntaxLocation (some line) (some column))
        :: snippet line column (shownLine? source line)) := by
  rw [← sourceSnippet_plain source positive column]
  rfl

/-! ## The line -/

/-- The line of a source that the message of an error in it shows, if the error is in the line
`failing`. Nothing is shown of a last line that is empty. -/
structure ShowsLine (source : List Char) (line : Nat) (failing : List Char)
    (shown : Option String) : Prop where
  whole : Text.linesAgree source (line - 1) = true →
    (∀ character ∈ failing, Text.isLineBoundary character = false) →
    shown = if failing = [] ∧ line = (source.splitOn '\n').length then none
      else some (String.ofList failing)
  broken : Text.linesAgree source (line - 1) = true →
    shown = if failing = [] ∧ line = (source.splitOn '\n').length then none
      else some (String.ofList (failing.takeWhile fun character => !Text.isLineBoundary character))
  earlier : Text.linesAgree source (line - 1) = false →
    ∃ content, shown = some (String.ofList content) ∧
      (Text.linesFrom [] (Text.firstLines source (line - 1)))[line - 1]? = some content

theorem showsLine_shownLine? {source : String} {line : Nat} (counted : 1 ≤ line)
    {failing : List Char} (found : (source.toList.splitOn '\n')[line - 1]? = some failing) :
    ShowsLine source.toList line failing (shownLine? source line) := by
  have shown : shownLine? source line
      = (Text.linesFrom [] source.toList)[line - 1]?.map String.ofList := List.getElem?_map
  have broken : Text.linesAgree source.toList (line - 1) = true →
      shownLine? source line
        = if failing = [] ∧ line = (source.toList.splitOn '\n').length then none
          else some (String.ofList
            (failing.takeWhile fun character => !Text.isLineBoundary character)) := by
    intro agree
    rw [shown, Text.linesFrom_getElem?_of_agree found agree, Nat.sub_add_cancel counted]
    split_ifs <;> rfl
  constructor
  case broken => exact broken
  case whole =>
    intro agree unbroken
    have all : failing.takeWhile (fun character => !Text.isLineBoundary character) = failing :=
      List.takeWhile_eq_self_iff.mpr fun character member => by simp [unbroken character member]
    rw [broken agree, all]
  case earlier =>
    intro differ
    obtain ⟨content, here, before⟩ := Text.exists_linesFrom_getElem? found differ
    exact ⟨content, by rw [shown, here]; rfl, before⟩

/-- The message of a refused template tells what is wrong and where, and shows a line of the source
that is found by that place. -/
theorem message_of_rejected {template : Template} {text : String} {source : Option String}
    {line column : Option Int} {start : Nat}
    (rejected : (Template.readMarkup (.template template) >>= fun markup => markup.toElement start)
      = .error (.engine (.templateSyntax text source line column))) :
    ∃ lineNumber columnNumber : Nat, ∃ failing shown,
      line = some lineNumber ∧ column = some columnNumber ∧
      ((Template.placeholderSource template.strings).toList.splitOn '\n')[lineNumber - 1]?
        = some failing ∧ columnNumber ≤ failing.length ∧
      (templateSyntax text source line column).message .plain
        = stackedLines (("Syntax Error: " ++ text) :: ("  --> " ++ syntaxLocation line column)
          :: snippet lineNumber columnNumber shown) ∧
      ShowsLine (Template.placeholderSource template.strings).toList lineNumber failing shown := by
  obtain ⟨_, _, _, _, lineNumber, columnNumber, -, rfl, rfl, rfl, place⟩ :=
    Template.exists_place_of_rejected rejected
  obtain ⟨failing, found, within⟩ := place.within
  exact ⟨lineNumber, columnNumber, failing, _, rfl, rfl, found, within,
    message_templateSyntax text _ place.counted columnNumber,
    showsLine_shownLine? place.counted found⟩

/-- The error is at the end of the second line. -/
theorem message_of_rejected_secondLine :
    let template : Template := ⟨["<p>\n<b"], []⟩
    (Template.readMarkup (.template template) >>= fun markup => markup.toElement 0)
        = .error (.engine (.templateSyntax "Unterminated tag" (some "<p>\n<b") (some 2) (some 2))) ∧
      (templateSyntax "Unterminated tag" (some "<p>\n<b") (some 2) (some 2)).message .plain
        = stackedLines ["Syntax Error: Unterminated tag", "  --> <html>:2:2", "   |",
          ">  2 | <b", "   |    ^"] := by
  intro template
  have refused : Template.readStrings template.strings = .error ⟨.unterminatedTag, 6⟩ := rfl
  have error : Template.SyntaxFault.toError ⟨.unterminatedTag, 6⟩ ["<p>\n<b"]
      = .templateSyntax "Unterminated tag" (some "<p>\n<b") (some 2) (some 2) := by
    with_unfolding_all rfl
  have rejected : (Template.readMarkup (.template template) >>= fun markup => markup.toElement 0)
      = .error (.engine (Template.SyntaxFault.toError ⟨.unterminatedTag, 6⟩ ["<p>\n<b"])) :=
    Template.rejected_of_fault rfl refused 0
  rw [error] at rejected
  obtain ⟨line, column, failing, shown, lineIs, columnIs, found, -, message, shows⟩ :=
    message_of_rejected rejected
  obtain rfl : 2 = line := Int.ofNat.inj (Option.some.inj lineIs)
  obtain rfl : 2 = column := Int.ofNat.inj (Option.some.inj columnIs)
  have second : ("<p>\n<b".toList.splitOn '\n')[2 - 1]? = some ['<', 'b'] := by decide
  obtain rfl : ['<', 'b'] = failing := Option.some.inj (second.symm.trans found)
  have whole : shown = some "<b" := shows.whole (by decide) (by simp [Text.isLineBoundary])
  subst whole
  exact ⟨rejected, message⟩

/-- Whatever line the message of a refused template shows is the one that its error is in. -/
def ShowsFailingLine (template : Template) : Prop :=
  ∀ (start : Nat) (text source : String) (line column : Nat) (failing : List Char)
    (content : String),
    (Template.readMarkup (.template template) >>= fun markup => markup.toElement start)
      = .error (.engine (.templateSyntax text (some source) (some line) (some column))) →
    (source.toList.splitOn '\n')[line - 1]? = some failing →
    (templateSyntax text (some source) (some line) (some column)).message .plain
      = stackedLines (("Syntax Error: " ++ text)
        :: ("  --> " ++ syntaxLocation (some line) (some column))
        :: snippet line column (some content)) →
    content.toList = failing

/-- The form feed ends a line for the message, but not for the place of the error. -/
theorem not_showsFailingLine_formFeed : ¬ ShowsFailingLine ⟨["a\x0cb\n<p"], []⟩ := by
  intro holds
  have refused : Template.readStrings ["a\x0cb\n<p"] = .error ⟨.unterminatedTag, 6⟩ := rfl
  have error : Template.SyntaxFault.toError ⟨.unterminatedTag, 6⟩ ["a\x0cb\n<p"]
      = .templateSyntax "Unterminated tag" (some "a\x0cb\n<p") (some 2) (some 2) := by
    with_unfolding_all rfl
  have rejected : (Template.readMarkup (.template ⟨["a\x0cb\n<p"], []⟩) >>= fun markup =>
      markup.toElement 0)
        = .error (.engine (Template.SyntaxFault.toError ⟨.unterminatedTag, 6⟩ ["a\x0cb\n<p"])) :=
    Template.rejected_of_fault rfl refused 0
  rw [error] at rejected
  have shown : shownLine? "a\x0cb\n<p" 2 = some "b" := rfl
  have positive : 0 < 2 := by decide
  have message := message_templateSyntax "Unterminated tag" "a\x0cb\n<p" positive 2
  rw [shown] at message
  have same := holds 0 _ _ 2 2 ['<', 'p'] "b" rejected rfl message
  exact absurd same (by decide)

/-! ## The caret -/

theorem length_lineGutter (line : Nat) :
    (lineGutter line).length = max 3 (toString (line : Int)).length + 4 := by
  simp only [lineGutter, Palette.lineNumber, String.length_append, String.length_ofList,
    List.length_replicate]
  have marker : ">".length = 1 := rfl
  have bar : " | ".length = 3 := rfl
  omega

theorem length_caretGutter (column : Nat) : (caretGutter column).length = column + 6 := by
  have bar : "   | ".length = 5 := rfl
  simp only [caretGutter, blanks, String.length_append, String.length_ofList, List.length_replicate]
  omega

theorem lineFeed_not_mem_lineGutter (line : Nat) : '\n' ∉ (lineGutter line).toList := by
  have digits : '\n' ∉ Nat.toDigits 10 line := by
    intro member
    cases Nat.isDigit_of_mem_toDigits (by omega) (by omega) member
  have written : toString (line : Int) = String.ofList (Nat.toDigits 10 line) := rfl
  rw [lineGutter, Palette.lineNumber, written]
  simp [digits]

theorem lineFeed_not_mem_caretGutter (column : Nat) : '\n' ∉ (caretGutter column).toList := by
  simp [caretGutter, blanks]

theorem lineFeed_not_mem_shownLine? {source content : String} {line : Nat}
    (shown : shownLine? source line = some content) : '\n' ∉ content.toList := by
  obtain ⟨found, member, rfl⟩ := List.mem_map.mp (List.mem_of_getElem? shown)
  intro lineFeed
  rw [String.toList_ofList] at lineFeed
  have inside := Text.not_isLineBoundary_of_mem member (by simp) '\n' lineFeed
  cases inside

theorem toList_stackedLines_concat (parts : List String) (some : parts ≠ []) (last : String) :
    (stackedLines (parts ++ [last])).toList = (stackedLines parts).toList ++ '\n' :: last.toList := by
  induction parts with
  | nil => contradiction
  | cons head tail induction =>
      cases tail with
      | nil => simp [stackedLines]
      | cons second later =>
          have rest := induction (List.cons_ne_nil second later)
          simp_all [stackedLines, String.intercalate_cons_cons]

/-- A message ends with a line of the source after a gutter and with a caret after a padding. -/
def EndsWithCaret (message content : String) (gutter padding : List Char) : Prop :=
  ∃ above, message.toList.splitOn '\n' = above ++ [gutter ++ content.toList, padding ++ ['^']]

theorem endsWithCaret_stackedLines (parts : List String) {content : String} (line column : Nat)
    (single : '\n' ∉ content.toList) :
    EndsWithCaret (stackedLines (parts ++ snippet line column (some content))) content
      (lineGutter line).toList (caretGutter column).toList := by
  have shownLine : '\n' ∉ (lineGutter line ++ content).toList := by
    simp [single, lineFeed_not_mem_lineGutter line]
  have caretLine : '\n' ∉ (caretGutter column ++ "^").toList := by
    simp [lineFeed_not_mem_caretGutter column]
  have stacked : parts ++ snippet line column (some content)
      = parts ++ ["   |"] ++ [lineGutter line ++ content] ++ [caretGutter column ++ "^"] := by
    simp [snippet]
  refine ⟨(stackedLines (parts ++ ["   |"])).toList.splitOn '\n', ?_⟩
  rw [stacked, toList_stackedLines_concat _ (by simp), toList_stackedLines_concat _ (by simp),
    List.splitOn_append_cons_self, List.splitOn_append_cons_self,
    List.splitOn_eq_singleton shownLine, List.splitOn_eq_singleton caretLine]
  simp

theorem endsWithCaret_message {source content : String} {line : Nat} (positive : 0 < line)
    (shown : shownLine? source line = some content) (text : String) (column : Nat) :
    EndsWithCaret ((templateSyntax text (some source) (some line) (some column)).message .plain)
      content (lineGutter line).toList (caretGutter column).toList := by
  rw [message_templateSyntax text source positive column, shown]
  exact endsWithCaret_stackedLines
    ["Syntax Error: " ++ text, "  --> " ++ syntaxLocation (some line) (some column)] line column
    (lineFeed_not_mem_shownLine? shown)

/-- The caret is set off by six places more than its column, and the line above it by four places
more than its number takes. -/
theorem caret_column {source content : String} {line : Nat} (positive : 0 < line)
    (shown : shownLine? source line = some content) (text : String) (column : Nat) :
    ∃ gutter padding,
      EndsWithCaret ((templateSyntax text (some source) (some line) (some column)).message .plain)
        content gutter padding ∧
      padding.length + (max 3 (toString (line : Int)).length - 2) = gutter.length + column := by
  refine ⟨_, _, endsWithCaret_message positive shown text column, ?_⟩
  rw [String.length_toList, String.length_toList, length_lineGutter, length_caretGutter]
  omega

/-- The place after an unfinished tag. -/
theorem caret_column_unterminated :
    ∃ gutter padding,
      EndsWithCaret ((templateSyntax "Unterminated tag" (some "<p>\n<b") (some 2) (some 2)).message
        .plain) "<b" gutter padding ∧
      padding.length + 1 = gutter.length + 2 := by
  have shown : shownLine? "<p>\n<b" 2 = some "<b" := rfl
  exact caret_column (by decide) shown "Unterminated tag" 2

/-- The caret is in the same column as the character of the line above it that a column names. -/
def CaretUnder (message content : String) (column : Nat) : Prop :=
  ∃ gutter padding, EndsWithCaret message content gutter padding ∧
    padding.length = gutter.length + column

theorem EndsWithCaret.unique {message content : String} {gutter padding other another : List Char}
    (first : EndsWithCaret message content gutter padding)
    (second : EndsWithCaret message content other another) :
    gutter = other ∧ padding = another := by
  obtain ⟨above, lines⟩ := first
  obtain ⟨aside, same⟩ := second
  have ends := (List.append_inj' (lines.symm.trans same) rfl).2
  simpa using ends

theorem not_caretUnder {source content : String} {line : Nat} (positive : 0 < line)
    (shown : shownLine? source line = some content) (text : String) (column : Nat) :
    ¬ CaretUnder ((templateSyntax text (some source) (some line) (some column)).message .plain)
      content column := by
  rintro ⟨gutter, padding, ends, under⟩
  have same := ends.unique (endsWithCaret_message positive shown text column)
  rw [same.1, same.2] at under
  rw [String.length_toList, String.length_toList, length_lineGutter, length_caretGutter] at under
  omega

/-- The caret of an unexpected closing tag is below the character before its bracket. -/
theorem not_caretUnder_closing :
    let error := templateSyntax "Unexpected closing tag </p>" (some "</p>") (some 1) (some 3)
    (Template.readMarkup (.template ⟨["</p>"], []⟩) >>= fun markup => markup.toElement 0)
        = .error (.engine error) ∧
      ¬ CaretUnder (error.message .plain) "</p>" 3 := by
  intro error
  have refused : Template.readStrings ["</p>"] = .error ⟨.unexpectedClosing "p", 3⟩ := rfl
  have given : Template.SyntaxFault.toError ⟨.unexpectedClosing "p", 3⟩ ["</p>"] = error := by
    with_unfolding_all rfl
  have rejected : (Template.readMarkup (.template ⟨["</p>"], []⟩) >>= fun markup =>
      markup.toElement 0)
        = .error (.engine (Template.SyntaxFault.toError ⟨.unexpectedClosing "p", 3⟩ ["</p>"])) :=
    Template.rejected_of_fault rfl refused 0
  have shown : shownLine? "</p>" 1 = some "</p>" := rfl
  rw [given] at rejected
  exact ⟨rejected, not_caretUnder (by decide) shown _ 3⟩

end EngineError
end HtmlStream
