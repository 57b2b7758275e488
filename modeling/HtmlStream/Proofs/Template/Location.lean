import HtmlStream.Proofs.Template.Progress
import HtmlStream.Template.Fill
import Mathlib.Data.List.TakeWhile

/-!
Where syntax errors are located. The line and the column name the place of the symbol that is refused,
or the end of the source, in the source with placeholders; they come from what is before that place,
so a template that goes on in another way is refused in the same way. The main statement is
`syntaxError_located`.
-/
namespace HtmlStream.Template

/-! ## Lines and columns -/

/-- The number of characters after the last line feed. -/
def columnAfter (before : List Char) : Nat :=
  (before.reverse.takeWhile (· ≠ '\n')).length

theorem columnAfter_of_not_mem {before : List Char} (none : '\n' ∉ before) :
    columnAfter before = before.length := by
  have all : before.reverse.takeWhile (· ≠ '\n') = before.reverse := by
    refine List.takeWhile_eq_self_iff.mpr fun character member => decide_eq_true ?_
    rintro rfl
    exact none (List.mem_reverse.mp member)
  rw [columnAfter, all, List.length_reverse]

theorem columnAfter_cons_of_mem {before : List Char} (some : '\n' ∈ before) (character : Char) :
    columnAfter (character :: before) = columnAfter before := by
  have stops : (before.reverse.takeWhile (· ≠ '\n')).length ≠ before.reverse.length := by
    intro same
    have all := (List.takeWhile_prefix (· ≠ '\n')).eq_of_length same
    have differs := List.takeWhile_eq_self_iff.mp all '\n' (List.mem_reverse.mpr some)
    exact of_decide_eq_true differs rfl
  rw [columnAfter, List.reverse_cons, List.takeWhile_append, if_neg stops, columnAfter]

theorem columnAfter_lineFeed (before : List Char) :
    columnAfter ('\n' :: before) = columnAfter before := by
  by_cases some : '\n' ∈ before
  · exact columnAfter_cons_of_mem some '\n'
  · have all : ∀ character ∈ before.reverse, decide (character ≠ '\n') = true := by
      rintro character member
      refine decide_eq_true ?_
      rintro rfl
      exact some (List.mem_reverse.mp member)
    have nothing : ['\n'].takeWhile (· ≠ '\n') = [] := rfl
    rw [columnAfter, List.reverse_cons, List.takeWhile_append_of_pos all, nothing, List.append_nil,
      List.length_reverse, columnAfter_of_not_mem some]

/-- The line and the column come from what is before the place. -/
theorem lineAndColumn_append (before after : List Char) :
    lineAndColumn (before ++ after) before.length
      = (before.count '\n' + 1, columnAfter before) := by
  unfold lineAndColumn
  rw [List.take_left]
  rfl

namespace IsAt

variable {source : List Char} {line column offset : Nat}

theorem lineFeed (place : IsAt source line column offset) :
    IsAt ('\n' :: source) (line + 1) column (offset + 1) := by
  have lines : ('\n' :: source).splitOn '\n' = [] :: source.splitOn '\n' := by
    rw [List.splitOn_cons_eq_if_modifyHead, if_pos (beq_self_eq_true '\n')]
  rcases place with ⟨counted, within, here⟩
  rcases Nat.exists_eq_add_of_le' counted with ⟨earlier, rfl⟩
  refine ⟨Nat.le_add_left 1 _, lines ▸ within, ?_⟩
  rw [← here]
  unfold offsetOf
  rw [lines, Nat.add_sub_cancel, Nat.add_sub_cancel, List.take_succ_cons, List.flatMap_cons,
    List.nil_append, List.singleton_append, List.length_cons]
  omega

theorem exists_lines {character : Char} (other : character ≠ '\n') (source : List Char) :
    ∃ first later, source.splitOn '\n' = first :: later ∧
      (character :: source).splitOn '\n' = (character :: first) :: later := by
  rcases List.exists_cons_of_ne_nil (List.splitOn_ne_nil '\n' source) with ⟨first, later, lines⟩
  refine ⟨first, later, lines, ?_⟩
  rw [List.splitOn_cons_eq_if_modifyHead, if_neg (by simpa using other), lines]
  rfl

theorem character_first {character : Char} (place : IsAt source 1 column offset)
    (other : character ≠ '\n') : IsAt (character :: source) 1 (column + 1) (offset + 1) := by
  rcases exists_lines other source with ⟨first, later, lines, longer⟩
  rcases place with ⟨counted, ⟨content, found, within⟩, here⟩
  rw [lines] at found
  cases found
  refine ⟨counted, ⟨character :: first, by rw [longer]; rfl, Nat.succ_le_succ within⟩, ?_⟩
  rw [← here]
  show 0 + (column + 1) = 0 + column + 1
  omega

theorem character_later {character : Char} (place : IsAt source (line + 2) column offset)
    (other : character ≠ '\n') : IsAt (character :: source) (line + 2) column (offset + 1) := by
  rcases exists_lines other source with ⟨first, later, lines, longer⟩
  rcases place with ⟨counted, ⟨content, found, within⟩, here⟩
  rw [lines] at found
  refine ⟨counted, ⟨content, by rw [longer]; exact found, within⟩, ?_⟩
  rw [← here]
  unfold offsetOf
  rw [lines, longer]
  show (((character :: first) :: later.take line).flatMap _).length + column
    = ((first :: later.take line).flatMap _).length + column + 1
  rw [List.flatMap_cons, List.flatMap_cons, List.cons_append, List.cons_append, List.length_cons]
  omega

end IsAt

theorem isAt_append (before after : List Char) :
    IsAt (before ++ after) (before.count '\n' + 1) (columnAfter before) before.length := by
  induction before with
  | nil =>
      rcases List.exists_cons_of_ne_nil (List.splitOn_ne_nil '\n' after) with ⟨first, later, lines⟩
      exact ⟨Nat.le_refl 1, ⟨first, by rw [List.nil_append, lines]; rfl, Nat.zero_le _⟩, rfl⟩
  | cons character before induction =>
      by_cases lineFeed : character = '\n'
      · subst lineFeed
        rw [columnAfter_lineFeed, List.count_cons_self]
        exact induction.lineFeed
      · rw [List.count_cons_of_ne lineFeed]
        by_cases some : '\n' ∈ before
        · rw [columnAfter_cons_of_mem some]
          rcases Nat.exists_eq_add_of_le' (List.count_pos_iff.mpr some) with ⟨line, count⟩
          rw [count] at induction ⊢
          exact induction.character_later lineFeed
        · have none : '\n' ∉ character :: before := by
            rw [List.mem_cons, not_or]
            exact ⟨Ne.symm lineFeed, some⟩
          rw [columnAfter_of_not_mem some, List.count_eq_zero.mpr some] at induction
          rw [columnAfter_of_not_mem none, List.count_eq_zero.mpr some]
          exact induction.character_first lineFeed

/-! ## Refused templates -/

variable {symbols read rest : List Symbol} {reading : Reading} {builder : Builder}
  {fault : SyntaxFault} {template : Template}

/-- The fault at the next symbol that is refused, or at the end. -/
inductive IsFaultOf (symbols : List Symbol) : SyntaxFault → Prop
  | atSymbol {read rest : List Symbol} {symbol : Symbol} {reading : Reading} {builder : Builder}
      {cause : SyntaxCause}
      (reached : ReadsTo symbols read reading builder (symbol :: rest))
      (refused : advance reading builder symbol (Symbol.firstCharacter? rest) = .error cause) :
      IsFaultOf symbols ⟨cause, (shownSource read).length⟩
  | atEnd {reading : Reading} {builder : Builder} {cause : SyntaxCause}
      (reached : ReadsTo symbols symbols reading builder [])
      (refused : finishReading reading builder = .error cause) :
      IsFaultOf symbols ⟨cause, (shownSource symbols).length⟩

theorem ReadsTo.isFaultOf (reached : ReadsTo symbols read reading builder rest)
    (refused : readSymbols symbols = .error fault) : IsFaultOf symbols fault := by
  induction rest generalizing read reading builder with
  | nil =>
      have whole : read = symbols := (List.append_nil read).symm.trans reached.append_eq
      subst whole
      rw [reached.readSymbols_eq, readFrom] at refused
      cases finished : finishReading reading builder with
      | ok nodes => rw [finished] at refused; cases refused
      | error cause =>
          rw [finished] at refused
          cases refused
          exact .atEnd reached finished
  | cons symbol rest induction =>
      cases advanced : advance reading builder symbol (Symbol.firstCharacter? rest) with
      | ok after => exact induction (.next reached advanced)
      | error cause =>
          rw [reached.readSymbols_eq, readFrom_of_refused advanced] at refused
          cases refused
          exact .atSymbol reached advanced

/-- A template is read as far as it is the same. -/
theorem ReadsTo.refuses {symbol : Symbol} {cause : SyntaxCause} {other : List Symbol}
    (reached : ReadsTo symbols read reading builder (symbol :: rest))
    (refused : advance reading builder symbol (Symbol.firstCharacter? rest) = .error cause)
    (alike : read ++ [symbol] <+: other) :
    readSymbols other = .error ⟨cause, (shownSource read).length⟩ := by
  rcases alike with ⟨after, rfl⟩
  rw [List.append_assoc, List.singleton_append, (reached.continued after).readSymbols_eq]
  exact readFrom_of_refused (advance_eq_error refused _)

/-- Only what the reader refuses is an error of the engine. -/
theorem exists_fault_of_rejected {error : EngineError} {start : Nat}
    (rejected : (readMarkup (.template template) >>= fun markup => markup.toElement start)
      = .error (.engine error)) :
    ∃ fault, readStrings template.strings = .error fault ∧
      error = fault.toError template.strings := by
  unfold readMarkup check Markup.toElement at rejected
  dsimp only at rejected
  split_ifs at rejected
  · dsimp only [bind, Except.bind, Except.mapError] at rejected
    cases given : readStrings template.strings with
    | error fault =>
        rw [given] at rejected
        cases rejected
        exact ⟨fault, rfl, rfl⟩
    | ok nodes =>
        rw [given] at rejected
        dsimp only at rejected
        cases evaluated : template.values with
        | error cause => rw [evaluated] at rejected; cases rejected
        | ok values =>
            rw [evaluated] at rejected
            dsimp only [pure, Except.pure] at rejected
            cases filled : fillForest values start nodes <;> rw [filled] at rejected <;>
              cases rejected
  · cases rejected

theorem readMarkup_of_fault (counted : template.strings.length = template.interpolations.length + 1)
    (refused : readStrings template.strings = .error fault) :
    readMarkup (.template template) = .error (.engine (fault.toError template.strings)) := by
  unfold readMarkup check
  dsimp only
  rw [if_pos counted]
  dsimp only [bind, Except.bind, Except.mapError]
  rw [refused]

theorem rejected_of_fault (counted : template.strings.length = template.interpolations.length + 1)
    (refused : readStrings template.strings = .error fault) (start : Nat) :
    (readMarkup (.template template) >>= fun markup => markup.toElement start)
      = .error (.engine (fault.toError template.strings)) := by
  rw [readMarkup_of_fault counted refused]
  rfl

/-- The error of a fault that comes after the source in `before`. -/
def errorAfter (before : List Char) (cause : SyntaxCause) (strings : List String) : EngineError :=
  .templateSyntax cause.message (some (placeholderSource strings))
    (some ((before.count '\n' + 1 : Nat) : Int)) (some (columnAfter before : Int))

theorem toError_eq {strings : List String} {read rest : List Symbol} (cause : SyntaxCause)
    (whole : read ++ rest = Symbol.ofStrings strings) :
    SyntaxFault.toError ⟨cause, (shownSource read).length⟩ strings
      = errorAfter (shownSource read) cause strings := by
  have located : lineAndColumn (placeholderSource strings).toList (shownSource read).length
      = ((shownSource read).count '\n' + 1, columnAfter (shownSource read)) := by
    rw [← shownSource_ofStrings, ← whole, shownSource_append, lineAndColumn_append]
  unfold SyntaxFault.toError
  dsimp only
  rw [located]
  rfl

theorem isAt_placeholderSource {strings : List String} {read rest : List Symbol}
    (whole : read ++ rest = Symbol.ofStrings strings) :
    IsAt (placeholderSource strings).toList ((shownSource read).count '\n' + 1)
      (columnAfter (shownSource read)) (shownSource read).length := by
  rw [← shownSource_ofStrings, ← whole, shownSource_append]
  exact isAt_append _ _

theorem IsFaultOf.exists_read {fault : SyntaxFault} (faulty : IsFaultOf symbols fault) :
    ∃ read reading builder rest, ReadsTo symbols read reading builder rest ∧
      fault.position = (shownSource read).length := by
  cases faulty with
  | atSymbol reached _ => exact ⟨_, _, _, _, reached, rfl⟩
  | atEnd reached _ => exact ⟨_, _, _, _, reached, rfl⟩

/-- How far a refused template was read is where its error is. -/
theorem exists_place_of_rejected {message : String} {source : Option String}
    {line column : Option Int} {start : Nat}
    (rejected : (readMarkup (.template template) >>= fun markup => markup.toElement start)
      = .error (.engine (.templateSyntax message source line column))) :
    ∃ read reading builder rest, ∃ lineNumber columnNumber : Nat,
      ReadsTo (Symbol.ofStrings template.strings) read reading builder rest ∧
      source = some (placeholderSource template.strings) ∧ line = some lineNumber ∧
      column = some columnNumber ∧
      IsAt (placeholderSource template.strings).toList lineNumber columnNumber
        (shownSource read).length := by
  obtain ⟨fault, refused, shown⟩ := exists_fault_of_rejected rejected
  obtain ⟨read, reading, builder, rest, reached, position⟩ :=
    (ReadsTo.start.isFaultOf refused).exists_read
  have place := isAt_placeholderSource reached.append_eq
  obtain ⟨cause, here⟩ := fault
  obtain rfl : here = (shownSource read).length := position
  rw [toError_eq cause reached.append_eq] at shown
  cases shown
  exact ⟨read, reading, builder, rest, _, _, reached, rfl, rfl, rfl, place⟩

/-- A template is refused: the line and the column are those of the symbol that cannot be read, and
another template that is the same up to this symbol is refused with the same message in the same
place; or they are those of the end of the source. -/
inductive IsLocated (strings : List String) (message : String) (line column : Nat) : Prop
  | atSymbol {read rest : List Symbol} {symbol : Symbol} {reading : Reading} {builder : Builder}
      {cause : SyntaxCause}
      (reached : ReadsTo (Symbol.ofStrings strings) read reading builder (symbol :: rest))
      (refused : advance reading builder symbol (Symbol.firstCharacter? rest) = .error cause)
      (stated : message = cause.message)
      (place : IsAt (placeholderSource strings).toList line column (shownSource read).length)
      (alike : ∀ other : Template, other.strings.length = other.interpolations.length + 1 →
        read ++ [symbol] <+: Symbol.ofStrings other.strings →
        readMarkup (.template other) = .error (.engine (.templateSyntax message
          (some (placeholderSource other.strings)) (some line) (some column))))
  | atEnd {reading : Reading} {builder : Builder} {cause : SyntaxCause}
      (reached : ReadsTo (Symbol.ofStrings strings) (Symbol.ofStrings strings) reading builder [])
      (refused : finishReading reading builder = .error cause)
      (stated : message = cause.message)
      (place : IsAt (placeholderSource strings).toList line column
        (placeholderSource strings).toList.length)

/-- A syntax error shows the source of the template with placeholders, and it tells where in this
source reading came to its end. -/
theorem syntaxError_located {message : String} {source : Option String} {line column : Option Int}
    {start : Nat}
    (rejected : (readMarkup (.template template) >>= fun markup => markup.toElement start)
      = .error (.engine (.templateSyntax message source line column))) :
    source = some (placeholderSource template.strings) ∧
      ∃ lineNumber columnNumber : Nat, line = some lineNumber ∧ column = some columnNumber ∧
        IsLocated template.strings message lineNumber columnNumber := by
  rcases exists_fault_of_rejected rejected with ⟨fault, refused, shown⟩
  cases ReadsTo.start.isFaultOf refused with
  | @atSymbol read rest symbol reading builder cause reached stops =>
      rw [toError_eq cause reached.append_eq] at shown
      cases shown
      refine ⟨rfl, _, _, rfl, rfl, .atSymbol reached stops rfl
        (isAt_placeholderSource reached.append_eq) fun other counted alike => ?_⟩
      rw [readMarkup_of_fault counted (reached.refuses stops alike)]
      rcases alike with ⟨after, whole⟩
      rw [List.append_assoc] at whole
      rw [toError_eq cause whole]
      rfl
  | @atEnd reading builder cause reached stops =>
      rw [toError_eq cause reached.append_eq] at shown
      cases shown
      have place := isAt_placeholderSource reached.append_eq
      exact ⟨rfl, _, _, rfl, rfl, .atEnd reached stops rfl (shownSource_ofStrings _ ▸ place)⟩

/-- The bracket of the closing tag is the fourth character of the second line. -/
theorem syntaxError_located_mismatched :
    let template : Template := ⟨["<p a=", ">\n</q>"], [⟨.integer 1, .null, .text ""⟩]⟩
    let message := "Mismatched closing tag: expected </p>, got </q>"
    (readMarkup (.template template) >>= fun markup => markup.toElement 0)
        = .error (.engine (.templateSyntax message (some "<p a=\x7b…\x7d>\n</q>") (some 2)
          (some 3))) ∧
      IsLocated template.strings message 2 3 := by
  intro template message
  have refused : readStrings template.strings = .error ⟨.mismatchedClosing "p" "q", 13⟩ := rfl
  have shown : SyntaxFault.toError ⟨.mismatchedClosing "p" "q", 13⟩ ["<p a=", ">\n</q>"]
      = .templateSyntax "Mismatched closing tag: expected </p>, got </q>"
        (some "<p a=\x7b…\x7d>\n</q>") (some 2) (some 3) := by
    with_unfolding_all rfl
  have rejected := congrArg (· >>= fun markup => markup.toElement 0)
    (readMarkup_of_fault (Eq.refl template.strings.length) refused)
  change _ = Except.error (Failure.engine (SyntaxFault.toError _ ["<p a=", ">\n</q>"])) at rejected
  rw [shown] at rejected
  rcases syntaxError_located rejected with ⟨_, line, column, lineIs, columnIs, located⟩
  have second : 2 = line := Int.ofNat.inj (Option.some.inj lineIs)
  have fourth : 3 = column := Int.ofNat.inj (Option.some.inj columnIs)
  rw [← second, ← fourth] at located
  exact ⟨rejected, located⟩

end HtmlStream.Template
