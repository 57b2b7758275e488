import HtmlStream.Proofs.Template.Location

/-!
Reading is refused at the first symbol with which no template goes on. What was read before it can
be completed by static text: the tag, value or comment at hand is ended, and then each open element
is closed. Only the name of a closing tag can be wrong before its bracket is read. The main
statement is `exists_completion`.
-/
namespace HtmlStream.Template

/-! ## Cutting a template -/

/-- The strings of a template as far as they come before an offset of its source: whole strings, and
the beginning of one that the offset is in. -/
def stringsBefore (offset : Nat) : List String → List String
  | [] => []
  | head :: tail =>
      if offset ≤ head.length then [String.ofList (head.toList.take offset)]
      else head :: stringsBefore (offset - (head.length + placeholder.length)) tail

/-- Strings with static text after the last one. -/
def withSuffix (suffix : String) : List String → List String
  | [] => []
  | [last] => [last ++ suffix]
  | head :: second :: later => head :: withSuffix suffix (second :: later)

/-- A template cut right before an offset of its source. -/
def cutAt (template : Template) (offset : Nat) : Template :=
  let strings := stringsBefore offset template.strings
  ⟨strings, template.interpolations.take (strings.length - 1)⟩

def completedBy (template : Template) (suffix : String) : Template :=
  { template with strings := withSuffix suffix template.strings }

/-- The end of a template is in a closing tag. -/
def EndsInClosingTag (template : Template) : Prop :=
  ∃ name builder, ReadsTo (Symbol.ofStrings template.strings) (Symbol.ofStrings template.strings)
    (.closingTag name) builder []

/-- A template that is well-formed and read without a fault. -/
structure Parses (template : Template) : Prop where
  counted : template.strings.length = template.interpolations.length + 1
  read : ∃ nodes, readStrings template.strings = .ok nodes

theorem length_stringsBefore_pos {strings : List String} (some : strings ≠ []) (offset : Nat) :
    0 < (stringsBefore offset strings).length := by
  cases strings with
  | nil => contradiction
  | cons head tail =>
      rw [stringsBefore]
      split_ifs <;> simp

theorem length_stringsBefore_le (offset : Nat) (strings : List String) :
    (stringsBefore offset strings).length ≤ strings.length := by
  induction strings generalizing offset with
  | nil => simp [stringsBefore]
  | cons head tail induction =>
      rw [stringsBefore]
      split_ifs
      · simp
      · simpa using induction _

theorem length_withSuffix (suffix : String) (strings : List String) :
    (withSuffix suffix strings).length = strings.length := by
  fun_induction withSuffix <;> simp_all

theorem ofStringsFrom_cons (index : Nat) (head : String) {tail : List String} (some : tail ≠ []) :
    Symbol.ofStringsFrom index (head :: tail)
      = Symbol.ofText head ++ .hole index :: Symbol.ofStringsFrom (index + 1) tail := by
  cases tail with
  | nil => contradiction
  | cons second later => rfl

theorem withSuffix_ne_nil (suffix : String) {strings : List String} (some : strings ≠ []) :
    withSuffix suffix strings ≠ [] := by
  rw [← List.length_pos_iff] at some ⊢
  rwa [length_withSuffix]

theorem ofStringsFrom_withSuffix (suffix : String) {strings : List String} (some : strings ≠ [])
    (index : Nat) :
    Symbol.ofStringsFrom index (withSuffix suffix strings)
      = Symbol.ofStringsFrom index strings ++ Symbol.ofText suffix := by
  fun_induction withSuffix generalizing index with
  | case1 => contradiction
  | case2 last => simp [Symbol.ofStringsFrom, Symbol.ofText]
  | case3 head second later induction =>
      rw [ofStringsFrom_cons index head (withSuffix_ne_nil suffix (List.cons_ne_nil _ _)),
        ofStringsFrom_cons index head (List.cons_ne_nil _ _), induction (List.cons_ne_nil _ _)]
      simp

/-- The part of a string that has been read is the string before the end of that part. -/
theorem stringsBefore_of_ofText {head : String} {tail : List String} {read middle : List Symbol}
    (whole : Symbol.ofText head = read ++ middle) (index : Nat) :
    Symbol.ofStringsFrom index (stringsBefore (shownSource read).length (head :: tail)) = read := by
  obtain ⟨before, after, spelled, rfl, rfl⟩ := List.map_eq_append_iff.mp whole
  have within : (shownSource (before.map .character)).length ≤ head.length := by
    rw [shownSource_map_character, ← String.length_toList, spelled]
    simp
  rw [stringsBefore, if_pos within, shownSource_map_character, spelled, List.take_left]
  simp [Symbol.ofStringsFrom, Symbol.ofText]

/-- Cutting at the end of what has been read leaves what has been read. -/
theorem ofStringsFrom_stringsBefore {index : Nat} {strings : List String}
    {read rest : List Symbol} (whole : Symbol.ofStringsFrom index strings = read ++ rest) :
    Symbol.ofStringsFrom index (stringsBefore (shownSource read).length strings) = read := by
  induction strings generalizing index read with
  | nil =>
      obtain ⟨rfl, -⟩ := List.append_eq_nil_iff.mp whole.symm
      rfl
  | cons head tail induction =>
      by_cases last : tail = []
      · subst last
        exact stringsBefore_of_ofText whole index
      · rw [ofStringsFrom_cons index head last] at whole
        cases List.append_eq_append_iff.mp whole with
        | inl longer =>
            obtain ⟨middle, rfl, later⟩ := longer
            cases middle with
            | nil =>
                rw [List.append_nil]
                exact stringsBefore_of_ofText (List.append_nil _).symm index
            | cons hole read =>
                rw [List.cons_append] at later
                obtain ⟨rfl, unread⟩ := List.cons.inj later
                have text : (shownSource (Symbol.ofText head)).length = head.length := by
                  rw [Symbol.ofText, shownSource_map_character, String.length_toList]
                have length : (shownSource (Symbol.ofText head ++ .hole index :: read)).length
                    = head.length + placeholder.length + (shownSource read).length := by
                  rw [shownSource_append, List.length_append, text, Nat.add_assoc]
                  exact congrArg (_ + ·) List.length_append
                have past : ¬ head.length + placeholder.length + (shownSource read).length
                    ≤ head.length := by
                  have three : placeholder.length = 3 := rfl
                  omega
                rw [length, stringsBefore, if_neg past, Nat.add_sub_cancel_left,
                  ofStringsFrom_cons index head, induction unread]
                exact List.length_pos_iff.mp (length_stringsBefore_pos last _)
        | inr shorter =>
            obtain ⟨middle, text, -⟩ := shorter
            exact stringsBefore_of_ofText text index

/-! ## What may follow -/

namespace Reading

/-- The static character that comes next agrees with how the slash before it was read. -/
def Allows (next : Option Char) : Reading → Prop
  | .selfClosing _ => next = some '>'
  | .unquotedValue .. => next ≠ some '>'
  | _ => True

theorem inUnquotedValue_slash (tag : Tag) (name : List Char) (pieces : List Piece)
    (next : Option Char) :
    inUnquotedValue tag name pieces '/' next
      = quiet (if next = some '>' then .selfClosing (withValue tag name pieces)
        else .unquotedValue tag name (appendCharacter '/' pieces)) := by
  have unblank : ¬ Text.isBlank '/' = true := by decide
  have noBracket : ('/' : Char) ≠ '>' := by decide
  rw [inUnquotedValue, if_neg unblank, if_neg noBracket]
  by_cases closes : next = some '>' <;> simp [closes]

theorem inUnquotedValue_of_allows {tag : Tag} {name : List Char} {pieces : List Piece}
    {character : Char} {next other : Option Char} {later : Reading} {events : List Event}
    (given : inUnquotedValue tag name pieces character next = .ok (later, events))
    (allowed : later.Allows other) :
    inUnquotedValue tag name pieces character other = .ok (later, events) := by
  by_cases slash : character = '/'
  · subst slash
    rw [inUnquotedValue_slash] at given ⊢
    by_cases closes : next = some '>'
    · rw [if_pos closes] at given
      cases given
      exact congrArg quiet (if_pos allowed)
    · rw [if_neg closes] at given
      cases given
      exact congrArg quiet (if_neg allowed)
  · simpa [inUnquotedValue, slash] using given

end Reading

open Reading

variable {symbols read rest : List Symbol} {symbol : Symbol} {reading later : Reading}
  {builder built : Builder}

theorem advance_of_allows {next other : Option Char}
    (advanced : advance reading builder symbol next = .ok (later, built))
    (allowed : later.Allows other) :
    advance reading builder symbol other = .ok (later, built) := by
  obtain ⟨events, given, applied⟩ := advance_eq_ok advanced
  have same : reading.read symbol other = .ok (later, events) := by
    cases symbol with
    | hole index => exact given
    | character character =>
        cases reading with
        | unquotedValue tag name pieces => exact inUnquotedValue_of_allows given allowed
        | _ => exact given
  simp [advance, same, applied, bind, Except.bind, pure, Except.pure]

/-- What has been read is read in the same way before anything that may follow. -/
theorem ReadsTo.followedBy (reached : ReadsTo symbols read reading builder rest)
    (other : List Symbol) (allowed : reading.Allows (Symbol.firstCharacter? other)) :
    ReadsTo (read ++ other) read reading builder other := by
  cases reached with
  | start => exact .start
  | next reached advanced =>
      rw [List.append_assoc]
      exact .next (reached.continued other) (advance_of_allows advanced allowed)

/-! ## Endings -/

/-- Text that ends whatever is at hand. -/
def Reading.ending : Reading → List Char
  | .text _ | .closingTag _ => []
  | .tagName name hole => if name.isEmpty && hole.isNone then ['p', '/', '>'] else ['/', '>']
  | .attributes _ | .attributeName .. => ['/', '>']
  | .attributeValue .. => ['"', '"', '/', '>']
  | .quotedValue _ _ quote _ => [quote, '/', '>']
  | .unquotedValue .. => [' ', '/', '>']
  | .selfClosing _ | .declaration _ => ['>']
  | .comment _ => ['-', '-', '>']

/-- Closing tags without a name. -/
def closers (count : Nat) : List Char :=
  (List.replicate count ['<', '/', '>']).flatten

theorem allows_ending (reading : Reading) (count : Nat) :
    reading.Allows
      (Symbol.firstCharacter? ((reading.ending ++ closers count).map Symbol.character)) := by
  cases reading <;> simp [Allows, ending, Symbol.firstCharacter?]

theorem length_stack_add (builder : Builder) (node : Node) :
    (builder.add node).stack.length = builder.stack.length := by
  cases stack : builder.stack <;> simp [Builder.add, stack]

theorem length_stack_flushed (builder : Builder) (run : List Char) :
    (builder.flushed run).stack.length = builder.stack.length := by
  rw [Builder.flushed]
  generalize Tree.toNodes _ = nodes
  induction nodes generalizing builder with
  | nil => rfl
  | cons head tail induction =>
      rw [Builder.addAll_cons, induction, length_stack_add]

/-- Reading some characters leads back into text, with as many open elements as before. -/
def EndsBy (chars : List Char) (reading : Reading) (builder : Builder) : Prop :=
  ∃ run built, Reads chars (reading, builder) (.text run, built) ∧
    built.stack.length = builder.stack.length

theorem EndsBy.after {character : Char} {chars : List Char}
    (ends : EndsBy chars later builder)
    (quietly : ∀ following, reading.readCharacter character following = quiet later) :
    EndsBy (character :: chars) reading builder := by
  obtain ⟨run, built, reads, same⟩ := ends
  exact ⟨run, built, (reads_quiet quietly).cons reads, same⟩

theorem endsBy_selfClosing (tag : Tag) (builder : Builder) :
    EndsBy ['>'] (.selfClosing tag) builder :=
  ⟨[], _, reads_events (fun _ => rfl) rfl, length_stack_add _ _⟩

theorem endsBy_attributes (tag : Tag) (builder : Builder) :
    EndsBy ['/', '>'] (.attributes tag) builder :=
  (endsBy_selfClosing tag builder).after fun _ => rfl

theorem endsBy_tagName {name : List Char} {hole : Option Nat}
    (begun : (name.isEmpty && hole.isNone) = false) (builder : Builder) :
    EndsBy ['/', '>'] (.tagName name hole) builder := by
  obtain ⟨tag, given⟩ : ∃ tag, beginTag name hole = .ok tag := by
    cases hole with
    | some index => exact ⟨_, rfl⟩
    | none => exact ⟨⟨.literal (nameOf name), []⟩, by simpa [beginTag] using begun⟩
  apply (endsBy_selfClosing tag builder).after
  intro following
  have noClosing : ¬ (('/' : Char) = '/' && name.isEmpty && hole.isNone) = true :=
    Bool.eq_false_iff.mp begun
  have unblank : ¬ Text.isBlank '/' = true := by decide
  rw [readCharacter, inTagName, if_neg noClosing, if_neg unblank, given]
  rfl

theorem endsBy_comment (tail : List Char) (builder : Builder) :
    EndsBy ['-', '-', '>'] (.comment tail) builder := by
  have dashes : ∀ tail : List Char, ('-' :: ('-' :: tail).take 2).take 2 = ['-', '-'] := by
    intro tail
    cases tail <;> rfl
  have closes : EndsBy ['>'] (.comment ['-', '-']) builder :=
    ⟨[], builder, reads_quiet fun _ => rfl, rfl⟩
  rw [← dashes tail] at closes
  exact (closes.after fun _ => rfl).after fun _ => rfl

/-- Everything but a closing tag can be ended. -/
theorem endsBy_ending (reading : Reading) (builder : Builder)
    (noClosing : ∀ name, reading ≠ .closingTag name) : EndsBy reading.ending reading builder := by
  cases reading with
  | text run => exact ⟨run, builder, reads_nil _, rfl⟩
  | tagName name hole =>
      cases begun : name.isEmpty && hole.isNone with
      | false =>
          rw [ending, begun]
          exact endsBy_tagName begun builder
      | true =>
          simp only [Bool.and_eq_true, List.isEmpty_iff, Option.isNone_iff_eq_none] at begun
          obtain ⟨rfl, rfl⟩ := begun
          exact (endsBy_tagName rfl builder).after fun _ => rfl
  | attributes tag => exact endsBy_attributes tag builder
  | attributeName tag name => exact (endsBy_selfClosing _ builder).after fun _ => rfl
  | attributeValue tag name =>
      exact ((endsBy_attributes _ builder).after fun _ => rfl).after fun _ => rfl
  | quotedValue tag name quote pieces =>
      exact (endsBy_attributes _ builder).after fun _ => if_pos rfl
  | unquotedValue tag name pieces => exact (endsBy_attributes _ builder).after fun _ => rfl
  | selfClosing tag => exact endsBy_selfClosing tag builder
  | closingTag name => exact absurd rfl (noClosing name)
  | comment tail => exact endsBy_comment tail builder
  | declaration name => exact ⟨[], _, reads_events (fun _ => rfl) rfl, length_stack_add _ _⟩

/-- A closing tag without a name fits every element. -/
theorem close_unnamed {count : Nat} (opened : builder.stack.length = count + 1) :
    ∃ built, builder.close "" = .ok built ∧ built.stack.length = count := by
  cases stack : builder.stack with
  | nil => simp [stack] at opened
  | cons innermost outer =>
      have fits : Builder.closingFault? innermost.tag "" = none := by
        cases kind : innermost.tag.name <;> simp [Builder.closingFault?, kind]
      have closes : builder.close "" = .ok ({ builder with stack := outer }.add
          (.element innermost.tag innermost.children.reverse)) := by
        simp [Builder.close, stack, fits]
      refine ⟨_, closes, ?_⟩
      simpa [length_stack_add, stack] using opened

theorem reads_closer {run : List Char} (applied : (builder.flushed run).close "" = .ok built) :
    Reads ['<', '/', '>'] (.text run, builder) (.text [], built) := by
  apply reads_bracket.cons
  apply Reads.cons (reads_quiet fun _ => rfl)
  apply reads_events (fun _ => rfl)
  simp [Builder.applyAll, Builder.apply, nameOf, applied, bind, Except.bind]

/-- As many closing tags as there are open elements close all of them. -/
theorem reads_closers {count : Nat} (run : List Char) (opened : builder.stack.length = count) :
    ∃ run' built, Reads (closers count) (.text run, builder) (.text run', built) ∧
      built.stack = [] := by
  induction count generalizing run builder with
  | zero => exact ⟨run, builder, reads_nil _, List.length_eq_zero_iff.mp opened⟩
  | succ count induction =>
      rw [← length_stack_flushed builder run] at opened
      obtain ⟨between, applied, left⟩ := close_unnamed opened
      obtain ⟨run', built, reads, closed⟩ := induction [] left
      exact ⟨run', built, (reads_closer applied).append reads, closed⟩

theorem finishReading_of_closed (run : List Char) (closed : builder.stack = []) :
    ∃ nodes, finishReading (.text run) builder = .ok nodes := by
  have flushed : (builder.flushed run).stack = [] := by
    rw [← List.length_eq_zero_iff, length_stack_flushed, closed]
    rfl
  refine ⟨(builder.flushed run).finished.reverse, ?_⟩
  simp [finishReading, finish, builder.applyAll_textEvents, Builder.finish, flushed, bind,
    Except.bind]

/-- Whatever has been read can be completed, unless it ends in a closing tag. -/
theorem ReadsTo.exists_completed (reached : ReadsTo symbols read reading builder rest)
    (noClosing : ∀ name, reading ≠ .closingTag name) :
    ∃ suffix nodes, readSymbols (read ++ Symbol.ofText suffix) = .ok nodes := by
  obtain ⟨run, between, ends, opened⟩ := endsBy_ending reading builder noClosing
  obtain ⟨run', built, closes, closed⟩ := reads_closers run opened
  obtain ⟨nodes, finished⟩ := finishReading_of_closed run' closed
  refine ⟨String.ofList (reading.ending ++ closers builder.stack.length), nodes, ?_⟩
  have followed := reached.followedBy _ (allows_ending reading builder.stack.length)
  have reads := (ends.append closes) (shownSource read).length []
  rw [List.append_nil] at reads
  rw [Symbol.ofText, String.toList_ofList, followed.readSymbols_eq, reads, readFrom, finished]

/-! ## Refused templates -/

variable {template : Template}

theorem counted_of_rejected {failure : EngineError} {start : Nat}
    (rejected : (readMarkup (.template template) >>= fun markup => markup.toElement start)
      = .error (.engine failure)) :
    template.strings.length = template.interpolations.length + 1 := by
  by_contra miscounted
  simp [readMarkup, check, miscounted, bind, Except.bind, Except.mapError] at rejected

theorem counted_completedBy (counted : template.strings.length = template.interpolations.length + 1)
    (offset : Nat) (suffix : String) :
    ((template.cutAt offset).completedBy suffix).strings.length
      = ((template.cutAt offset).completedBy suffix).interpolations.length + 1 := by
  have strings : template.strings ≠ [] := by
    rw [← List.length_pos_iff, counted]
    exact Nat.succ_pos _
  have least := length_stringsBefore_pos strings offset
  have most := length_stringsBefore_le offset template.strings
  simp only [completedBy, cutAt, length_withSuffix, List.length_take]
  omega

/-- A template that is cut right before the place of its syntax error can be completed by static
text, unless the cut is in a closing tag. -/
theorem exists_completion {message : String} {source : Option String} {line column : Option Int}
    {start : Nat}
    (rejected : (readMarkup (.template template) >>= fun markup => markup.toElement start)
      = .error (.engine (.templateSyntax message source line column))) :
    ∃ lineNumber columnNumber offset : Nat, line = some lineNumber ∧ column = some columnNumber ∧
      IsAt (placeholderSource template.strings).toList lineNumber columnNumber offset ∧
      (¬ (template.cutAt offset).EndsInClosingTag →
        ∃ suffix, ((template.cutAt offset).completedBy suffix).Parses) := by
  obtain ⟨read, reading, builder, rest, lineNumber, columnNumber, reached, -, lineIs, columnIs,
    place⟩ := exists_place_of_rejected rejected
  have counted := counted_of_rejected rejected
  have strings : template.strings ≠ [] := by
    rw [← List.length_pos_iff, counted]
    exact Nat.succ_pos _
  refine ⟨lineNumber, columnNumber, _, lineIs, columnIs, place, fun outside => ?_⟩
  let offset := (shownSource read).length
  have cut : Symbol.ofStrings (template.cutAt offset).strings = read :=
    ofStringsFrom_stringsBefore reached.append_eq.symm
  have noClosing : ∀ name, reading ≠ .closingTag name := by
    rintro name rfl
    have ended := reached.followedBy [] trivial
    rw [List.append_nil] at ended
    exact outside ⟨name, builder, cut.symm ▸ ended⟩
  obtain ⟨suffix, nodes, completed⟩ := reached.exists_completed noClosing
  have some := List.length_pos_iff.mp (length_stringsBefore_pos strings offset)
  have longer : Symbol.ofStrings ((template.cutAt offset).completedBy suffix).strings
      = Symbol.ofStrings (template.cutAt offset).strings ++ Symbol.ofText suffix :=
    ofStringsFrom_withSuffix suffix some 0
  refine ⟨suffix, counted_completedBy counted offset suffix, nodes, ?_⟩
  rw [readStrings, longer, cut]
  exact completed

/-- A template that ends in a closing tag is refused for it. -/
theorem EndsInClosingTag.refused (ends : template.EndsInClosingTag) :
    ∃ position, readStrings template.strings = .error ⟨.unterminatedClosingTag, position⟩ := by
  obtain ⟨name, builder, reached⟩ := ends
  exact ⟨_, reached.readSymbols_eq⟩

/-- The slash is a part of the value as long as no bracket comes right after it. -/
theorem exists_completion_slash :
    let template : Template := ⟨["<p a=", "/"], [⟨.integer 1, .null, .text ""⟩]⟩
    (readMarkup (.template template) >>= fun markup => markup.toElement 0)
        = .error (.engine (.templateSyntax "Unterminated tag" (some "<p a=\x7b…\x7d/") (some 1)
          (some 9))) ∧
      ∃ suffix, ((template.cutAt 9).completedBy suffix).Parses := by
  intro template
  have refused : readStrings template.strings = .error ⟨.unterminatedTag, 9⟩ := rfl
  have shown : SyntaxFault.toError ⟨.unterminatedTag, 9⟩ ["<p a=", "/"]
      = .templateSyntax "Unterminated tag" (some "<p a=\x7b…\x7d/") (some 1) (some 9) := by
    with_unfolding_all rfl
  have rejected : (readMarkup (.template template) >>= fun markup => markup.toElement 0)
      = .error (.engine (SyntaxFault.toError ⟨.unterminatedTag, 9⟩ ["<p a=", "/"])) :=
    rejected_of_fault rfl refused 0
  rw [shown] at rejected
  obtain ⟨line, column, offset, lineIs, columnIs, place, completable⟩ := exists_completion rejected
  obtain rfl : 1 = line := Int.ofNat.inj (Option.some.inj lineIs)
  obtain rfl : 9 = column := Int.ofNat.inj (Option.some.inj columnIs)
  obtain rfl : 9 = offset := place.offset
  refine ⟨rejected, completable fun ends => ?_⟩
  obtain ⟨position, closing⟩ := ends.refused
  have unfinished : readStrings (template.cutAt 9).strings = .error ⟨.unterminatedTag, 9⟩ := rfl
  rw [unfinished] at closing
  cases closing

end HtmlStream.Template
