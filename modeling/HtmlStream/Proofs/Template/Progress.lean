import HtmlStream.Proofs.Template.Parsing
import HtmlStream.Template.Progress
import Mathlib.Data.List.Induction

/-!
Reading comes to a place in one way only, and what it does from there on is what the whole template
is read as. Which symbols come after the next one makes no difference to the way there.
-/
namespace HtmlStream.Template

variable {symbols read rest : List Symbol} {symbol : Symbol} {reading later : Reading}
  {builder built : Builder} {cause : SyntaxCause} {nodes : List Node}

/-! ## Sources -/

@[simp] theorem shownSource_append (first second : List Symbol) :
    shownSource (first ++ second) = shownSource first ++ shownSource second :=
  List.flatMap_append

@[simp] theorem staticText_append (first second : List Symbol) :
    staticText (first ++ second) = staticText first ++ staticText second :=
  List.filterMap_append

theorem length_shown (symbol : Symbol) : symbol.shown.length = symbol.width := by
  cases symbol <;> rfl

theorem shownSource_map_character (text : List Char) :
    shownSource (text.map .character) = text := by
  induction text with
  | nil => rfl
  | cons first later induction => exact congrArg (first :: ·) induction

theorem staticText_map_character (text : List Char) :
    staticText (text.map .character) = text := by
  induction text with
  | nil => rfl
  | cons first later induction => exact congrArg (first :: ·) induction

/-- Symbols begin with as many characters of a kind as come one right after the other. -/
theorem exists_characters_and_end (goesOn : Char → Prop) (symbols : List Symbol) :
    ∃ (chars : List Char) (after : List Symbol), symbols = chars.map .character ++ after ∧
      (∀ character ∈ chars, goesOn character) ∧
      ∀ character ∈ Symbol.firstCharacter? after, ¬ goesOn character := by
  induction symbols with
  | nil => exact ⟨[], [], rfl, nofun, nofun⟩
  | cons symbol rest induction =>
      cases symbol with
      | hole index => exact ⟨[], .hole index :: rest, rfl, nofun, nofun⟩
      | character character =>
          by_cases isOne : goesOn character
          · rcases induction with ⟨chars, after, rfl, within, ended⟩
            exact ⟨character :: chars, after, rfl, List.forall_mem_cons.mpr ⟨isOne, within⟩, ended⟩
          · refine ⟨[], .character character :: rest, rfl, nofun, ?_⟩
            rintro _ ⟨⟩
            exact isOne

theorem shownSource_ofStringsFrom (index : Nat) (strings : List String) :
    shownSource (Symbol.ofStringsFrom index strings) = (placeholderSource strings).toList := by
  unfold placeholderSource
  induction strings generalizing index with
  | nil => rfl
  | cons head tail induction =>
      cases tail with
      | nil => exact shownSource_map_character head.toList
      | cons second later =>
          rw [String.intercalate_cons_cons, String.toList_append, String.toList_append,
            ← induction (index + 1)]
          show shownSource (head.toList.map .character
            ++ .hole index :: Symbol.ofStringsFrom (index + 1) (second :: later)) = _
          rw [shownSource_append, shownSource_map_character, List.append_assoc]
          rfl

/-- The source of a template is the text that stands for it in messages. -/
theorem shownSource_ofStrings (strings : List String) :
    shownSource (Symbol.ofStrings strings) = (placeholderSource strings).toList :=
  shownSource_ofStringsFrom 0 strings

/-! ## One symbol -/

/-- What is refused is refused whatever comes after it. -/
theorem advance_eq_error {next : Option Char}
    (refused : advance reading builder symbol next = .error cause) (other : Option Char) :
    advance reading builder symbol other = .error cause := by
  cases symbol with
  | hole index => exact refused
  | character character =>
      cases reading with
      | unquotedValue tag name pieces =>
          -- Only here the next character counts, and a slash is read either way.
          by_cases slash : character = '/'
          · subst slash
            have quietly : ∀ next, ∃ after,
                Reading.inUnquotedValue tag name pieces '/' next = Reading.quiet after := by
              intro next
              have notBracket : ('/' : Char) ≠ '>' := by decide
              have notBlank : ¬ Text.isBlank '/' = true := by decide
              unfold Reading.inUnquotedValue
              rw [if_neg notBlank, if_neg notBracket]
              split_ifs
              · exact ⟨_, rfl⟩
              · exact ⟨_, rfl⟩
            rcases quietly next with ⟨after, given⟩
            unfold advance Reading.read Reading.readCharacter at refused
            dsimp only at refused
            rw [given] at refused
            cases refused
          · have same : ∀ next, Reading.inUnquotedValue tag name pieces character next
                = Reading.inUnquotedValue tag name pieces character other := by
              intro next
              unfold Reading.inUnquotedValue
              simp only [slash, decide_false, Bool.false_and]
            unfold advance Reading.read Reading.readCharacter at refused ⊢
            dsimp only at refused ⊢
            rw [← same next]
            exact refused
      | _ => exact refused

theorem advance_eq_ok {next : Option Char}
    (advanced : advance reading builder symbol next = .ok (later, built)) :
    ∃ events, reading.read symbol next = .ok (later, events) ∧
      builder.applyAll events = .ok built := by
  unfold advance at advanced
  cases read : reading.read symbol next with
  | error cause => rw [read] at advanced; cases advanced
  | ok given =>
      rcases given with ⟨after, events⟩
      rw [read] at advanced
      dsimp only [bind, Except.bind] at advanced
      cases applied : builder.applyAll events with
      | error cause => rw [applied] at advanced; cases advanced
      | ok final =>
          rw [applied] at advanced
          cases advanced
          exact ⟨events, rfl, applied⟩

theorem readFrom_of_advance {position : Nat}
    (advanced : advance reading builder symbol (Symbol.firstCharacter? rest) = .ok (later, built)) :
    readFrom reading builder position (symbol :: rest)
      = readFrom later built (position + symbol.width) rest := by
  rw [readFrom, advanced]

theorem readFrom_of_refused {position : Nat}
    (refused : advance reading builder symbol (Symbol.firstCharacter? rest) = .error cause) :
    readFrom reading builder position (symbol :: rest) = .error ⟨cause, position⟩ := by
  rw [readFrom, refused]

theorem exists_advance_of_readFrom {position : Nat}
    (accepted : readFrom reading builder position (symbol :: rest) = .ok nodes) :
    ∃ later built, advance reading builder symbol (Symbol.firstCharacter? rest)
      = .ok (later, built) := by
  cases advanced : advance reading builder symbol (Symbol.firstCharacter? rest) with
  | ok after => exact ⟨after.1, after.2, rfl⟩
  | error cause => rw [readFrom_of_refused advanced] at accepted; cases accepted

/-! ## Whole templates -/

namespace ReadsTo

theorem append_eq (reached : ReadsTo symbols read reading builder rest) :
    read ++ rest = symbols := by
  induction reached with
  | start => rfl
  | next reached advanced induction =>
      rw [List.append_assoc]
      exact induction

/-- The template is read as what is left of it, from where reading has come to. -/
theorem readSymbols_eq (reached : ReadsTo symbols read reading builder rest) :
    readSymbols symbols = readFrom reading builder (shownSource read).length rest := by
  induction reached with
  | start => rfl
  | @next read rest symbol reading later builder built reached advanced induction =>
      have longer : (shownSource (read ++ [symbol])).length
          = (shownSource read).length + symbol.width := by
        rw [shownSource_append, List.length_append, ← length_shown]
        exact congrArg (_ + ·) (congrArg List.length (List.append_nil symbol.shown))
      rw [induction, readFrom_of_advance advanced, longer]

/-- A template that has the next symbol in the same place is read to it in the same way. -/
theorem continued (reached : ReadsTo symbols read reading builder (symbol :: rest))
    (other : List Symbol) :
    ReadsTo (read ++ symbol :: other) read reading builder (symbol :: other) := by
  generalize left : symbol :: rest = unread at reached
  induction reached generalizing symbol rest other with
  | start => exact .start
  | @next read unread last reading later builder built reached advanced induction =>
      subst left
      have earlier := induction (symbol :: other) rfl
      rw [List.append_assoc]
      refine .next earlier ?_
      cases symbol <;> exact advanced

theorem of_concat (reached : ReadsTo symbols (read ++ [symbol]) later built rest) :
    ∃ reading builder, ReadsTo symbols read reading builder (symbol :: rest) ∧
      advance reading builder symbol (Symbol.firstCharacter? rest) = .ok (later, built) := by
  generalize whole : read ++ [symbol] = through at reached
  cases reached with
  | start => cases List.append_ne_nil_of_right_ne_nil read (List.cons_ne_nil symbol []) whole
  | next reached advanced =>
      rcases List.append_inj' whole rfl with ⟨rfl, last⟩
      cases last
      exact ⟨_, _, reached, advanced⟩

theorem unique {otherReading : Reading} {otherBuilder : Builder} {otherRest : List Symbol}
    (first : ReadsTo symbols read reading builder rest)
    (second : ReadsTo symbols read otherReading otherBuilder otherRest) :
    reading = otherReading ∧ builder = otherBuilder ∧ rest = otherRest := by
  induction first generalizing otherReading otherBuilder otherRest with
  | start =>
      generalize nothing : ([] : List Symbol) = through at second
      cases second with
      | start => exact ⟨rfl, rfl, rfl⟩
      | next reached advanced =>
          cases List.append_ne_nil_of_right_ne_nil _ (List.cons_ne_nil _ []) nothing.symm
  | next reached advanced induction =>
      rcases second.of_concat with ⟨reading, builder, earlier, same⟩
      rcases induction earlier with ⟨rfl, rfl, rests⟩
      cases rests
      cases advanced.symm.trans same
      exact ⟨rfl, rfl, rfl⟩

/-! ### Going on -/

theorem giving {events : List Event}
    (reached : ReadsTo symbols read reading builder (symbol :: rest))
    (given : reading.read symbol (Symbol.firstCharacter? rest) = .ok (later, events))
    (applied : builder.applyAll events = .ok built) :
    ReadsTo symbols (read ++ [symbol]) later built rest := by
  refine .next reached ?_
  unfold advance
  rw [given]
  dsimp only [bind, Except.bind]
  rw [applied]
  rfl

theorem quietly (reached : ReadsTo symbols read reading builder (symbol :: rest))
    (given : reading.read symbol (Symbol.firstCharacter? rest) = Reading.quiet later) :
    ReadsTo symbols (read ++ [symbol]) later builder rest :=
  reached.giving given rfl

theorem bracket {run : List Char}
    (reached : ReadsTo symbols read (.text run) builder (.character '<' :: rest)) :
    ReadsTo symbols (read ++ [.character '<']) (.tagName [] none) (builder.flushed run) rest :=
  reached.giving rfl (builder.applyAll_textEvents run)

theorem gathering (state : List Char → Reading) {chars run : List Char}
    (reached : ReadsTo symbols read (state run) builder (chars.map .character ++ rest))
    (gathers : Gathers state chars run) :
    ReadsTo symbols (read ++ chars.map .character) (state (chars.reverse ++ run)) builder rest := by
  induction chars generalizing read run with
  | nil =>
      rw [List.map_nil, List.append_nil]
      exact reached
  | cons first others induction =>
      have goesOn := induction (reached.quietly (gathers.head _)) gathers.tail
      rw [List.append_assoc] at goesOn
      rw [List.reverse_cons, List.append_assoc]
      exact goesOn

/-- Right after a bracket, or after the hole that follows it, an opener opens. -/
theorem opening {opener : List Char} {hole : Option Nat}
    (reached : ReadsTo symbols read (.tagName [] hole) builder (opener.map .character ++ rest))
    (opens : IsOpener opener) :
    ReadsTo symbols (read ++ opener.map .character) (Reading.afterTagName opener.reverse hole)
      builder rest := by
  rcases opens.exists_lead hole with ⟨lead, last, rfl, gathers, ends⟩
  rw [List.map_append, List.append_assoc] at reached
  have gathered : ReadsTo symbols (read ++ lead.map .character)
      (.tagName (lead.reverse ++ []) hole) builder (.character last :: rest) :=
    reached.gathering (fun read => .tagName read hole) gathers
  rw [List.append_nil] at gathered
  rw [List.map_append, ← List.append_assoc]
  exact gathered.quietly (ends (Symbol.firstCharacter? rest))

/-- Reading comes to every place of a template that is accepted. -/
theorem exists_of_accepted (accepted : readSymbols (read ++ rest) = .ok nodes) :
    ∃ reading builder, ReadsTo (read ++ rest) read reading builder rest := by
  induction read using List.reverseRecOn generalizing rest with
  | nil => exact ⟨_, _, .start⟩
  | append_singleton read symbol induction =>
      rw [List.append_assoc] at accepted ⊢
      rcases induction accepted with ⟨reading, builder, reached⟩
      rw [reached.readSymbols_eq] at accepted
      rcases exists_advance_of_readFrom accepted with ⟨later, built, advanced⟩
      exact ⟨later, built, .next reached advanced⟩

theorem finish_of_accepted (reached : ReadsTo symbols read reading builder [])
    (accepted : readSymbols symbols = .ok nodes) : finishReading reading builder = .ok nodes := by
  rw [reached.readSymbols_eq, readFrom] at accepted
  cases finished : finishReading reading builder with
  | error cause => rw [finished] at accepted; cases accepted
  | ok final => rw [finished] at accepted; cases accepted; rfl

/-- Reading comes to the end of a template that is accepted. -/
theorem exists_finish_of_accepted (accepted : readSymbols symbols = .ok nodes) :
    ∃ reading builder, ReadsTo symbols symbols reading builder [] ∧
      finishReading reading builder = .ok nodes := by
  have whole : readSymbols (symbols ++ []) = .ok nodes := (List.append_nil symbols).symm ▸ accepted
  rcases exists_of_accepted whole with ⟨reading, builder, reached⟩
  rw [List.append_nil] at reached
  exact ⟨reading, builder, reached, reached.finish_of_accepted accepted⟩

end ReadsTo
end HtmlStream.Template
