import HtmlStream.Proofs.Template.Mentions
import HtmlStream.Proofs.Template.Progress
import HtmlStream.Template.Nesting

/-!
Tags are read as they are written. What is left of a tag after its name can be read exactly if it is
written with some mentions, and then the attributes of these mentions are added to the tag. The main
statements are `exists_event_of_writesMentions` and `exists_writesMentions`.
-/
namespace HtmlStream.Template

variable {reading next : Reading} {symbol : Symbol} {source rest : List Symbol} {tag : Tag}
  {events : List Event} {name : List Char}

/-! ## The next symbol -/

theorem eventsFrom_giving {given : List Event}
    (read : reading.read symbol (Symbol.firstCharacter? rest) = .ok (next, given)) :
    eventsFrom reading (symbol :: rest) = (eventsFrom next rest).map (given ++ ·) := by
  rw [eventsFrom, read]
  dsimp only [bind, Except.bind]
  cases eventsFrom next rest <;> rfl

theorem eventsFrom_quiet
    (read : reading.read symbol (Symbol.firstCharacter? rest) = Reading.quiet next) :
    eventsFrom reading (symbol :: rest) = eventsFrom next rest := by
  rw [eventsFrom_giving read]
  cases eventsFrom next rest <;> rfl

theorem eventsFrom_character_quiet {character : Char}
    (read : ∀ following, reading.readCharacter character following = Reading.quiet next)
    (rest : List Symbol) : eventsFrom reading (.character character :: rest) = eventsFrom next rest :=
  eventsFrom_quiet (read (Symbol.firstCharacter? rest))

theorem eventsFrom_character_giving {character : Char} {event : Event}
    (read : ∀ following, reading.readCharacter character following = .ok (next, [event]))
    (rest : List Symbol) :
    eventsFrom reading (.character character :: rest)
      = (eventsFrom next rest).map (event :: ·) :=
  @eventsFrom_giving reading next (.character character) rest [event]
    (read (Symbol.firstCharacter? rest))

theorem eventsFrom_hole_quiet {index : Nat}
    (read : reading.readHole index = Reading.quiet next) (rest : List Symbol) :
    eventsFrom reading (.hole index :: rest) = eventsFrom next rest :=
  eventsFrom_quiet read

theorem not_eventsFrom_of_refused {cause : SyntaxCause}
    (refused : reading.read symbol (Symbol.firstCharacter? rest) = .error cause) :
    eventsFrom reading (symbol :: rest) ≠ .ok events := by
  rw [eventsFrom, refused]
  exact nofun

/-- Characters that are only gathered, each after those before it. -/
theorem eventsFrom_gathering (state : List Char → Reading) {chars run : List Char}
    (gathers : Gathers state chars run) (rest : List Symbol) :
    eventsFrom (state run) (chars.map .character ++ rest)
      = eventsFrom (state (chars.reverse ++ run)) rest := by
  induction chars generalizing run with
  | nil => rfl
  | cons first others induction =>
      rw [List.reverse_cons, List.append_assoc]
      exact (eventsFrom_character_quiet gathers.head _).trans (induction gathers.tail)

/-- Characters that change nothing. -/
theorem eventsFrom_skipping {chars : List Char}
    (skips : ∀ character ∈ chars, ∀ following,
      reading.readCharacter character following = Reading.quiet reading) (rest : List Symbol) :
    eventsFrom reading (chars.map .character ++ rest) = eventsFrom reading rest := by
  induction chars with
  | nil => rfl
  | cons first others induction =>
      rcases List.forall_mem_cons.mp skips with ⟨here, later⟩
      exact (eventsFrom_character_quiet here _).trans (induction later)

/-! ## Names -/

theorem ne_of_isBlank {character other : Char} (blank : Text.isBlank character = true)
    (notBlank : Text.isBlank other = false) : character ≠ other := by
  rintro rfl
  exact absurd blank (by rw [notBlank]; decide)

theorem eventsFrom_attributes_blank {character : Char} (blank : Text.isBlank character = true)
    (tag : Tag) (rest : List Symbol) :
    eventsFrom (.attributes tag) (.character character :: rest)
      = eventsFrom (.attributes tag) rest := by
  refine eventsFrom_character_quiet (fun _ => ?_) rest
  show Reading.inAttributes _ _ = _
  rw [Reading.inAttributes, if_pos blank]

theorem eventsFrom_selfClosing_blanks {blanks : List Char}
    (blank : ∀ character ∈ blanks, Text.isBlank character = true) (rest : List Symbol) :
    eventsFrom (.selfClosing tag) (blanks.map .character ++ rest)
      = eventsFrom (.selfClosing tag) rest := by
  refine eventsFrom_skipping (fun character member _ => ?_) rest
  show Reading.inSelfClosing _ _ = _
  rw [Reading.inSelfClosing, if_neg (ne_of_isBlank (blank character member) rfl),
    if_pos (blank character member)]

theorem eventsFrom_attributes_name (isName : IsMentionName name) (tag : Tag)
    (rest : List Symbol) :
    eventsFrom (.attributes tag) (name.map .character ++ rest)
      = eventsFrom (.attributeName tag name.reverse) rest := by
  have unbroken := isName.unbroken
  have unquoted := isName.unquoted
  rcases List.exists_cons_of_ne_nil isName.nonempty with ⟨first, others, rfl⟩
  rcases List.forall_mem_cons.mp unbroken with ⟨⟨goesOn, noEquals⟩, later⟩
  rcases unquoted first rfl with ⟨notDouble, notSingle⟩
  have starts : ∀ following, (Reading.attributes tag).readCharacter first following
      = Reading.quiet (.attributeName tag [first]) :=
    fun _ => Reading.inAttributes_of_isNameCharacter goesOn noEquals notDouble notSingle
  rw [List.reverse_cons]
  exact (eventsFrom_character_quiet starts _).trans
    (eventsFrom_gathering _ (Reading.gathers_attributeName tag [first] later) rest)

/-- What ends a name is read as if the attribute had been there before. -/
theorem eventsFrom_attributeName_of_endsName (ends : EndsName rest) :
    eventsFrom (.attributeName tag name) rest
      = eventsFrom (.attributes (Reading.withBare tag name)) rest := by
  cases ends with
  | blank blank =>
      rw [eventsFrom_attributes_blank blank]
      refine eventsFrom_character_quiet (fun _ => ?_) _
      show Reading.inAttributeName _ _ _ = _
      rw [Reading.inAttributeName, if_neg (ne_of_isBlank blank rfl), if_pos blank]
  | slash => rfl
  | close => rfl

/-! ## Values -/

theorem eventsFrom_attributeValue_blanks {blanks : List Char}
    (blank : ∀ character ∈ blanks, Text.isBlank character = true) (rest : List Symbol) :
    eventsFrom (.attributeValue tag name) (blanks.map .character ++ rest)
      = eventsFrom (.attributeValue tag name) rest := by
  refine eventsFrom_skipping (fun character member _ => ?_) rest
  have isBlank := blank character member
  have unquoted : (character = '"' || character = '\'') = false := by
    simp [ne_of_isBlank isBlank (show Text.isBlank '"' = false from rfl),
      ne_of_isBlank isBlank (show Text.isBlank '\'' = false from rfl)]
  show Reading.inAttributeValue _ _ _ = _
  rw [Reading.inAttributeValue, unquoted, if_neg Bool.false_ne_true, if_pos isBlank]

theorem eventsFrom_attributeValue_quote {quote : Char} (isQuote : quote = '"' ∨ quote = '\'')
    (rest : List Symbol) :
    eventsFrom (.attributeValue tag name) (.character quote :: rest)
      = eventsFrom (.quotedValue tag name quote []) rest := by
  rcases isQuote with rfl | rfl <;> exact eventsFrom_character_quiet (fun _ => rfl) rest

theorem eventsFrom_quotedValue {quote : Char} {content : List Symbol}
    (within : .character quote ∉ content) (pieces : List Piece) (rest : List Symbol) :
    eventsFrom (.quotedValue tag name quote pieces) (content ++ .character quote :: rest)
      = eventsFrom (.attributes (Reading.withValue tag name (content.foldl gatherSymbol pieces)))
        rest := by
  induction content generalizing pieces with
  | nil =>
      refine eventsFrom_character_quiet (fun _ => ?_) rest
      show Reading.inQuotedValue _ _ _ _ _ = _
      rw [Reading.inQuotedValue, if_pos rfl]
      rfl
  | cons symbol later induction =>
      have further : .character quote ∉ later := fun member =>
        within (List.mem_cons_of_mem symbol member)
      have differs : symbol ≠ .character quote := by
        rintro rfl
        exact within List.mem_cons_self
      refine Eq.trans ?_ (induction further (gatherSymbol pieces symbol))
      cases symbol with
      | hole index => exact eventsFrom_hole_quiet rfl _
      | character given =>
          refine eventsFrom_character_quiet (fun _ => ?_) _
          show Reading.inQuotedValue _ _ _ _ _ = _
          rw [Reading.inQuotedValue, if_neg fun same => differs (congrArg _ same)]
          rfl

theorem read_unquotedValue_of_not_endsValue (goesOn : ¬ EndsValue (symbol :: rest))
    (pieces : List Piece) :
    (Reading.unquotedValue tag name pieces).read symbol (Symbol.firstCharacter? rest)
      = Reading.quiet (.unquotedValue tag name (gatherSymbol pieces symbol)) := by
  cases symbol with
  | hole index => rfl
  | character given =>
      have notBlank : ¬ Text.isBlank given = true := fun blank => goesOn (.blank blank)
      have notBracket : given ≠ '>' := by
        rintro rfl
        exact goesOn .close
      have notClosing : ¬ (given = '/' && Symbol.firstCharacter? rest = some '>') = true := by
        intro closing
        simp only [Bool.and_eq_true, decide_eq_true_eq] at closing
        rcases closing with ⟨rfl, follows⟩
        rcases rest with _ | ⟨_ | index, rest⟩ <;> cases follows
        exact goesOn .selfClose
      show Reading.inUnquotedValue _ _ _ _ _ = _
      rw [Reading.inUnquotedValue, if_neg notBlank, if_neg notBracket, if_neg notClosing]
      rfl

/-- What ends a value is read as if the attribute had been there before. -/
theorem eventsFrom_unquotedValue_of_endsValue (ends : EndsValue rest) (pieces : List Piece) :
    eventsFrom (.unquotedValue tag name pieces) rest
      = eventsFrom (.attributes (Reading.withValue tag name pieces)) rest := by
  cases ends with
  | blank blank =>
      rw [eventsFrom_attributes_blank blank]
      refine eventsFrom_character_quiet (fun _ => ?_) _
      show Reading.inUnquotedValue _ _ _ _ _ = _
      rw [Reading.inUnquotedValue, if_pos blank]
  | close => rfl
  | selfClose => rfl

theorem eventsFrom_unquotedValue {content : List Symbol}
    (goesOn : ∀ shorter longer, content = shorter ++ longer → longer ≠ [] →
      ¬ EndsValue (longer ++ rest))
    (ends : EndsValue rest) (pieces : List Piece) :
    eventsFrom (.unquotedValue tag name pieces) (content ++ rest)
      = eventsFrom (.attributes (Reading.withValue tag name (content.foldl gatherSymbol pieces)))
        rest := by
  induction content generalizing pieces with
  | nil => exact eventsFrom_unquotedValue_of_endsValue ends pieces
  | cons symbol later induction =>
      have here : ¬ EndsValue (symbol :: (later ++ rest)) :=
        goesOn [] (symbol :: later) rfl (List.cons_ne_nil _ _)
      have further : ∀ shorter longer, later = shorter ++ longer → longer ≠ [] →
          ¬ EndsValue (longer ++ rest) :=
        fun shorter longer whole =>
          goesOn (symbol :: shorter) longer (congrArg (symbol :: ·) whole)
      exact (eventsFrom_quiet (read_unquotedValue_of_not_endsValue here pieces)).trans
        (induction further (gatherSymbol pieces symbol))

theorem eventsFrom_attributeValue_of_beginsValue (begins : BeginsValue symbol)
    (rest : List Symbol) :
    eventsFrom (.attributeValue tag name) (symbol :: rest)
      = eventsFrom (.unquotedValue tag name (gatherSymbol [] symbol)) rest := by
  cases symbol with
  | hole index => exact eventsFrom_hole_quiet rfl rest
  | character given =>
      rcases begins given rfl with ⟨notBlank, notBracket, notDouble, notSingle⟩
      refine eventsFrom_character_quiet (fun _ => ?_) rest
      show Reading.inAttributeValue _ _ _ = _
      simp [Reading.inAttributeValue, notBlank, notBracket, notDouble, notSingle, gatherSymbol]

/-- The first symbol of a value without quotes begins it. -/
theorem eventsFrom_attributeValue_of_isUnquoted {content : List Symbol}
    (isUnquoted : IsUnquoted content rest) :
    eventsFrom (.attributeValue tag name) (content ++ rest)
      = eventsFrom (.attributes (Reading.withValue tag name (gatherPieces content))) rest := by
  rcases isUnquoted.begins with ⟨first, begins, allowed⟩
  rcases content with _ | ⟨symbol, later⟩
  · cases begins
  cases begins
  have further : ∀ shorter longer, later = shorter ++ longer → longer ≠ [] →
      ¬ EndsValue (longer ++ rest) :=
    fun shorter longer whole =>
      isUnquoted.goesOn (first :: shorter) longer (congrArg (first :: ·) whole)
        (List.cons_ne_nil _ _)
  exact (eventsFrom_attributeValue_of_beginsValue allowed (later ++ rest)).trans
    (eventsFrom_unquotedValue further isUnquoted.ends (gatherSymbol [] first))

/-! ## Mentions -/

theorem withBare_reverse (tag : Tag) (name : List Char) :
    Reading.withBare tag name.reverse = Reading.withAttribute tag (Mention.bare name).attribute := by
  rw [Reading.withBare, Reading.nameOf, List.reverse_reverse]
  rfl

theorem withValue_reverse (tag : Tag) (name : List Char) (content : List Symbol) :
    Reading.withValue tag name.reverse (gatherPieces content)
      = Reading.withAttribute tag (Mention.valued name content).attribute := by
  rw [Reading.withValue, Reading.nameOf, List.reverse_reverse]
  rfl

/-- The dots before the hole of a mapping are read like a name. -/
theorem isMentionName_dots : IsMentionName "...".toList where
  nonempty := by decide
  unbroken := by
    intro character member
    have dots : "...".toList = List.replicate 3 '.' := rfl
    rw [dots] at member
    rw [List.eq_of_mem_replicate member]
    exact ⟨⟨by decide, by decide, by decide⟩, by decide⟩
  unquoted := by
    rintro _ ⟨⟩
    exact ⟨by decide, by decide⟩

/-- A mention adds its attribute. -/
theorem eventsFrom_attributes_mention {mention : Mention}
    (written : WritesMention source mention rest) (tag : Tag) :
    eventsFrom (.attributes tag) source
      = eventsFrom (.attributes (Reading.withAttribute tag mention.attribute)) rest := by
  cases written with
  | bare isName ends =>
      rw [eventsFrom_attributes_name isName, eventsFrom_attributeName_of_endsName ends,
        withBare_reverse]
  | quoted isName blank isQuote within =>
      rw [eventsFrom_attributes_name isName, eventsFrom_character_quiet (fun _ => rfl),
        eventsFrom_attributeValue_blanks blank, eventsFrom_attributeValue_quote isQuote,
        eventsFrom_quotedValue within, ← withValue_reverse]
      rfl
  | unquoted isName blank isUnquoted =>
      rw [eventsFrom_attributes_name isName, eventsFrom_character_quiet (fun _ => rfl),
        eventsFrom_attributeValue_blanks blank,
        eventsFrom_attributeValue_of_isUnquoted isUnquoted, withValue_reverse]
  | spread index rest =>
      rw [eventsFrom_attributes_name isMentionName_dots]
      exact eventsFrom_hole_quiet rfl rest

/-! ## Tags -/

def Event.tag? : Event → Option Tag
  | .empty tag | .opening tag => some tag
  | .text _ | .markup _ | .hole _ | .closing _ => none

theorem tag?_openEvent (tag : Tag) :
    (Reading.openEvent tag).tag? = some (Reading.finished tag) := by
  unfold Reading.openEvent
  split
  · split <;> rfl
  · rfl

/-- The attributes of all mentions are in the event of the tag, in their order. -/
theorem exists_event_of_writesMentions {mentions : List Mention}
    (written : WritesMentions source mentions rest) (tag : Tag) :
    ∃ event : Event,
      event.tag? = some ⟨tag.name, tag.attributes.reverse ++ mentions.map Mention.attribute⟩ ∧
      eventsFrom (.attributes tag) source = (eventsFrom (.text []) rest).map (event :: ·) := by
  induction written generalizing tag with
  | blank blank _ induction =>
      rw [eventsFrom_attributes_blank blank]
      exact induction tag
  | close rest =>
      refine ⟨Reading.openEvent tag, ?_, eventsFrom_character_giving (fun _ => rfl) rest⟩
      rw [tag?_openEvent, List.map_nil, List.append_nil]
      rfl
  | selfClose blank rest =>
      refine ⟨.empty (Reading.finished tag), ?_, ?_⟩
      · rw [List.map_nil, List.append_nil]
        rfl
      · rw [eventsFrom_character_quiet (fun _ => rfl), eventsFrom_selfClosing_blanks blank]
        exact eventsFrom_character_giving (fun _ => rfl) rest
  | mention first _ induction =>
      rename_i mention _ _ _ mentions _
      rw [eventsFrom_attributes_mention first]
      rcases induction (Reading.withAttribute tag mention.attribute) with ⟨event, tagged, given⟩
      refine ⟨event, tagged.trans ?_, given⟩
      show some (Tag.mk tag.name ((mention.attribute :: tag.attributes).reverse ++ _)) = _
      rw [List.reverse_cons, List.append_assoc]
      rfl

/-! ## What can be read -/

theorem exists_blanks_of_selfClosing (accepted : eventsFrom (.selfClosing tag) source = .ok events) :
    ∃ (blanks : List Char) (rest : List Symbol),
      (∀ character ∈ blanks, Text.isBlank character = true) ∧
        source = blanks.map .character ++ .character '>' :: rest := by
  rcases exists_characters_and_end (Text.isBlank · = true) source with
    ⟨blanks, after, rfl, blank, ended⟩
  rw [eventsFrom_selfClosing_blanks blank] at accepted
  rcases after with _ | ⟨given | index, rest⟩
  · cases accepted
  · by_cases bracket : given = '>'
    · subst bracket
      exact ⟨blanks, rest, blank, rfl⟩
    · have refused : Reading.inSelfClosing tag given = .error .unexpectedAfterSlash := by
        rw [Reading.inSelfClosing, if_neg bracket, if_neg (ended given rfl)]
      exact absurd accepted (not_eventsFrom_of_refused refused)
  · cases accepted

theorem exists_content_of_quotedValue {quote : Char} {pieces : List Piece}
    (accepted : eventsFrom (.quotedValue tag name quote pieces) source = .ok events) :
    ∃ content rest, .character quote ∉ content ∧ source = content ++ .character quote :: rest := by
  induction source generalizing pieces with
  | nil => cases accepted
  | cons symbol later induction =>
      by_cases closes : symbol = .character quote
      · subst closes
        exact ⟨[], later, List.not_mem_nil, rfl⟩
      · have goesOn : (Reading.quotedValue tag name quote pieces).read symbol
              (Symbol.firstCharacter? later)
            = Reading.quiet (.quotedValue tag name quote (gatherSymbol pieces symbol)) := by
          cases symbol with
          | hole index => rfl
          | character given =>
              show Reading.inQuotedValue _ _ _ _ _ = _
              rw [Reading.inQuotedValue, if_neg fun same => closes (congrArg _ same)]
              rfl
        rw [eventsFrom_quiet goesOn] at accepted
        rcases induction accepted with ⟨content, rest, within, rfl⟩
        refine ⟨symbol :: content, rest, ?_, rfl⟩
        exact List.not_mem_cons_of_ne_of_not_mem (Ne.symm closes) within

theorem exists_content_of_unquotedValue {pieces : List Piece}
    (accepted : eventsFrom (.unquotedValue tag name pieces) source = .ok events) :
    ∃ content rest, source = content ++ rest ∧ EndsValue rest ∧
      ∀ shorter longer, content = shorter ++ longer → longer ≠ [] → ¬ EndsValue (longer ++ rest) := by
  induction source generalizing pieces with
  | nil => cases accepted
  | cons symbol later induction =>
      by_cases ends : EndsValue (symbol :: later)
      · refine ⟨[], symbol :: later, rfl, ends, ?_⟩
        intro shorter longer none some
        exact absurd (List.append_eq_nil_iff.mp none.symm).2 some
      · rw [eventsFrom_quiet (read_unquotedValue_of_not_endsValue ends pieces)] at accepted
        rcases induction accepted with ⟨content, rest, rfl, ended, goesOn⟩
        refine ⟨symbol :: content, rest, rfl, ended, ?_⟩
        intro shorter longer whole some
        rcases shorter with _ | ⟨first, others⟩
        · rw [List.nil_append] at whole
          exact whole ▸ ends
        · exact goesOn others longer (List.cons.inj whole).2 some

/-- What a value without quotes begins with does not end it, and it goes on to where it ends. -/
theorem exists_writesMention_of_beginsValue {blanks : List Char} (isName : IsMentionName name)
    (blank : ∀ character ∈ blanks, Text.isBlank character = true) (begins : BeginsValue symbol)
    (accepted : eventsFrom (.attributeValue tag name.reverse) (symbol :: source) = .ok events) :
    ∃ mention rest, WritesMention (name.map .character ++ .character '=' :: (blanks.map .character
      ++ symbol :: source)) mention rest := by
  rw [eventsFrom_attributeValue_of_beginsValue begins] at accepted
  rcases exists_content_of_unquotedValue accepted with ⟨content, rest, rfl, ended, goesOn⟩
  have isUnquoted : IsUnquoted (symbol :: content) rest := by
    refine ⟨⟨symbol, rfl, begins⟩, ?_, ended⟩
    intro shorter longer whole notFirst some
    rcases shorter with _ | ⟨first, others⟩
    · exact absurd rfl notFirst
    · exact goesOn others longer (List.cons.inj whole).2 some
  exact ⟨_, _, .unquoted isName blank isUnquoted⟩

theorem exists_writesMention_of_value (isName : IsMentionName name)
    (accepted : eventsFrom (.attributeValue tag name.reverse) source = .ok events) :
    ∃ mention rest, WritesMention (name.map .character ++ .character '=' :: source) mention rest := by
  rcases exists_characters_and_end (Text.isBlank · = true) source with
    ⟨blanks, after, rfl, blank, ended⟩
  rw [eventsFrom_attributeValue_blanks blank] at accepted
  rcases after with _ | ⟨given | index, later⟩
  · cases accepted
  · by_cases isQuote : given = '"' ∨ given = '\''
    · rw [eventsFrom_attributeValue_quote isQuote] at accepted
      rcases exists_content_of_quotedValue accepted with ⟨content, rest, within, rfl⟩
      exact ⟨_, _, .quoted isName blank isQuote within⟩
    rcases not_or.mp isQuote with ⟨notDouble, notSingle⟩
    by_cases bracket : given = '>'
    · subst bracket
      cases accepted
    have begins : BeginsValue (.character given) := by
      rintro _ ⟨⟩
      exact ⟨Bool.not_eq_true _ ▸ ended given rfl, bracket, notDouble, notSingle⟩
    exact exists_writesMention_of_beginsValue isName blank begins accepted
  · exact exists_writesMention_of_beginsValue isName blank nofun accepted

theorem endsName_of_not_isNameCharacter {character : Char} (ends : ¬ IsNameCharacter character)
    (rest : List Symbol) : EndsName (.character character :: rest) := by
  by_cases blank : Text.isBlank character = true
  · exact .blank blank
  by_cases slash : character = '/'
  · exact slash ▸ .slash
  by_cases bracket : character = '>'
  · exact bracket ▸ .close
  exact absurd ⟨Bool.not_eq_true _ ▸ blank, slash, bracket⟩ ends

/-- A name goes on to an equals sign or to where it ends, unless it is the dots before a hole. -/
theorem exists_writesMention {first : Char} (goesOn : IsNameCharacter first)
    (accepted : eventsFrom (.attributes tag) (.character first :: source) = .ok events) :
    ∃ mention rest, WritesMention (.character first :: source) mention rest := by
  by_cases refusal : first = '"' ∨ first = '\'' ∨ first = '='
  · have refused : Reading.inAttributes tag first = .error (.unexpectedInTag first) := by
      rcases refusal with rfl | rfl | rfl <;> rfl
    exact absurd accepted (not_eventsFrom_of_refused refused)
  simp only [not_or] at refusal
  rcases refusal with ⟨notDouble, notSingle, noEquals⟩
  rcases exists_characters_and_end (fun character => IsNameCharacter character ∧ character ≠ '=')
    source with ⟨others, after, rfl, unbroken, ended⟩
  have isName : IsMentionName (first :: others) :=
    ⟨List.cons_ne_nil _ _, List.forall_mem_cons.mpr ⟨⟨goesOn, noEquals⟩, unbroken⟩, by
      rintro _ ⟨⟩
      exact ⟨notDouble, notSingle⟩⟩
  have named := eventsFrom_attributes_name isName tag after
  rw [List.map_cons, List.cons_append, accepted] at named
  rcases after with _ | ⟨given | index, later⟩
  · cases named
  · by_cases equals : given = '='
    · subst equals
      exact exists_writesMention_of_value isName
        (named.trans (eventsFrom_character_quiet (fun _ => rfl) later)).symm
    · have ends : ¬ IsNameCharacter given := fun isOne => ended given rfl ⟨isOne, equals⟩
      exact ⟨_, _, .bare isName (endsName_of_not_isNameCharacter ends later)⟩
  · by_cases dots : Reading.nameOf (first :: others).reverse = "..."
    · rw [Reading.nameOf, List.reverse_reverse] at dots
      have spelled : first :: others = "...".toList := by rw [← dots, String.toList_ofList]
      have written := WritesMention.spread index later
      rw [← spelled] at written
      exact ⟨_, _, written⟩
    · have refused : (Reading.attributeName tag (first :: others).reverse).readHole index
          = .error .holeInAttributeName := by
        rw [Reading.readHole, if_neg dots]
      exact absurd named.symm (not_eventsFrom_of_refused refused)

theorem WritesMention.length_lt {mention : Mention} (written : WritesMention source mention rest) :
    rest.length < source.length := by
  cases written with
  | bare isName ends =>
      have some := List.length_pos_iff.mpr isName.nonempty
      rw [List.length_append, List.length_map]
      omega
  | quoted => simp only [List.length_append, List.length_cons]; omega
  | unquoted => simp only [List.length_append, List.length_cons]; omega
  | spread => simp only [List.length_append, List.length_cons]; omega

theorem WritesMentions.length_lt {mentions : List Mention}
    (written : WritesMentions source mentions rest) : rest.length < source.length := by
  induction written with
  | blank _ _ induction => exact Nat.lt_succ_of_lt induction
  | close rest => exact Nat.lt_succ_self _
  | selfClose _ rest => simp only [List.length_append, List.length_cons]; omega
  | mention first _ induction => exact Nat.lt_trans induction first.length_lt

/-- What can be read after the name of a tag is written with some mentions. -/
theorem exists_writesMentions (accepted : eventsFrom (.attributes tag) source = .ok events) :
    ∃ mentions rest, WritesMentions source mentions rest := by
  induction length : source.length using Nat.strongRecOn generalizing tag source with
  | ind count induction =>
      rcases source with _ | ⟨first | index, later⟩
      · cases accepted
      · by_cases goesOn : IsNameCharacter first
        · rcases exists_writesMention goesOn accepted with ⟨mention, between, written⟩
          rw [eventsFrom_attributes_mention written] at accepted
          rcases induction _ (length ▸ written.length_lt) accepted rfl with ⟨mentions, rest, others⟩
          exact ⟨_, _, .mention written others⟩
        · rcases endsName_of_not_isNameCharacter goesOn later with blank | _ | _
          · rw [eventsFrom_attributes_blank blank] at accepted
            rcases induction _ (length ▸ Nat.lt_succ_self _) accepted rfl
              with ⟨mentions, rest, others⟩
            exact ⟨_, _, .blank blank others⟩
          · rcases exists_blanks_of_selfClosing
              ((eventsFrom_character_quiet (fun _ => rfl) later).symm.trans accepted)
              with ⟨blanks, rest, blank, rfl⟩
            exact ⟨_, _, .selfClose blank rest⟩
          · exact ⟨_, _, .close later⟩
      · cases accepted

end HtmlStream.Template
