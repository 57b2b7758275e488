import HtmlStream.Proofs.Template.Comments
import HtmlStream.Proofs.Template.TagReading

/-!
Templates are read as they are written. A template can be read to its end exactly if it is written with
some tags, and the events of these tags are the only ones that begin elements. The main statements are
`exists_events_of_writesTags` and `exists_writesTags`.
-/
namespace HtmlStream.Template

variable {symbols source rest : List Symbol} {hole : Option Nat} {events : List Event}

/-- The tag that is read. -/
def WrittenTag.tag (written : WrittenTag) : Tag :=
  ⟨written.name, written.mentions.map Mention.attribute⟩

theorem filterMap_tag?_textEvents (run : List Char) :
    (Reading.textEvents run).filterMap Event.tag? = [] := by
  unfold Reading.textEvents
  dsimp only
  split <;> rfl

/-! ## After a bracket -/

theorem eventsFrom_bracket (run : List Char) (rest : List Symbol) :
    eventsFrom (.text run) (.character '<' :: rest)
      = (eventsFrom (.tagName [] none) rest).map (Reading.textEvents run ++ ·) :=
  @eventsFrom_giving (.text run) _ (.character '<') rest _ rfl

theorem eventsFrom_holeSymbols (hole : Option Nat) (rest : List Symbol) :
    eventsFrom (.tagName [] none) (holeSymbols hole ++ rest)
      = eventsFrom (.tagName [] hole) rest := by
  cases hole with
  | none => rfl
  | some index => exact eventsFrom_hole_quiet rfl rest

/-- Right after a bracket, or after the hole that follows it, an opener opens. -/
theorem eventsFrom_opener {opener : List Char} (opens : IsOpener opener) (hole : Option Nat)
    (rest : List Symbol) :
    eventsFrom (.tagName [] hole) (opener.map .character ++ rest)
      = eventsFrom (Reading.afterTagName opener.reverse hole) rest := by
  rcases opens.exists_lead hole with ⟨lead, last, rfl, gathers, ends⟩
  have gathered := eventsFrom_gathering (fun read => .tagName read hole) gathers
    (.character last :: rest)
  rw [List.append_nil] at gathered
  rw [List.map_append, List.append_assoc]
  exact gathered.trans (eventsFrom_character_quiet ends rest)

theorem eventsFrom_tagName {name : List Char}
    (unbroken : ∀ character ∈ name, IsNameCharacter character)
    (plain : ∀ shorter, shorter <+: name → ¬ IsOpener shorter) (hole : Option Nat)
    (rest : List Symbol) :
    eventsFrom (.tagName [] hole) (name.map .character ++ rest)
      = eventsFrom (.tagName name.reverse hole) rest := by
  have gathered := eventsFrom_gathering (fun read => .tagName read hole)
    (gathers_tagName hole unbroken plain) rest
  rwa [List.append_nil] at gathered

/-- What has begun with a hole or with a character is no closing tag, and takes no hole. -/
theorem fresh_eq_false {name : List Char} (named : hole.isSome ∨ name ≠ []) :
    (name.reverse.isEmpty && hole.isNone) = false := by
  rcases named with held | some
  · rw [Option.isNone_eq_false_iff.mpr held, Bool.and_false]
  · rw [List.isEmpty_reverse, List.isEmpty_eq_false_iff.mpr some, Bool.false_and]

theorem beginTag_reverse {name : List Char} (named : hole.isSome ∨ name ≠ []) :
    Reading.beginTag name.reverse hole = .ok ⟨tagNameOf hole name, []⟩ := by
  cases hole with
  | some index => rfl
  | none =>
      have some : name ≠ [] := named.resolve_left (by decide)
      rw [Reading.beginTag, List.isEmpty_reverse, List.isEmpty_eq_false_iff.mpr some,
        Reading.nameOf, List.reverse_reverse]
      rfl

/-- What ends the name of a tag is read as if the tag had been there before. -/
theorem eventsFrom_tagName_of_endsName {name : List Char} (named : hole.isSome ∨ name ≠ [])
    (ends : EndsName rest) :
    eventsFrom (.tagName name.reverse hole) rest
      = eventsFrom (.attributes ⟨tagNameOf hole name, []⟩) rest := by
  have begun := beginTag_reverse named
  cases ends with
  | blank blank =>
      have notSlash := ne_of_isBlank blank (show Text.isBlank '/' = false from rfl)
      rw [eventsFrom_attributes_blank blank]
      refine eventsFrom_character_quiet (fun _ => ?_) _
      show Reading.inTagName _ _ _ = _
      simp only [Reading.inTagName, notSlash, decide_false, Bool.false_and, Bool.false_eq_true,
        if_false, blank, if_true, begun]
      rfl
  | slash =>
      have read : ∀ following, (Reading.tagName name.reverse hole).readCharacter '/' following
          = Reading.quiet (.selfClosing ⟨tagNameOf hole name, []⟩) := by
        intro following
        show Reading.inTagName _ _ _ = _
        rw [Reading.inTagName, Bool.and_assoc, fresh_eq_false named, Bool.and_false, begun]
        rfl
      exact (eventsFrom_character_quiet read _).trans
        (eventsFrom_character_quiet (fun _ => rfl) _).symm
  | close =>
      have read : ∀ following, (Reading.tagName name.reverse hole).readCharacter '>' following
          = .ok (.text [], [Reading.openEvent ⟨tagNameOf hole name, []⟩]) := by
        intro following
        show Reading.inTagName _ _ _ = _
        rw [Reading.inTagName, begun]
        rfl
      exact (eventsFrom_character_giving read _).trans
        (eventsFrom_character_giving (fun _ => rfl) _).symm

theorem eventsFrom_isSpelled {name : List Char} (spelled : IsSpelled hole name source) :
    eventsFrom (.tagName [] none) (holeSymbols hole ++ (name.map .character ++ source))
      = eventsFrom (.attributes ⟨tagNameOf hole name, []⟩) source := by
  rw [eventsFrom_holeSymbols, eventsFrom_tagName spelled.unbroken spelled.plain,
    eventsFrom_tagName_of_endsName spelled.named spelled.ends]

/-! ## Parts without a tag -/

theorem exists_read_closingTag {symbol : Symbol} (goesOn : symbol ≠ .character '>')
    (name : List Char) :
    ∃ after, ∀ following, (Reading.closingTag name).read symbol following
      = Reading.quiet (.closingTag after) := by
  cases symbol with
  | hole index => exact ⟨name, fun _ => rfl⟩
  | character given =>
      have notBracket : given ≠ '>' := fun same => goesOn (congrArg _ same)
      show ∃ after, ∀ _, Reading.inClosingTag name given = _
      unfold Reading.inClosingTag
      rw [if_neg notBracket]
      split
      · exact ⟨_, fun _ => rfl⟩
      · exact ⟨_, fun _ => rfl⟩

/-- A closing tag ends with the first bracket. -/
theorem exists_eventsFrom_closingTag {inside : List Symbol} (within : .character '>' ∉ inside)
    (name : List Char) (rest : List Symbol) :
    ∃ given, eventsFrom (.closingTag name) (inside ++ .character '>' :: rest)
      = (eventsFrom (.text []) rest).map (.closing given :: ·) := by
  induction inside generalizing name with
  | nil => exact ⟨_, eventsFrom_character_giving (fun _ => rfl) rest⟩
  | cons symbol later induction =>
      rcases exists_read_closingTag (Ne.symm (List.ne_of_not_mem_cons within)) name
        with ⟨after, read⟩
      rcases induction (List.not_mem_of_not_mem_cons within) after with ⟨given, ended⟩
      exact ⟨given, (eventsFrom_quiet (read _)).trans ended⟩

theorem exists_inside_of_closingTag {name : List Char}
    (accepted : eventsFrom (.closingTag name) source = .ok events) :
    ∃ inside rest, .character '>' ∉ inside ∧ source = inside ++ .character '>' :: rest := by
  induction source generalizing name with
  | nil => cases accepted
  | cons symbol later induction =>
      by_cases ends : symbol = .character '>'
      · exact ⟨[], later, List.not_mem_nil, by rw [ends]; rfl⟩
      · rcases exists_read_closingTag ends name with ⟨after, read⟩
        rw [eventsFrom_quiet (read _)] at accepted
        rcases induction accepted with ⟨inside, rest, within, rfl⟩
        exact ⟨symbol :: inside, rest,
          List.not_mem_cons_of_ne_of_not_mem (Ne.symm ends) within, rfl⟩

theorem eventsFrom_comment_of_not_endsComment {seen inside : List Symbol}
    (none : ∀ shorter, shorter <+: inside → ¬ EndsComment (staticText (seen ++ shorter)))
    (rest : List Symbol) :
    eventsFrom (.comment ((staticText seen).reverse.take 2)) (inside ++ rest)
      = eventsFrom (.comment ((staticText (seen ++ inside)).reverse.take 2)) rest := by
  induction inside generalizing seen with
  | nil => rw [List.append_nil]; rfl
  | cons symbol later induction =>
      have here := none [symbol] (List.prefix_append [symbol] later)
      have further : ∀ shorter, shorter <+: later →
          ¬ EndsComment (staticText ((seen ++ [symbol]) ++ shorter)) := by
        intro shorter within
        rw [List.append_assoc]
        exact none _ (List.cons_prefix_cons.mpr ⟨rfl, within⟩)
      have goesOn := induction further
      rw [List.append_assoc] at goesOn
      exact (eventsFrom_quiet (read_comment_of_not_endsComment here _)).trans goesOn

/-- A comment is passed over up to its end. -/
theorem eventsFrom_comment {inside : List Symbol} (first : IsFirstEnd staticText inside source)
    (rest : List Symbol) :
    eventsFrom (.comment []) (inside ++ rest) = eventsFrom (.text []) rest := by
  rcases first.exists_concat with ⟨shorter, rfl, dashes⟩
  have goesOn := @eventsFrom_comment_of_not_endsComment [] shorter
    (first.not_endsComment rfl (List.cons_ne_nil _ _)) (.character '>' :: rest)
  rw [List.nil_append, dashes] at goesOn
  rw [List.append_assoc]
  exact goesOn.trans (eventsFrom_character_quiet (fun _ => rfl) rest)

theorem isFirstEnd_of_ends {inside : List Symbol} (ends : EndsComment (staticText inside))
    (first : ∀ shorter longer, inside = shorter ++ longer → longer ≠ [] →
      ¬ EndsComment (staticText shorter)) : IsFirstEnd staticText inside inside where
  within := List.prefix_rfl
  ends := ends
  first := by
    rintro shorter ⟨longer, whole⟩ ended
    by_cases more : longer = []
    · rw [← whole, more, List.append_nil]
    · exact absurd ended (first shorter longer whole.symm more)

theorem exists_inside_of_comment (accepted : eventsFrom (.comment []) source = .ok events) :
    ∃ inside rest, source = inside ++ rest ∧ IsFirstEnd staticText inside source := by
  rcases exists_isFirstEnd staticText (List.prefix_refl source) with none | ⟨inside, first, within⟩
  · have unterminated := @eventsFrom_comment_of_not_endsComment [] source none []
    rw [List.append_nil] at unterminated
    cases unterminated.symm.trans accepted
  · rcases within with ⟨rest, whole⟩
    exact ⟨inside, rest, whole.symm, first⟩

theorem gathers_declaration {inside : List Char} (within : ∀ character ∈ inside, character ≠ '>')
    (name : List Char) : Gathers .declaration inside name := by
  intro before character member _
  show Reading.inDeclaration _ _ = _
  rw [Reading.inDeclaration, if_neg (within character (mem_of_isPrefix member))]

/-- A declaration ends with the first bracket, too. -/
theorem exists_eventsFrom_declaration {inside : List Char} (within : '>' ∉ inside)
    (name : List Char) (rest : List Symbol) :
    ∃ content, eventsFrom (.declaration name) (inside.map .character ++ .character '>' :: rest)
      = (eventsFrom (.text []) rest).map (.markup content :: ·) := by
  have notBracket : ∀ character ∈ inside, character ≠ '>' :=
    fun character member same => within (same ▸ member)
  rw [eventsFrom_gathering _ (gathers_declaration notBracket name)]
  exact ⟨_, eventsFrom_character_giving (fun _ => rfl) rest⟩

theorem exists_inside_of_declaration {name : List Char}
    (accepted : eventsFrom (.declaration name) source = .ok events) :
    ∃ (inside : List Char) (rest : List Symbol), '>' ∉ inside ∧
      source = inside.map .character ++ .character '>' :: rest := by
  rcases exists_characters_and_end (· ≠ '>') source with ⟨inside, after, rfl, within, ended⟩
  rw [eventsFrom_gathering _ (gathers_declaration within name)] at accepted
  rcases after with _ | ⟨given | index, rest⟩
  · cases accepted
  · have bracket : given = '>' := Decidable.not_not.mp (ended given rfl)
    exact ⟨inside, rest, fun member => within '>' member rfl, by rw [bracket]⟩
  · cases accepted

/-! ## Parts -/

/-- Reading is in text again when it comes to `rest`, and these are the tags in the events before. -/
def Passes (reading : Reading) (source rest : List Symbol) (tags : List Tag) : Prop :=
  ∃ (given : List Event) (after : List Char), given.filterMap Event.tag? = tags ∧
    eventsFrom reading source = (eventsFrom (.text after) rest).map (given ++ ·)

namespace Passes

variable {reading : Reading} {tags : List Tag}

theorem refl (run : List Char) (rest : List Symbol) : Passes (.text run) rest rest [] := by
  refine ⟨[], run, rfl, ?_⟩
  cases eventsFrom (.text run) rest <;> rfl

theorem of_event {event : Event}
    (read : eventsFrom reading source = (eventsFrom (.text []) rest).map (event :: ·)) :
    Passes reading source rest event.tag?.toList := by
  refine ⟨[event], [], ?_, read⟩
  cases tagged : event.tag? with
  | none => exact List.filterMap_cons_none tagged
  | some tag => exact List.filterMap_cons_some tagged

theorem of_eq {other : Reading} {later : List Symbol}
    (same : eventsFrom reading source = eventsFrom other later)
    (passes : Passes other later rest tags) : Passes reading source rest tags := by
  unfold Passes
  rw [same]
  exact passes

/-- What is in text before a bracket is no tag. -/
theorem bracket (passes : Passes (.tagName [] none) source rest tags) (run : List Char) :
    Passes (.text run) (.character '<' :: source) rest tags := by
  rcases passes with ⟨given, after, tagged, read⟩
  refine ⟨Reading.textEvents run ++ given, after, ?_, ?_⟩
  · rw [List.filterMap_append, filterMap_tag?_textEvents, List.nil_append, tagged]
  · rw [eventsFrom_bracket, read]
    cases eventsFrom (.text after) rest with
    | error cause => rfl
    | ok later => exact congrArg Except.ok (List.append_assoc ..).symm

end Passes

/-- A part gives the event of its tag, and else only events without tags. -/
theorem passes_of_writesPart {tag? : Option WrittenTag} (written : WritesPart source tag? rest)
    (run : List Char) : Passes (.text run) source rest (tag?.map WrittenTag.tag).toList := by
  cases written with
  | character plain =>
      rename_i character
      have read : ∀ following, (Reading.text run).readCharacter character following
          = Reading.quiet (.text (character :: run)) := by
        intro following
        show Reading.inText _ _ = _
        rw [Reading.inText, if_neg plain]
      exact .of_eq (eventsFrom_character_quiet read rest) (.refl _ rest)
  | hole index =>
      refine ⟨Reading.textEvents run ++ [.hole index], [], ?_, eventsFrom_giving rfl⟩
      rw [List.filterMap_append, filterMap_tag?_textEvents]
      rfl
  | tag spelled written =>
      rename_i hole name _ _
      rcases exists_event_of_writesMentions written ⟨tagNameOf hole name, []⟩
        with ⟨event, tagged, read⟩
      have passes := Passes.of_event read
      rw [tagged] at passes
      exact (passes.of_eq (eventsFrom_isSpelled spelled)).bracket run
  | closing within =>
      rcases exists_eventsFrom_closingTag within [] rest with ⟨given, read⟩
      exact ((Passes.of_event read).of_eq (eventsFrom_character_quiet (fun _ => rfl) _)).bracket run
  | comment hole ends first =>
      have opens : IsOpener "!--".toList := .inl rfl
      refine Passes.bracket (.of_eq ?_ (.refl [] rest)) run
      rw [eventsFrom_holeSymbols, eventsFrom_opener opens, Reading.afterTagName_dashes]
      exact eventsFrom_comment (isFirstEnd_of_ends ends first) rest
  | declaration hole opens within =>
      rename_i opener inside
      have keyword := lowercase_ofList_eq_keyword.mp opens
      rw [← List.reverse_reverse opener] at keyword
      rcases exists_eventsFrom_declaration within opener.reverse rest with ⟨content, read⟩
      refine Passes.bracket (.of_eq ?_ (.of_event read)) run
      rw [eventsFrom_holeSymbols, eventsFrom_opener (.inr opens),
        Reading.afterTagName_keyword keyword]

/-- A template that is written with some tags is read to its end, and these are its tags. -/
theorem exists_events_of_writesTags {tags : List WrittenTag} (written : WritesTags symbols tags)
    (run : List Char) :
    ∃ events, eventsFrom (.text run) symbols = .ok events ∧
      events.filterMap Event.tag? = tags.map WrittenTag.tag := by
  induction written generalizing run with
  | nil => exact ⟨Reading.textEvents run, rfl, filterMap_tag?_textEvents run⟩
  | part first _ induction =>
      rename_i tag? _ _ tags _
      rcases passes_of_writesPart first run with ⟨given, after, tagged, read⟩
      rcases induction after with ⟨events, rest, others⟩
      refine ⟨given ++ events, by rw [read, rest]; rfl, ?_⟩
      rw [List.filterMap_append, tagged, others, List.map_append]
      cases tag? <;> rfl

/-! ## What can be read -/

theorem exists_ok_of_map {α β : Type} {result : Except SyntaxCause α} {change : α → β} {value : β}
    (mapped : result.map change = .ok value) : ∃ given, result = .ok given := by
  cases result with
  | error cause => cases mapped
  | ok given => exact ⟨given, rfl⟩

/-- After an opener there is a comment or a declaration. -/
theorem exists_writesPart_of_isOpener {opener : List Char} (opens : IsOpener opener)
    (accepted : eventsFrom (.tagName [] hole) (opener.map .character ++ source) = .ok events) :
    ∃ rest, WritesPart (.character '<' :: (holeSymbols hole ++ (opener.map .character ++ source)))
      none rest := by
  rw [eventsFrom_opener opens] at accepted
  rcases isOpener_iff.mp opens with rfl | keyword
  · rw [Reading.afterTagName_dashes] at accepted
    rcases exists_inside_of_comment accepted with ⟨inside, rest, rfl, first⟩
    refine ⟨rest, .comment hole first.ends ?_ rest⟩
    intro shorter longer whole more
    exact first.not_endsComment whole.symm more shorter List.prefix_rfl
  · have reversed : opener.reverse.reverse.map Text.lowercaseCharacter = "!doctype".toList := by
      rw [List.reverse_reverse, keyword]
    rw [Reading.afterTagName_keyword reversed] at accepted
    rcases exists_inside_of_declaration accepted with ⟨inside, rest, within, rfl⟩
    exact ⟨rest, .declaration hole (lowercase_ofList_eq_keyword.mpr keyword) within rest⟩

/-- Where a name ends before it has begun, no tag can be read. -/
theorem missingTagName_of_ended {character : Char} (ends : ¬ IsNameCharacter character)
    (notSlash : character ≠ '/') :
    Reading.inTagName [] none character = .error .missingTagName := by
  rcases endsName_of_not_isNameCharacter ends [] with blank | _ | _
  · simp only [Reading.inTagName, notSlash, decide_false, Bool.false_and, Bool.false_eq_true,
      if_false, blank, if_true]
    rfl
  · exact absurd rfl notSlash
  · rfl

/-- After any other name of a tag there are its mentions. -/
theorem exists_writesPart_of_tagName
    (fresh : hole = none → ∃ character ∈ Symbol.firstCharacter? source, character ≠ '/')
    (accepted : eventsFrom (.tagName [] hole) source = .ok events) :
    ∃ tag? rest, WritesPart (.character '<' :: (holeSymbols hole ++ source)) tag? rest := by
  rcases exists_characters_and_end IsNameCharacter source with ⟨name, after, rfl, unbroken, ended⟩
  by_cases opened : ∃ opener, opener <+: name ∧ IsOpener opener
  · rcases opened with ⟨opener, ⟨others, rfl⟩, opens⟩
    rw [List.map_append, List.append_assoc] at accepted ⊢
    rcases exists_writesPart_of_isOpener opens accepted with ⟨rest, written⟩
    exact ⟨none, rest, written⟩
  have plain : ∀ shorter, shorter <+: name → ¬ IsOpener shorter :=
    fun shorter within opens => opened ⟨shorter, within, opens⟩
  rw [eventsFrom_tagName unbroken plain] at accepted
  by_cases named : hole.isSome ∨ name ≠ []
  · rcases after with _ | ⟨given | index, later⟩
    · cases accepted
    · have ends := endsName_of_not_isNameCharacter (ended given rfl) later
      rw [eventsFrom_tagName_of_endsName named ends] at accepted
      rcases exists_writesMentions accepted with ⟨mentions, rest, written⟩
      exact ⟨_, rest, .tag ⟨named, unbroken, plain, ends⟩ written⟩
    · have refused : (Reading.tagName name.reverse hole).readHole index
          = .error .holeInTagName := by
        rw [Reading.readHole, fresh_eq_false named]
        rfl
      exact absurd accepted (not_eventsFrom_of_refused refused)
  · rcases not_or.mp named with ⟨noHole, empty⟩
    have without : hole = none := Option.not_isSome_iff_eq_none.mp noHole
    have nothing : name = [] := Decidable.not_not.mp empty
    subst without nothing
    rcases fresh rfl with ⟨given, begins, notSlash⟩
    rcases after with _ | ⟨_ | _, later⟩ <;> cases begins
    exact absurd accepted
      (not_eventsFrom_of_refused (missingTagName_of_ended (ended given rfl) notSlash))

theorem exists_writesPart {symbol : Symbol} {run : List Char}
    (accepted : eventsFrom (.text run) (symbol :: source) = .ok events) :
    ∃ tag? rest, WritesPart (symbol :: source) tag? rest := by
  rcases symbol with given | index
  · by_cases bracket : given = '<'
    · subst bracket
      rw [eventsFrom_bracket] at accepted
      rcases exists_ok_of_map accepted with ⟨events, accepted⟩
      rcases source with _ | ⟨first | index, later⟩
      · cases accepted
      · by_cases slash : first = '/'
        · subst slash
          rw [eventsFrom_character_quiet (fun _ => rfl)] at accepted
          rcases exists_inside_of_closingTag accepted with ⟨inside, rest, within, rfl⟩
          exact ⟨none, rest, .closing within rest⟩
        · exact @exists_writesPart_of_tagName _ none _ (fun _ => ⟨first, rfl, slash⟩) accepted
      · rw [eventsFrom_hole_quiet rfl] at accepted
        exact @exists_writesPart_of_tagName _ (some index) _ nofun accepted
    · exact ⟨none, source, .character bracket source⟩
  · exact ⟨none, source, .hole index source⟩

theorem WritesPart.length_lt {tag? : Option WrittenTag} (written : WritesPart source tag? rest) :
    rest.length < source.length := by
  cases written with
  | character _ | hole _ => exact Nat.lt_succ_self _
  | tag _ written =>
      have shorter := written.length_lt
      simp only [List.length_append, List.length_cons]
      omega
  | closing _ | comment _ _ _ | declaration _ _ _ =>
      simp only [List.length_append, List.length_cons]
      omega

/-- What can be read to its end is written with some tags. -/
theorem exists_writesTags {run : List Char}
    (accepted : eventsFrom (.text run) symbols = .ok events) : ∃ tags, WritesTags symbols tags := by
  induction length : symbols.length using Nat.strongRecOn generalizing symbols run events with
  | ind count induction =>
      rcases symbols with _ | ⟨symbol, source⟩
      · exact ⟨[], .nil⟩
      · rcases exists_writesPart accepted with ⟨tag?, rest, first⟩
        rcases passes_of_writesPart first run with ⟨given, after, _, read⟩
        rcases exists_ok_of_map (read.symm.trans accepted) with ⟨later, others⟩
        rcases induction _ (length ▸ first.length_lt) others rfl with ⟨tags, written⟩
        exact ⟨_, .part first written⟩

end HtmlStream.Template
