import HtmlStream.Proofs.Template.Passing

/-!
Holes that begin a tag. Such a hole is the type of an element as soon as the tag name ends, and static
characters that stand between the hole and that end are lost: the template is read as the one without
them. Only where they make an opener the hole is passed over. The main statement is `tagHoles`.
-/
namespace HtmlStream.Template

variable {index : Nat}

/-! ## Types are kept -/

namespace Builder

variable {builder built : Builder}

theorem hasType_add (kept : builder.HasType index) (node : Node) :
    (builder.add node).HasType index := by
  rcases builder with ⟨finished, stack⟩
  cases stack with
  | nil =>
      rcases kept with ⟨other, member, typed⟩ | ⟨element, member, _⟩
      · exact .inl ⟨other, List.mem_cons_of_mem _ member, typed⟩
      · cases member
  | cons innermost rest =>
      rcases kept with finished | ⟨element, member, typed⟩
      · exact .inl finished
      · rcases List.mem_cons.mp member with rfl | outer
        · refine .inr ⟨_, List.mem_cons_self, typed.imp_right ?_⟩
          rintro ⟨child, below, typed⟩
          exact ⟨child, List.mem_cons_of_mem _ below, typed⟩
        · exact .inr ⟨element, List.mem_cons_of_mem _ outer, typed⟩

theorem hasType_add_of_node {node : Node} (typed : node.HasType index) (builder : Builder) :
    (builder.add node).HasType index := by
  rcases builder with ⟨finished, stack⟩
  cases stack with
  | nil => exact .inl ⟨node, List.mem_cons_self, typed⟩
  | cons innermost rest =>
      exact .inr ⟨_, List.mem_cons_self, .inr ⟨node, List.mem_cons_self, typed⟩⟩

theorem hasType_element {element : OpenElement} {outer : Builder}
    (typed : element.tag.name = .hole index ∨ HaveType index element.children) :
    (outer.add (.element element.tag element.children.reverse)).HasType index := by
  refine hasType_add_of_node ?_ outer
  rcases typed with here | ⟨child, member, typed⟩
  · rcases element with ⟨⟨name, attributes⟩, children⟩
    cases here
    exact .own attributes children.reverse
  · exact .inside (List.mem_reverse.mpr member) typed

theorem hasType_apply {event : Event} (applied : builder.apply event = .ok built)
    (typed : builder.HasType index ∨ event.HasType index) : built.HasType index := by
  cases event with
  | text content => cases applied; exact hasType_add (typed.resolve_right id) _
  | markup content => cases applied; exact hasType_add (typed.resolve_right id) _
  | hole other => cases applied; exact hasType_add (typed.resolve_right id) _
  | empty tag =>
      cases applied
      rcases typed with kept | here
      · exact hasType_add kept _
      · rcases tag with ⟨name, attributes⟩
        cases here
        exact hasType_add_of_node (.own attributes []) builder
  | opening tag =>
      cases applied
      rcases typed with (finished | ⟨element, member, typed⟩) | here
      · exact .inl finished
      · exact .inr ⟨element, List.mem_cons_of_mem _ member, typed⟩
      · exact .inr ⟨_, List.mem_cons_self, .inl here⟩
  | closing name =>
      have kept := typed.resolve_right id
      rcases builder with ⟨finished, stack⟩
      cases stack with
      | nil => cases applied
      | cons innermost rest =>
          rw [@close_eq_ok ⟨finished, rest⟩ _ _ _ _ applied]
          have outside : HaveType index finished ∨ (∃ element ∈ rest,
              element.tag.name = .hole index ∨ HaveType index element.children) →
              (Builder.mk finished rest).HasType index := id
          rcases kept with done | ⟨element, member, inside⟩
          · exact hasType_add (outside (.inl done)) _
          · rcases List.mem_cons.mp member with rfl | outer
            · exact hasType_element inside
            · exact hasType_add (outside (.inr ⟨element, outer, inside⟩)) _

theorem hasType_applyAll {events : List Event} (applied : builder.applyAll events = .ok built)
    (typed : builder.HasType index ∨ ∃ event ∈ events, event.HasType index) :
    built.HasType index := by
  induction events generalizing builder with
  | nil =>
      cases applied
      exact typed.resolve_right fun ⟨_, member, _⟩ => absurd member List.not_mem_nil
  | cons event rest induction =>
      rw [applyAll] at applied
      cases given : builder.apply event with
      | error cause => rw [given] at applied; cases applied
      | ok between =>
          rw [given] at applied
          refine induction applied ?_
          rcases typed with kept | ⟨other, member, typed⟩
          · exact .inl (hasType_apply given (.inl kept))
          · rcases List.mem_cons.mp member with rfl | later
            · exact .inl (hasType_apply given (.inr typed))
            · exact .inr ⟨other, later, typed⟩

end Builder

namespace Reading

/-- Reading a symbol hands the type of the tag on to an event, or keeps it. -/
def KeepsType (index : Nat) : Result → Prop
  | .ok (later, events) => (∃ event ∈ events, event.HasType index) ∨ later.HasType index
  | .error _ => True

variable {tag : Tag} {reading later : Reading}

theorem keepsType_quiet (typed : later.HasType index) : KeepsType index (quiet later) :=
  .inr typed

theorem keepsType_openEvent (typed : tag.name = .hole index) :
    KeepsType index (.ok (.text [], [openEvent tag])) := by
  refine .inl ⟨_, List.mem_cons_self, ?_⟩
  unfold openEvent
  rw [typed]
  exact typed

theorem keepsType_ite {condition : Prop} [Decidable condition] {first second : Result}
    (yes : KeepsType index first) (no : KeepsType index second) :
    KeepsType index (if condition then first else second) := by
  split_ifs
  · exact yes
  · exact no

theorem keepsType_readCharacter (typed : reading.HasType index) (character : Char)
    (next : Option Char) : KeepsType index (reading.readCharacter character next) := by
  cases reading with
  | text | tagName | closingTag | comment | declaration => cases typed
  | attributes tag =>
      have keeps : KeepsType index (if character = '"' || character = '\'' || character = '=' then
          .error (.unexpectedInTag character) else quiet (.attributeName tag [character])) :=
        keepsType_ite trivial (keepsType_quiet typed)
      exact keepsType_ite (keepsType_quiet typed) (keepsType_ite (keepsType_openEvent typed)
        (keepsType_ite (keepsType_quiet typed) keeps))
  | attributeName tag name =>
      have named : (withBare tag name).name = .hole index := typed
      exact keepsType_ite (keepsType_quiet typed) (keepsType_ite (keepsType_quiet named)
        (keepsType_ite (keepsType_openEvent named)
          (keepsType_ite (keepsType_quiet named) (keepsType_quiet typed))))
  | attributeValue tag name =>
      exact keepsType_ite (keepsType_quiet typed) (keepsType_ite (keepsType_quiet typed)
        (keepsType_ite trivial (keepsType_quiet typed)))
  | quotedValue tag name quote pieces =>
      have valued : (withValue tag name pieces).name = .hole index := typed
      exact keepsType_ite (keepsType_quiet valued) (keepsType_quiet typed)
  | unquotedValue tag name pieces =>
      have valued : (withValue tag name pieces).name = .hole index := typed
      exact keepsType_ite (keepsType_quiet valued) (keepsType_ite (keepsType_openEvent valued)
        (keepsType_ite (keepsType_quiet valued) (keepsType_quiet typed)))
  | selfClosing tag =>
      have closed : KeepsType index (.ok (.text [], [.empty (finished tag)])) :=
        .inl ⟨_, List.mem_cons_self, typed⟩
      exact keepsType_ite closed (keepsType_ite (keepsType_quiet typed) trivial)

theorem keepsType_readHole (typed : reading.HasType index) (other : Nat) :
    KeepsType index (reading.readHole other) := by
  cases reading with
  | text | tagName | closingTag | comment | declaration => cases typed
  | attributes | selfClosing => trivial
  | attributeName tag name =>
      have spread : (withAttribute tag (.spread other)).name = .hole index := typed
      exact keepsType_ite (keepsType_quiet spread) trivial
  | attributeValue | quotedValue | unquotedValue => exact keepsType_quiet typed

theorem keepsType_read (typed : reading.HasType index) (symbol : Symbol) (next : Option Char) :
    KeepsType index (reading.read symbol next) := by
  cases symbol with
  | character character => exact keepsType_readCharacter typed character next
  | hole other => exact keepsType_readHole typed other

end Reading

section Reading

variable {reading : Reading} {builder : Builder} {nodes : List Node}

theorem haveType_of_finishReading (finished : finishReading reading builder = .ok nodes)
    (typed : builder.HasType index ∨ reading.HasType index) : HaveType index nodes := by
  unfold finishReading at finished
  cases reading with
  | text run =>
      rw [Reading.finish] at finished
      dsimp only [bind, Except.bind] at finished
      rw [Builder.applyAll_textEvents] at finished
      rcases Builder.finish_eq_ok.mp finished with ⟨closed, rfl⟩
      have kept := Builder.hasType_applyAll (builder.applyAll_textEvents run)
        (.inl (typed.resolve_right id))
      rcases kept with ⟨node, member, typed⟩ | ⟨element, member, _⟩
      · exact ⟨node, List.mem_reverse.mpr member, typed⟩
      · rw [closed] at member
        cases member
  | tagName | attributes | attributeName | attributeValue | quotedValue | unquotedValue
  | selfClosing | closingTag | comment | declaration => cases finished

/-- A type that has been read is the type of an element in the end. -/
theorem haveType_of_readFrom {position : Nat} {symbols : List Symbol}
    (accepted : readFrom reading builder position symbols = .ok nodes)
    (typed : builder.HasType index ∨ reading.HasType index) : HaveType index nodes := by
  induction symbols generalizing reading builder position with
  | nil =>
      rw [readFrom] at accepted
      cases finished : finishReading reading builder with
      | error cause => rw [finished] at accepted; cases accepted
      | ok final =>
          rw [finished] at accepted
          cases accepted
          exact haveType_of_finishReading finished typed
  | cons symbol rest induction =>
      rcases exists_advance_of_readFrom accepted with ⟨later, built, advanced⟩
      rw [readFrom_of_advance advanced] at accepted
      refine induction accepted ?_
      rcases advance_eq_ok advanced with ⟨events, given, applied⟩
      rcases typed with kept | held
      · exact .inl (Builder.hasType_applyAll applied (.inl kept))
      · have keeps := Reading.keepsType_read held symbol (Symbol.firstCharacter? rest)
        rw [given] at keeps
        exact keeps.imp_left fun event => Builder.hasType_applyAll applied (.inr event)

end Reading

/-! ## After the hole -/

/-- The fault at a place that comes later. -/
def SyntaxFault.shifted (distance : Nat) (fault : SyntaxFault) : SyntaxFault :=
  { fault with position := fault.position + distance }

theorem readFrom_shifted (reading : Reading) (builder : Builder) (position distance : Nat)
    (symbols : List Symbol) :
    readFrom reading builder (position + distance) symbols
      = (readFrom reading builder position symbols).mapError (SyntaxFault.shifted distance) := by
  induction symbols generalizing reading builder position with
  | nil =>
      unfold readFrom
      cases finishReading reading builder <;> rfl
  | cons symbol rest induction =>
      unfold readFrom
      cases advance reading builder symbol (Symbol.firstCharacter? rest) with
      | error cause => rfl
      | ok after =>
          dsimp only
          rw [Nat.add_right_comm]
          exact induction after.1 after.2 _

/-- Where a tag name ends, what was read besides its hole does not count. -/
theorem read_tagName_of_ended {symbol : Symbol} {next : Option Char} (name : List Char)
    (ended : ∀ character ∈ symbol.character?, ¬ IsNameCharacter character) :
    (Reading.tagName name (some index)).read symbol next
      = (Reading.tagName [] (some index)).read symbol next := by
  cases symbol with
  | hole other =>
      have taken : (name.isEmpty && (some index).isNone) = false := Bool.and_false _
      show (if name.isEmpty && (some index).isNone then _ else _) = _
      rw [taken]
      rfl
  | character character =>
      show Reading.inTagName _ _ _ = Reading.inTagName _ _ _
      unfold Reading.inTagName
      simp only [Option.isNone_some, Bool.and_false, Bool.false_eq_true, if_false]
      split_ifs with blank bracket slash
      · rfl
      · rfl
      · rfl
      · exact absurd ⟨Bool.not_eq_true _ ▸ blank, slash, bracket⟩ (ended character rfl)

theorem readFrom_tagName_of_ended {builder : Builder} {position : Nat} {after : List Symbol}
    (name : List Char)
    (ended : ∀ character ∈ Symbol.firstCharacter? after, ¬ IsNameCharacter character) :
    readFrom (.tagName name (some index)) builder position after
      = readFrom (.tagName [] (some index)) builder position after := by
  cases after with
  | nil => rfl
  | cons symbol rest =>
      have same : ∀ next, (Reading.tagName name (some index)).read symbol next
          = (Reading.tagName [] (some index)).read symbol next := by
        intro next
        refine read_tagName_of_ended name ?_
        cases symbol <;> exact ended
      unfold readFrom advance
      rw [same]

/-- A tag name that ends with its hole is followed by a character that ends it, and the hole is the
type of an element. -/
theorem haveType_of_readFrom_tagName {builder : Builder} {position : Nat} {after : List Symbol}
    {nodes : List Node}
    (ended : ∀ character ∈ Symbol.firstCharacter? after, ¬ IsNameCharacter character)
    (accepted : readFrom (.tagName [] (some index)) builder position after = .ok nodes) :
    (∃ character ∈ Symbol.firstCharacter? after, ¬ IsNameCharacter character) ∧
      HaveType index nodes := by
  cases after with
  | nil => cases accepted
  | cons symbol rest =>
      cases symbol with
      | hole other => cases accepted
      | character character =>
          refine ⟨⟨character, rfl, ended character rfl⟩, ?_⟩
          rcases exists_advance_of_readFrom accepted with ⟨later, built, advanced⟩
          rw [readFrom_of_advance advanced] at accepted
          refine haveType_of_readFrom accepted ?_
          rcases advance_eq_ok advanced with ⟨events, given, applied⟩
          change Reading.inTagName [] (some index) character = _ at given
          unfold Reading.inTagName at given
          simp only [Option.isNone_some, Bool.and_false, Bool.false_eq_true, if_false] at given
          split_ifs at given with blank bracket slash
          · cases given
            exact .inr rfl
          · cases given
            exact .inl (Builder.hasType_applyAll applied (.inr ⟨_, List.mem_cons_self, rfl⟩))
          · cases given
            exact .inr rfl
          · exact absurd ⟨Bool.not_eq_true _ ▸ blank, slash, bracket⟩ (ended character rfl)

/-! ## Whole templates -/

section Templates

variable {symbols read after rest : List Symbol} {glued : List Char}

/-- A bracket is followed by the hole; the tag name goes on with the characters in `glued`, and there
it ends. -/
structure BeginsTag (symbols read : List Symbol) (index : Nat) (glued : List Char)
    (after : List Symbol) : Prop where
  reached : ∃ run builder, ReadsTo symbols read (.text run) builder
    (.character '<' :: .hole index :: (glued.map .character ++ after))
  spelled : ∀ character ∈ glued, IsNameCharacter character
  ended : ∀ character ∈ Symbol.firstCharacter? after, ¬ IsNameCharacter character

/-- Every hole after a bracket begins a tag. -/
theorem exists_beginsTag {run : List Char} {builder : Builder}
    (reached : ReadsTo symbols read (.text run) builder (.character '<' :: .hole index :: rest)) :
    ∃ glued after, rest = glued.map .character ++ after ∧
      BeginsTag symbols read index glued after := by
  rcases exists_characters_and_end IsNameCharacter rest with ⟨glued, after, rfl, spelled, ended⟩
  exact ⟨glued, after, rfl, ⟨run, builder, reached⟩, spelled, ended⟩

namespace BeginsTag

/-- Between the hole and what ends the tag name, reading only moves on. -/
theorem exists_readSymbols_eq (begins : BeginsTag symbols read index glued after)
    (plain : ∀ opener, opener <+: glued → ¬ IsOpener opener) :
    ∃ builder position,
      readSymbols symbols
        = readFrom (.tagName [] (some index)) builder (position + glued.length) after ∧
      readSymbols (read ++ .character '<' :: .hole index :: after)
        = readFrom (.tagName [] (some index)) builder position after := by
  rcases begins.reached with ⟨run, builder, reached⟩
  have hole : ReadsTo symbols _ (.tagName [] (some index)) _ _ := reached.bracket.quietly rfl
  have gathered := hole.gathering (fun name => .tagName name (some index))
    (gathers_tagName (some index) begins.spelled plain)
  have without : ReadsTo (read ++ .character '<' :: .hole index :: after) _
      (.tagName [] (some index)) _ after :=
    (reached.continued (.hole index :: after)).bracket.quietly rfl
  refine ⟨_, _, ?_, without.readSymbols_eq⟩
  rw [gathered.readSymbols_eq, readFrom_tagName_of_ended _ begins.ended, shownSource_append,
    shownSource_map_character, List.length_append]

theorem readSymbols_eq (begins : BeginsTag symbols read index glued after)
    (plain : ∀ opener, opener <+: glued → ¬ IsOpener opener) :
    readSymbols symbols = (readSymbols (read ++ .character '<' :: .hole index :: after)).mapError
      (SyntaxFault.shifted glued.length) := by
  rcases begins.exists_readSymbols_eq plain with ⟨builder, position, whole, without⟩
  rw [whole, without, readFrom_shifted]

theorem haveType {nodes : List Node} (begins : BeginsTag symbols read index glued after)
    (plain : ∀ opener, opener <+: glued → ¬ IsOpener opener)
    (accepted : readSymbols symbols = .ok nodes) :
    (∃ character ∈ Symbol.firstCharacter? after, ¬ IsNameCharacter character) ∧
      HaveType index nodes := by
  rcases begins.exists_readSymbols_eq plain with ⟨builder, position, whole, _⟩
  rw [whole] at accepted
  exact haveType_of_readFrom_tagName begins.ended accepted

theorem isPassedOver {opener : List Char} (begins : BeginsTag symbols read index glued after)
    (within : opener <+: glued) (opens : IsOpener opener) : IsPassedOver symbols index := by
  rcases within with ⟨others, rfl⟩
  rcases begins.reached with ⟨run, builder, reached⟩
  rw [List.map_append, List.append_assoc] at reached
  exact .beforeOpener opens reached

end BeginsTag

/-- What becomes of the holes in tag names. -/
structure ReadsTagHoles (strings : List String) : Prop where
  /-- No hole follows a character or another hole in a tag name. -/
  inside : ∀ {read rest name hole builder index},
    ReadsTo (Symbol.ofStrings strings) read (.tagName name hole) builder (.hole index :: rest) →
    name ≠ [] ∨ hole.isSome →
    readStrings strings = .error ⟨.holeInTagName, (shownSource read).length⟩
  begins : ∀ {read rest run builder index},
    ReadsTo (Symbol.ofStrings strings) read (.text run) builder
      (.character '<' :: .hole index :: rest) →
    ∃ glued after, rest = glued.map .character ++ after ∧
      BeginsTag (Symbol.ofStrings strings) read index glued after
  /-- An opener after the hole makes it disappear. -/
  opened : ∀ {read after glued opener index nodes},
    BeginsTag (Symbol.ofStrings strings) read index glued after →
    opener <+: glued → IsOpener opener →
    readStrings strings = .ok nodes → index ∉ holesOfNodes nodes
  /-- Any other characters after the hole disappear. -/
  lost : ∀ {read after glued index},
    BeginsTag (Symbol.ofStrings strings) read index glued after →
    (∀ opener, opener <+: glued → ¬ IsOpener opener) →
    readStrings strings = (readSymbols (read ++ .character '<' :: .hole index :: after)).mapError
      (SyntaxFault.shifted glued.length)
  typed : ∀ {read after glued index nodes},
    BeginsTag (Symbol.ofStrings strings) read index glued after →
    (∀ opener, opener <+: glued → ¬ IsOpener opener) →
    readStrings strings = .ok nodes →
    (∃ character ∈ Symbol.firstCharacter? after, ¬ IsNameCharacter character) ∧
      HaveType index nodes

/-- In a tag name a hole stands at the beginning. If it is left, it is the type of an element, and the
characters between it and the end of the name make no difference. -/
theorem tagHoles (strings : List String) : ReadsTagHoles strings where
  inside := by
    intro read rest name hole builder index reached taken
    refine reached.readSymbols_eq.trans (readFrom_of_refused ?_)
    have notFresh : (name.isEmpty && hole.isNone) = false := by
      rcases taken with named | held
      · rw [List.isEmpty_eq_false_iff.mpr named, Bool.false_and]
      · rw [Option.isNone_eq_false_iff.mpr held, Bool.and_false]
    have refused : (Reading.tagName name hole).readHole index = .error .holeInTagName := by
      rw [Reading.readHole, notFresh]
      rfl
    unfold advance Reading.read
    dsimp only
    rw [refused]
    rfl
  begins := exists_beginsTag
  opened := by
    intro read after glued opener index nodes begins within opens accepted
    have distinct : ((Symbol.ofStrings strings).flatMap Symbol.holes).Nodup := by
      rw [Symbol.ofStrings, holes_ofStringsFrom]
      exact List.nodup_range'
    exact not_mem_holes_of_isPassedOver accepted distinct (begins.isPassedOver within opens)
  lost := BeginsTag.readSymbols_eq
  typed := BeginsTag.haveType

/-- The characters after the hole are lost, and the component in it is the type of an element. -/
theorem tagHoles_glued :
    let symbols := Symbol.ofStrings ["a<", "foo x/>"]
    BeginsTag symbols [.character 'a'] 0 ['f', 'o', 'o'] (Symbol.ofText " x/>") ∧
      readSymbols symbols = (readSymbols (Symbol.ofStrings ["a<", " x/>"])).mapError
        (SyntaxFault.shifted 3) ∧
      HaveType 0 [.text "a", .element ⟨.hole 0, [.named "x" .bare]⟩ []] := by
  intro symbols
  have reached : ReadsTo symbols [.character 'a'] (.text ['a']) .empty
      (.character '<' :: .hole 0 :: (['f', 'o', 'o'].map .character ++ Symbol.ofText " x/>")) :=
    ReadsTo.start.quietly rfl
  have plain : ∀ opener, opener <+: ['f', 'o', 'o'] → ¬ IsOpener opener := by
    intro opener within opens
    rcases isOpener_iff.mp opens with rfl | keyword
    · exact absurd within (by decide)
    · have lowered := within.map Text.lowercaseCharacter
      rw [keyword] at lowered
      exact absurd lowered (by decide)
  have spelled : ∀ character ∈ ['f', 'o', 'o'], IsNameCharacter character := by
    intro character member
    simp only [List.mem_cons, List.not_mem_nil, or_false] at member
    rcases member with rfl | rfl | rfl <;> exact ⟨by decide, by decide, by decide⟩
  have ended : ∀ character ∈ Symbol.firstCharacter? (Symbol.ofText " x/>"),
      ¬ IsNameCharacter character := by
    rintro character ⟨⟩ ⟨blank, _⟩
    cases blank
  have begins : BeginsTag symbols [.character 'a'] 0 ['f', 'o', 'o'] (Symbol.ofText " x/>") :=
    ⟨⟨_, _, reached⟩, spelled, ended⟩
  have holes := tagHoles ["a<", "foo x/>"]
  exact ⟨begins, holes.lost begins plain, (holes.typed begins plain rfl).2⟩

/-- In what is accepted, a hole after a bracket ends the name of the tag, and it is the type of an
element. -/
def HolesStandAlone (strings : List String) : Prop :=
  ∀ {read rest run builder index nodes},
    ReadsTo (Symbol.ofStrings strings) read (.text run) builder
      (.character '<' :: .hole index :: rest) →
    readStrings strings = .ok nodes →
    (∃ character ∈ Symbol.firstCharacter? rest, ¬ IsNameCharacter character) ∧
      HaveType index nodes

/-- The characters after the hole are lost, where the template should be refused. -/
theorem not_holesStandAlone_glued : ¬ HolesStandAlone ["<", "foo/>"] := by
  intro alone
  have accepted : readStrings ["<", "foo/>"] = .ok [.element ⟨.hole 0, []⟩ []] := rfl
  rcases (alone .start accepted).1 with ⟨character, first, ends⟩
  cases first
  exact ends ⟨by decide, by decide, by decide⟩

end Templates
end HtmlStream.Template
