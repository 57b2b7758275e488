import HtmlStream.Proofs.Template.Holes
import HtmlStream.Proofs.Template.Progress

/-!
The holes of a template that is accepted. They keep their order and none of them is there twice; those
that are left out stand in comments, in closing tags, or between a bracket and an opener. Wherever
reading has come to, the holes read so far are in the nodes, in the tag that is being read, or passed
over. The main statement is `holes_of_accepted`.
-/
namespace HtmlStream.Template

variable {symbols read rest : List Symbol} {reading : Reading} {builder : Builder}
  {nodes : List Node} {index : Nat}

/-! ## Places in tag names -/

namespace Reading

/-- Only a bracket begins a tag name, and only name characters and a hole go on with one. -/
inductive GrowsTagName : Reading → Symbol → List Char → Option Nat → List Event → Prop
  | bracket (run : List Char) : GrowsTagName (.text run) (.character '<') [] none (textEvents run)
  | character (name : List Char) (hole : Option Nat) (character : Char) :
      GrowsTagName (.tagName name hole) (.character character) (character :: name) hole []
  | hole (index : Nat) : GrowsTagName (.tagName [] none) (.hole index) [] (some index) []

variable {name : List Char} {hole : Option Nat} {events : List Event}

theorem growsTagName_of_inTagName {before : List Char} {given : Option Nat} {character : Char}
    (read : inTagName before given character = .ok (.tagName name hole, events)) :
    GrowsTagName (.tagName before given) (.character character) name hole events := by
  have noTag : ∀ {next : Tag → Result}, (∀ tag, next tag ≠ .ok (.tagName name hole, events)) →
      beginTag before given >>= next ≠ .ok (.tagName name hole, events) := by
    intro next never
    cases beginTag before given with
    | ok tag => exact never tag
    | error cause => nofun
  unfold inTagName at read
  split_ifs at read
  · cases read
  · exact absurd read (noTag nofun)
  · exact absurd read (noTag nofun)
  · exact absurd read (noTag nofun)
  · unfold afterTagName at read
    split_ifs at read
    · cases read
    · cases read
    · cases read
      exact .character before _ character

theorem growsTagName_of_read {symbol : Symbol} {next : Option Char}
    (read : reading.read symbol next = .ok (.tagName name hole, events)) :
    GrowsTagName reading symbol name hole events := by
  cases symbol with
  | character character =>
      cases reading with
      | text run =>
          change inText run character = _ at read
          unfold inText at read
          split_ifs at read with bracket
          · cases read
            exact bracket ▸ .bracket run
          · cases read
      | tagName before given => exact growsTagName_of_inTagName read
      | attributes | attributeName | attributeValue | quotedValue | unquotedValue | selfClosing
      | closingTag | comment | declaration =>
          simp only [Reading.read, readCharacter, inAttributes, inAttributeName, inAttributeValue,
            inQuotedValue, inUnquotedValue, inSelfClosing, inClosingTag, inComment,
            inDeclaration] at read
          split_ifs at read <;> cases read
  | hole index =>
      cases reading with
      | tagName before given =>
          change (if before.isEmpty && given.isNone then quiet (.tagName [] (some index))
            else .error .holeInTagName) = _ at read
          split_ifs at read with fresh
          · simp only [Bool.and_eq_true, List.isEmpty_iff, Option.isNone_iff_eq_none] at fresh
            rcases fresh with ⟨rfl, rfl⟩
            cases read
            exact .hole index
      | attributeName tag before =>
          change (if nameOf before = "..." then _ else _) = _ at read
          split_ifs at read
          cases read
      | _ => cases read

end Reading

/-- A tag name is what stands between the last bracket and the place that reading has come to. -/
theorem ReadsTo.exists_bracket {name : List Char} {hole : Option Nat}
    (reached : ReadsTo symbols read (.tagName name hole) builder rest) :
    ∃ before run outside, ReadsTo symbols before (.text run) outside
      (.character '<' :: (hole.toList.map .hole ++ (name.reverse.map .character ++ rest))) := by
  generalize place : Reading.tagName name hole = reading at reached
  induction reached generalizing name hole with
  | start => cases place
  | @next read rest symbol earlier later builder built reached advanced induction =>
      subst place
      rcases advance_eq_ok advanced with ⟨events, given, _⟩
      cases Reading.growsTagName_of_read given with
      | bracket run => exact ⟨_, run, builder, reached⟩
      | character name hole character =>
          rcases induction rfl with ⟨before, run, outside, bracket⟩
          refine ⟨before, run, outside, ?_⟩
          rw [List.reverse_cons, List.map_append, List.append_assoc]
          exact bracket
      | hole index => exact induction rfl

/-! ## Wherever reading has come to -/

/-- What a symbol passes over is passed over by the template. -/
theorem isPassedOver_of_passesOver {symbol : Symbol} {later : Reading}
    (reached : ReadsTo symbols read reading builder (symbol :: rest))
    (passes : Reading.PassesOver reading symbol later)
    (member : index ∈ reading.holes ++ symbol.holes) : IsPassedOver symbols index := by
  cases passes with
  | inComment tail other =>
      cases List.mem_singleton.mp member
      exact .inComment reached
  | inClosingTag name other =>
      cases List.mem_singleton.mp member
      exact .inClosingTag reached
  | @opens name character other opens =>
      cases List.mem_singleton.mp member
      rcases reached.exists_bracket with ⟨before, run, outside, bracket⟩
      have unread : name.reverse.map Symbol.character ++ .character character :: rest
          = (character :: name).reverse.map .character ++ rest := by
        rw [List.reverse_cons, List.map_append, List.append_assoc]
        rfl
      rw [unread] at bracket
      exact .beforeOpener opens bracket

namespace ReadsTo

/-- What the nodes and the tag have of the holes is in the order of the template. -/
theorem holes_sublist (reached : ReadsTo symbols read reading builder rest) :
    (builder.holes ++ reading.holes).Sublist (read.flatMap Symbol.holes) := by
  induction reached with
  | start => exact List.nil_sublist _
  | next reached advanced induction =>
      rcases advance_eq_ok advanced with ⟨events, given, applied⟩
      rw [Builder.holes_applyAll applied, List.append_assoc, List.flatMap_append,
        List.flatMap_singleton]
      refine ((Reading.sublist_of_read given).append_left _).trans ?_
      rw [← List.append_assoc]
      exact induction.append_right _

/-- A hole that has been read is kept or passed over. -/
theorem mem_holes (reached : ReadsTo symbols read reading builder rest)
    (member : index ∈ read.flatMap Symbol.holes) :
    index ∈ builder.holes ++ reading.holes ∨ IsPassedOver symbols index := by
  induction reached with
  | start => cases member
  | @next read rest symbol reading later builder built reached advanced induction =>
      rcases advance_eq_ok advanced with ⟨events, given, applied⟩
      rw [List.flatMap_append, List.flatMap_singleton] at member
      have here : index ∈ builder.holes ∨ index ∈ reading.holes ++ symbol.holes ∨
          IsPassedOver symbols index := by
        rcases List.mem_append.mp member with earlier | met
        · rcases induction earlier with kept | passed
          · rcases List.mem_append.mp kept with built | held
            · exact .inl built
            · exact .inr (.inl (List.mem_append_left _ held))
          · exact .inr (.inr passed)
        · exact .inr (.inl (List.mem_append_right _ met))
      rw [Builder.holes_applyAll applied]
      rcases here with built | held | passed
      · exact .inl (List.mem_append_left _ (List.mem_append_left _ built))
      · rcases Reading.holes_of_read given with same | ⟨_, passes⟩
        · rw [← same] at held
          rw [List.append_assoc]
          exact .inl (List.mem_append_right _ held)
        · exact .inr (isPassedOver_of_passesOver reached passes held)
      · exact .inr passed

/-- A hole is not met again, so one that is neither kept nor being read is not in the nodes. -/
theorem not_mem_holes (reached : ReadsTo symbols read reading builder rest)
    (accepted : readSymbols symbols = .ok nodes) (distinct : (symbols.flatMap Symbol.holes).Nodup)
    (met : index ∈ read.flatMap Symbol.holes) (dropped : index ∉ builder.holes ++ reading.holes) :
    index ∉ holesOfNodes nodes := by
  intro member
  rw [reached.readSymbols_eq] at accepted
  rcases List.mem_append.mp ((holes_of_readFrom accepted).subset member) with kept | later
  · exact dropped kept
  · rw [← reached.append_eq, List.flatMap_append] at distinct
    exact (List.nodup_append.mp distinct).2.2 index met index later rfl

end ReadsTo

/-! ## Whole templates -/

theorem not_mem_holes_of_isPassedOver (accepted : readSymbols symbols = .ok nodes)
    (distinct : (symbols.flatMap Symbol.holes).Nodup) (passed : IsPassedOver symbols index) :
    index ∉ holesOfNodes nodes := by
  -- What has been built before a hole has earlier holes only.
  have earlier : ∀ {read rest : List Symbol} {reading : Reading} {builder : Builder},
      ReadsTo symbols read reading builder (.hole index :: rest) → index ∉ builder.holes := by
    intro read rest reading builder reached kept
    have met := reached.holes_sublist.subset (List.mem_append_left _ kept)
    rw [← reached.append_eq, List.flatMap_append] at distinct
    exact (List.nodup_append.mp distinct).2.2 index met index List.mem_cons_self rfl
  have here : ∀ read : List Symbol, index ∈ (read ++ [Symbol.hole index]).flatMap Symbol.holes := by
    intro read
    rw [List.flatMap_append]
    exact List.mem_append_right _ List.mem_cons_self
  cases passed with
  | @inComment read rest tail builder reached =>
      have onward : ReadsTo symbols _ (.comment tail) builder rest := reached.quietly rfl
      refine onward.not_mem_holes accepted distinct (here read) ?_
      rw [show Reading.holes (.comment tail) = [] from rfl, List.append_nil]
      exact earlier reached
  | @inClosingTag read rest name builder reached =>
      have onward : ReadsTo symbols _ (.closingTag name) builder rest := reached.quietly rfl
      refine onward.not_mem_holes accepted distinct (here read) ?_
      rw [show Reading.holes (.closingTag name) = [] from rfl, List.append_nil]
      exact earlier reached
  | @beforeOpener read rest run opener builder opens reached =>
      have bracket := reached.bracket
      have hole : ReadsTo symbols _ (.tagName [] (some index)) _ (opener.map .character ++ rest) :=
        bracket.quietly rfl
      refine (hole.opening opens).not_mem_holes accepted distinct ?_ ?_
      · rw [List.flatMap_append]
        exact List.mem_append_left _ (here _)
      · have opened : IsOpener opener.reverse.reverse := by rwa [List.reverse_reverse]
        rw [Reading.holes_afterTagName opened, List.append_nil]
        exact earlier bracket

/-- The holes of a template that is accepted go up in document order, each stands for an
interpolation, and exactly those that are passed over are left out. -/
theorem holes_of_accepted {strings : List String} (accepted : readStrings strings = .ok nodes) :
    (holesOfNodes nodes).Pairwise (· < ·) ∧
      (∀ index ∈ holesOfNodes nodes, index < strings.length - 1) ∧
      ∀ index < strings.length - 1,
        index ∉ holesOfNodes nodes ↔ IsPassedOver (Symbol.ofStrings strings) index := by
  have within := holes_of_readStrings accepted
  have met : (Symbol.ofStrings strings).flatMap Symbol.holes = List.range (strings.length - 1) := by
    rw [List.range_eq_range']
    exact holes_ofStringsFrom 0 strings
  refine ⟨List.pairwise_lt_range.sublist within,
    fun index member => List.mem_range.mp (within.subset member), ?_⟩
  intro index below
  constructor
  · intro absent
    rcases ReadsTo.exists_finish_of_accepted accepted with ⟨reading, builder, reached, ended⟩
    rcases holes_of_finishReading ended with ⟨same, nothing⟩
    rcases reached.mem_holes (met ▸ List.mem_range.mpr below) with kept | passed
    · rw [nothing, List.append_nil, ← same] at kept
      exact absurd kept absent
    · exact passed
  · exact not_mem_holes_of_isPassedOver accepted (met ▸ List.nodup_range)

/-- The last three holes stand in a comment, in a closing tag and before an opener. -/
theorem holes_of_accepted_passing :
    let strings := ["<", " a=", ">", "<!-- ", " --></", "><", "!doctype>"]
    readStrings strings = .ok [.element ⟨.hole 0, [.named "a" (.hole 1)]⟩ [.hole 2],
        .markup "<!doctype>"] ∧
      [0, 1, 2].Pairwise (· < ·) ∧
      ∀ index ∈ [3, 4, 5], IsPassedOver (Symbol.ofStrings strings) index := by
  intro strings
  have accepted : readStrings strings = .ok [.element ⟨.hole 0, [.named "a" (.hole 1)]⟩ [.hole 2],
      .markup "<!doctype>"] := rfl
  rcases holes_of_accepted accepted with ⟨ordered, _, leftOut⟩
  refine ⟨accepted, ordered, fun index member => (leftOut index ?_).mp ?_⟩
  · revert index
    decide
  · revert index
    decide

end HtmlStream.Template
