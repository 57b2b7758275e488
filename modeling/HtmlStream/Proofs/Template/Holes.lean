import HtmlStream.Proofs.Template.Nesting
import HtmlStream.Template.Fill
import HtmlStream.Template.Holes

/-!
Holes keep their order. What has been read of a template has the holes of its symbols, in their order
and none of them twice; some symbols are passed over. So every hole of a template stands for one of
its values, and no other value is looked at when it is filled.
-/
namespace HtmlStream.Template

@[simp] theorem holesOfPieces_nil : holesOfPieces [] = [] := rfl

@[simp] theorem holesOfPieces_append (first second : List Piece) :
    holesOfPieces (first ++ second) = holesOfPieces first ++ holesOfPieces second :=
  List.filterMap_append

@[simp] theorem holesOfPieces_text (content : String) : holesOfPieces [.text content] = [] := rfl

@[simp] theorem holesOfPieces_hole (index : Nat) : holesOfPieces [.hole index] = [index] := rfl

@[simp] theorem holesOfNodes_append (first second : List Node) :
    holesOfNodes (first ++ second) = holesOfNodes first ++ holesOfNodes second := by
  induction first with
  | nil => rfl
  | cons head tail induction =>
      rw [List.cons_append, holesOfNodes, holesOfNodes, induction, List.append_assoc]

@[simp] theorem holesOfNodes_singleton (node : Node) : holesOfNodes [node] = node.holes :=
  List.append_nil _

theorem holes_ofPieces (pieces : List Piece) :
    (AttributeValue.ofPieces pieces).holes = holesOfPieces pieces := by
  unfold AttributeValue.ofPieces
  split <;> rfl

/-! ## Reading -/

namespace Reading

@[simp] theorem holes_finished_withAttribute (tag : Tag) (added : Attribute) :
    (finished (withAttribute tag added)).holes = (finished tag).holes ++ added.holes := by
  simp [finished, withAttribute, Tag.holes]

@[simp] theorem holes_finished_withBare (tag : Tag) (name : List Char) :
    (finished (withBare tag name)).holes = (finished tag).holes := by
  rw [withBare, holes_finished_withAttribute]
  exact List.append_nil _

@[simp] theorem holes_finished_withValue (tag : Tag) (name : List Char) (pieces : List Piece) :
    (finished (withValue tag name pieces)).holes
      = (finished tag).holes ++ holesOfPieces pieces.reverse := by
  rw [withValue, holes_finished_withAttribute, Attribute.holes, holes_ofPieces]

theorem holes_beginTag {name : List Char} {hole : Option Nat} {tag : Tag}
    (begun : beginTag name hole = .ok tag) : (finished tag).holes = hole.toList := by
  unfold beginTag at begun
  cases hole with
  | some index =>
      cases begun
      rfl
  | none =>
      dsimp only at begun
      split at begun
      · cases begun
      · cases begun
        rfl

@[simp] theorem holes_openEvent (tag : Tag) : (openEvent tag).holes = (finished tag).holes := by
  unfold openEvent
  split
  · split <;> rfl
  · rfl

@[simp] theorem holes_textEvents (run : List Char) :
    (textEvents run).flatMap Event.holes = [] := by
  unfold textEvents
  dsimp only
  split <;> rfl

@[simp] theorem holes_appendCharacter (character : Char) (pieces : List Piece) :
    holesOfPieces (appendCharacter character pieces).reverse = holesOfPieces pieces.reverse := by
  unfold appendCharacter
  split <;> simp

/-- Reading a symbol hands on all of the holes, in their order. -/
def Hands (holes : List Nat) : Result → Prop
  | .ok (reading, events) => events.flatMap Event.holes ++ reading.holes = holes
  | .error _ => True

/-- Reading a symbol passes over its hole, or over the hole between a bracket and an opener. -/
inductive PassesOver : Reading → Symbol → Reading → Prop
  | inComment (tail : List Char) (index : Nat) :
      PassesOver (.comment tail) (.hole index) (.comment tail)
  | inClosingTag (name : List Char) (index : Nat) :
      PassesOver (.closingTag name) (.hole index) (.closingTag name)
  | opens {name : List Char} {character : Char} (index : Nat)
      (opens : IsOpener (character :: name).reverse) :
      PassesOver (.tagName name (some index)) (.character character)
        (afterTagName (character :: name) (some index))

variable {holes : List Nat} {reading later : Reading} {tag : Tag} {name : List Char}

theorem hands_quiet (same : reading.holes = holes) : Hands holes (quiet reading) := same

theorem hands_ite {condition : Prop} [Decidable condition] {first second : Result}
    (yes : Hands holes first) (no : Hands holes second) :
    Hands holes (if condition then first else second) := by
  split_ifs
  · exact yes
  · exact no

theorem hands_beginTag {hole : Option Nat} {next : Tag → Result}
    (handed : ∀ tag, (finished tag).holes = hole.toList → Hands hole.toList (next tag)) :
    Hands hole.toList (beginTag name hole >>= next) := by
  cases begun : beginTag name hole with
  | error cause => trivial
  | ok tag => exact handed tag (holes_beginTag begun)

theorem hands_openEvent (same : (finished tag).holes = holes) :
    Hands holes (.ok (.text [], [openEvent tag])) := by
  show [openEvent tag].flatMap Event.holes ++ [] = holes
  simp [same]

theorem hands_inAttributes (tag : Tag) (character : Char) :
    Hands (finished tag).holes (inAttributes tag character) := by
  apply hands_ite
  · exact hands_quiet rfl
  apply hands_ite
  · exact hands_openEvent rfl
  apply hands_ite
  · exact hands_quiet rfl
  apply hands_ite
  · trivial
  · exact hands_quiet rfl

theorem hands_inAttributeName (tag : Tag) (name : List Char) (character : Char) :
    Hands (finished tag).holes (inAttributeName tag name character) := by
  have bare := holes_finished_withBare tag name
  apply hands_ite
  · exact hands_quiet rfl
  apply hands_ite
  · exact hands_quiet bare
  apply hands_ite
  · exact hands_openEvent bare
  apply hands_ite
  · exact hands_quiet bare
  · exact hands_quiet rfl

theorem hands_inAttributeValue (tag : Tag) (name : List Char) (character : Char) :
    Hands (finished tag).holes (inAttributeValue tag name character) := by
  have begun : (finished tag).holes ++ holesOfPieces (appendCharacter character []).reverse
      = (finished tag).holes := List.append_nil _
  apply hands_ite
  · exact hands_quiet (List.append_nil _)
  apply hands_ite
  · exact hands_quiet rfl
  apply hands_ite
  · trivial
  · exact hands_quiet begun

theorem hands_inQuotedValue (tag : Tag) (name : List Char) (quote : Char) (pieces : List Piece)
    (character : Char) :
    Hands ((finished tag).holes ++ holesOfPieces pieces.reverse)
      (inQuotedValue tag name quote pieces character) := by
  have committed := holes_finished_withValue tag name pieces
  apply hands_ite
  · exact hands_quiet committed
  · exact hands_quiet (by simp [Reading.holes])

theorem hands_inUnquotedValue (tag : Tag) (name : List Char) (pieces : List Piece)
    (character : Char) (next : Option Char) :
    Hands ((finished tag).holes ++ holesOfPieces pieces.reverse)
      (inUnquotedValue tag name pieces character next) := by
  have committed := holes_finished_withValue tag name pieces
  apply hands_ite
  · exact hands_quiet committed
  apply hands_ite
  · exact hands_openEvent committed
  apply hands_ite
  · exact hands_quiet committed
  · exact hands_quiet (by simp [Reading.holes])

theorem hands_inSelfClosing (tag : Tag) (character : Char) :
    Hands (finished tag).holes (inSelfClosing tag character) := by
  have ended : [Event.empty (finished tag)].flatMap Event.holes ++ [] = (finished tag).holes := by
    simp [Event.holes]
  apply hands_ite
  · exact ended
  apply hands_ite
  · exact hands_quiet rfl
  · trivial

/-- The holes are handed on, or one of them is passed over. -/
def HandsOrPasses (reading : Reading) (symbol : Symbol) (result : Result) : Prop :=
  Hands (reading.holes ++ symbol.holes) result ∨
    ∃ later, result = quiet later ∧ PassesOver reading symbol later

theorem handsOrPasses_character {character : Char} {result : Result}
    (hands : Hands reading.holes result) :
    HandsOrPasses reading (.character character) result :=
  .inl ((List.append_nil reading.holes).symm ▸ hands)

theorem PassesOver.holes_eq {symbol : Symbol} (passes : PassesOver reading symbol later) :
    later.holes = [] := by
  cases passes with
  | inComment | inClosingTag => rfl
  | opens index opens => exact holes_afterTagName opens (some index)

/-- A tag name that goes on keeps its hole, unless it has become an opener. -/
theorem handsOrPasses_afterTagName (name : List Char) (hole : Option Nat) (character : Char) :
    HandsOrPasses (.tagName name hole) (.character character)
      (quiet (afterTagName (character :: name) hole)) := by
  by_cases opens : IsOpener (character :: name).reverse
  · cases hole with
    | none =>
        refine handsOrPasses_character (hands_quiet ?_)
        unfold afterTagName
        split_ifs <;> rfl
    | some index => exact .inr ⟨_, rfl, .opens index opens⟩
  · rw [afterTagName_of_not_isOpener opens]
    exact handsOrPasses_character (hands_quiet rfl)

theorem handsOrPasses_inTagName (name : List Char) (hole : Option Nat) (character : Char) :
    HandsOrPasses (.tagName name hole) (.character character) (inTagName name hole character) := by
  unfold inTagName
  split_ifs with closes
  · simp only [Bool.and_eq_true, Option.isNone_iff_eq_none] at closes
    rw [closes.2]
    exact handsOrPasses_character (hands_quiet rfl)
  · exact handsOrPasses_character (hands_beginTag fun tag same => hands_quiet same)
  · exact handsOrPasses_character (hands_beginTag fun tag same => hands_openEvent same)
  · exact handsOrPasses_character (hands_beginTag fun tag same => hands_quiet same)
  · exact handsOrPasses_afterTagName name hole character

theorem handsOrPasses_readCharacter (reading : Reading) (character : Char) (next : Option Char) :
    HandsOrPasses reading (.character character) (reading.readCharacter character next) := by
  cases reading with
  | tagName name hole => exact handsOrPasses_inTagName name hole character
  | text run =>
      have flushed : (textEvents run).flatMap Event.holes ++ [] = [] := by simp
      exact handsOrPasses_character (hands_ite flushed (hands_quiet rfl))
  | attributes tag => exact handsOrPasses_character (hands_inAttributes tag character)
  | attributeName tag name =>
      exact handsOrPasses_character (hands_inAttributeName tag name character)
  | attributeValue tag name =>
      exact handsOrPasses_character (hands_inAttributeValue tag name character)
  | quotedValue tag name quote pieces =>
      exact handsOrPasses_character (hands_inQuotedValue tag name quote pieces character)
  | unquotedValue tag name pieces =>
      exact handsOrPasses_character (hands_inUnquotedValue tag name pieces character next)
  | selfClosing tag => exact handsOrPasses_character (hands_inSelfClosing tag character)
  | closingTag name =>
      exact handsOrPasses_character
        (hands_ite rfl (hands_ite (hands_quiet rfl) (hands_quiet rfl)))
  | comment tail => exact handsOrPasses_character (hands_ite (hands_quiet rfl) (hands_quiet rfl))
  | declaration name => exact handsOrPasses_character (hands_ite rfl (hands_quiet rfl))

/-- A hole is put where it stands, or it is passed over. -/
theorem handsOrPasses_readHole (reading : Reading) (index : Nat) :
    HandsOrPasses reading (.hole index) (reading.readHole index) := by
  cases reading with
  | text run =>
      have flushed : (textEvents run ++ [Event.hole index]).flatMap Event.holes ++ [] = [index] := by
        simp [Event.holes]
      exact .inl flushed
  | tagName name hole =>
      cases hole with
      | none => exact .inl (hands_ite (hands_quiet rfl) trivial)
      | some other =>
          have taken : (name.isEmpty && (some other).isNone) = false := Bool.and_false _
          unfold readHole
          dsimp only
          rw [taken]
          exact .inl trivial
  | attributeName tag name =>
      exact .inl (hands_ite (hands_quiet (holes_finished_withAttribute tag (.spread index))) trivial)
  | attributeValue tag name => exact .inl (hands_quiet rfl)
  | quotedValue tag name quote pieces =>
      exact .inl (hands_quiet (by simp [Reading.holes, Symbol.holes]))
  | unquotedValue tag name pieces =>
      exact .inl (hands_quiet (by simp [Reading.holes, Symbol.holes]))
  | closingTag name => exact .inr ⟨_, rfl, .inClosingTag name index⟩
  | comment tail => exact .inr ⟨_, rfl, .inComment tail index⟩
  | attributes | selfClosing | declaration => exact .inl trivial

/-- What a symbol does to the holes: they are handed on in their order, or some are passed over. -/
theorem holes_of_read {symbol : Symbol} {next : Option Char} {events : List Event}
    (read : reading.read symbol next = .ok (later, events)) :
    events.flatMap Event.holes ++ later.holes = reading.holes ++ symbol.holes ∨
      events = [] ∧ PassesOver reading symbol later := by
  have both : HandsOrPasses reading symbol (reading.read symbol next) := by
    cases symbol with
    | character character => exact handsOrPasses_readCharacter reading character next
    | hole index => exact handsOrPasses_readHole reading index
  rw [read] at both
  rcases both with hands | ⟨after, quietly, passes⟩
  · exact .inl hands
  · cases quietly
    exact .inr ⟨rfl, passes⟩

theorem sublist_of_read {symbol : Symbol} {next : Option Char} {events : List Event}
    (read : reading.read symbol next = .ok (later, events)) :
    (events.flatMap Event.holes ++ later.holes).Sublist (reading.holes ++ symbol.holes) := by
  rcases holes_of_read read with same | ⟨rfl, passes⟩
  · exact same ▸ List.Sublist.refl _
  · rw [passes.holes_eq]
    exact List.nil_sublist _

end Reading

/-! ## Building -/

namespace Builder

variable {builder built : Builder}

theorem holes_add (builder : Builder) (node : Node) :
    (builder.add node).holes = builder.holes ++ node.holes := by
  rcases builder with ⟨finished, stack⟩
  cases stack with
  | nil => simp [add, Builder.holes]
  | cons innermost rest => simp [add, Builder.holes, OpenElement.holes]

theorem holes_apply {event : Event} (applied : builder.apply event = .ok built) :
    built.holes = builder.holes ++ event.holes := by
  cases event with
  | text content => cases applied; exact builder.holes_add _
  | markup content => cases applied; exact builder.holes_add _
  | hole index => cases applied; exact builder.holes_add _
  | empty tag =>
      cases applied
      rw [holes_add, Node.holes]
      exact congrArg _ (List.append_nil _)
  | opening tag =>
      cases applied
      simp [Builder.holes, OpenElement.holes, Event.holes, holesOfNodes]
  | closing name =>
      rcases builder with ⟨finished, stack⟩
      cases stack with
      | nil => cases applied
      | cons innermost rest =>
          have added := @close_eq_ok ⟨finished, rest⟩ _ _ _ _ applied
          rw [added, holes_add]
          simp [Builder.holes, OpenElement.holes, Event.holes, Node.holes]

theorem holes_applyAll {events : List Event} (applied : builder.applyAll events = .ok built) :
    built.holes = builder.holes ++ events.flatMap Event.holes := by
  induction events generalizing builder with
  | nil =>
      cases applied
      exact (List.append_nil _).symm
  | cons event rest induction =>
      rw [applyAll] at applied
      cases given : builder.apply event with
      | error cause =>
          rw [given] at applied
          cases applied
      | ok between =>
          rw [given] at applied
          rw [induction applied, holes_apply given, List.flatMap_cons, List.append_assoc]

end Builder

/-! ## Whole templates -/

theorem holes_of_finishReading {reading : Reading} {builder : Builder} {nodes : List Node}
    (finished : finishReading reading builder = .ok nodes) :
    holesOfNodes nodes = builder.holes ∧ reading.holes = [] := by
  unfold finishReading at finished
  cases reading with
  | text run =>
      rcases applied : builder.applyAll (Reading.textEvents run) with cause | built
      · rw [Reading.finish] at finished
        dsimp only [bind, Except.bind] at finished
        rw [applied] at finished
        cases finished
      · rw [Reading.finish] at finished
        dsimp only [bind, Except.bind] at finished
        rw [applied] at finished
        rcases Builder.finish_eq_ok.mp finished with ⟨closed, rfl⟩
        have same := Builder.holes_applyAll applied
        rw [Reading.holes_textEvents, List.append_nil, Builder.holes, closed, List.reverse_nil,
          List.flatMap_nil, List.append_nil] at same
        exact ⟨same, rfl⟩
  | tagName | attributes | attributeName | attributeValue | quotedValue | unquotedValue | selfClosing
  | closingTag | comment | declaration => cases finished

theorem holes_of_readFrom {reading : Reading} {builder : Builder} {position : Nat}
    {symbols : List Symbol} {nodes : List Node}
    (read : readFrom reading builder position symbols = .ok nodes) :
    (holesOfNodes nodes).Sublist (builder.holes ++ reading.holes ++ symbols.flatMap Symbol.holes) := by
  induction symbols generalizing reading builder position with
  | nil =>
      unfold readFrom at read
      cases finished : finishReading reading builder with
      | error cause =>
          rw [finished] at read
          cases read
      | ok final =>
          rw [finished] at read
          cases read
          rw [List.flatMap_nil, List.append_nil, (holes_of_finishReading finished).1]
          exact List.sublist_append_left _ _
  | cons symbol rest induction =>
      unfold readFrom advance at read
      cases step : reading.read symbol (Symbol.firstCharacter? rest) with
      | error cause =>
          rw [step] at read
          cases read
      | ok after =>
          rcases after with ⟨later, events⟩
          have kept := Reading.sublist_of_read step
          rw [step] at read
          dsimp only [bind, Except.bind] at read
          cases applied : builder.applyAll events with
          | error cause =>
              rw [applied] at read
              cases read
          | ok built =>
              rw [applied] at read
              have below := induction read
              have onward := (kept.append_right (rest.flatMap Symbol.holes)).append_left
                builder.holes
              rw [Builder.holes_applyAll applied] at below
              rw [List.flatMap_cons]
              simp only [List.append_assoc] at below onward ⊢
              exact below.trans onward

/-- The holes of a template are the numbers of its interpolations. -/
theorem holes_ofStringsFrom (index : Nat) (strings : List String) :
    (Symbol.ofStringsFrom index strings).flatMap Symbol.holes
      = List.range' index (strings.length - 1) := by
  have static : ∀ text : String, (Symbol.ofText text).flatMap Symbol.holes = [] := by
    intro text
    simp [Symbol.ofText, Symbol.holes]
  induction strings generalizing index with
  | nil => rfl
  | cons head tail induction =>
      cases tail with
      | nil => exact static head
      | cons next rest =>
          have more : Symbol.ofStringsFrom index (head :: next :: rest)
              = Symbol.ofText head ++ .hole index :: Symbol.ofStringsFrom (index + 1) (next :: rest) :=
            rfl
          rw [more, List.flatMap_append, static, List.nil_append, List.flatMap_cons, induction]
          rfl

theorem holes_of_readStrings {strings : List String} {nodes : List Node}
    (read : readStrings strings = .ok nodes) :
    (holesOfNodes nodes).Sublist (List.range (strings.length - 1)) := by
  have kept := holes_of_readFrom read
  rw [show Symbol.ofStrings strings = Symbol.ofStringsFrom 0 strings from rfl,
    holes_ofStringsFrom, ← List.range_eq_range'] at kept
  exact kept

/-! ## Filling -/

section Filling

variable {values others : List Value}

theorem Piece.fill_congr {piece : Piece}
    (agree : ∀ index ∈ piece.hole?, valueAt values index = valueAt others index) :
    piece.fill values = piece.fill others := by
  cases piece with
  | text content => rfl
  | hole index => exact congrArg Value.written (agree index rfl)

theorem mapM_pieceFill_congr {pieces : List Piece}
    (agree : ∀ index ∈ holesOfPieces pieces, valueAt values index = valueAt others index) :
    pieces.mapM (Piece.fill values) = pieces.mapM (Piece.fill others) := by
  induction pieces with
  | nil => rfl
  | cons head tail induction =>
      have apart : holesOfPieces (head :: tail) = holesOfPieces [head] ++ holesOfPieces tail :=
        holesOfPieces_append [head] tail
      rw [apart] at agree
      have here : head.fill values = head.fill others := Piece.fill_congr fun index member =>
        agree index (List.mem_append_left _ (List.mem_filterMap.mpr
          ⟨head, List.mem_cons_self, member⟩))
      rw [List.mapM_cons, List.mapM_cons, here,
        induction fun index member => agree index (List.mem_append_right _ member)]

theorem AttributeValue.fill_congr {value : AttributeValue}
    (agree : ∀ index ∈ value.holes, valueAt values index = valueAt others index) :
    value.fill values = value.fill others := by
  cases value with
  | bare | text => rfl
  | hole index => exact congrArg Except.ok (agree index List.mem_cons_self)
  | mixed pieces =>
      exact congrArg (fun shown => shown >>= fun shown => pure (Value.text (String.join shown)))
        (mapM_pieceFill_congr agree)

theorem Attribute.fill_congr {added : Attribute} (before : Entries)
    (agree : ∀ index ∈ added.holes, valueAt values index = valueAt others index) :
    added.fill values before = added.fill others before := by
  cases added with
  | named name value => rw [fill, fill, AttributeValue.fill_congr agree]
  | spread index => rw [fill, fill, agree index List.mem_cons_self]

theorem fillAttributes_congr {attributes : List Attribute}
    (agree : ∀ index ∈ attributes.flatMap Attribute.holes,
      valueAt values index = valueAt others index) :
    fillAttributes values attributes = fillAttributes others attributes := by
  unfold fillAttributes
  generalize ([] : Entries) = before
  induction attributes generalizing before with
  | nil => rfl
  | cons head tail induction =>
      rw [List.flatMap_cons] at agree
      have here := Attribute.fill_congr before
        fun index member => agree index (List.mem_append_left _ member)
      rw [List.foldlM_cons, List.foldlM_cons, here]
      have later := fun entries => induction
        (fun index member => agree index (List.mem_append_right _ member)) entries
      exact congrArg _ (funext later)

theorem TagName.fill_congr {name : TagName}
    (agree : ∀ index ∈ name.holes, valueAt values index = valueAt others index) :
    name.fill values = name.fill others := by
  cases name with
  | literal name => rfl
  | hole index => exact agree index List.mem_cons_self

mutual
theorem Node.fill_congr (node : Node) (start : Nat)
    (agree : ∀ index ∈ node.holes, valueAt values index = valueAt others index) :
    node.fill values start = node.fill others start := by
  cases node with
  | text | markup => rfl
  | hole index => rw [Node.fill, Node.fill, agree index List.mem_cons_self]
  | element tag children =>
      rw [Node.holes, Tag.holes, List.append_assoc] at agree
      have name := TagName.fill_congr fun index member =>
        agree index (List.mem_append_left _ member)
      have attributes := fillAttributes_congr fun index member =>
        agree index (List.mem_append_right _ (List.mem_append_left _ member))
      have below := fillNodes_congr children start fun index member =>
        agree index (List.mem_append_right _ (List.mem_append_right _ member))
      rw [Node.fill, Node.fill, name, attributes, below]

theorem fillNodes_congr (nodes : List Node) (start : Nat)
    (agree : ∀ index ∈ holesOfNodes nodes, valueAt values index = valueAt others index) :
    fillNodes values start nodes = fillNodes others start nodes := by
  cases nodes with
  | nil => rfl
  | cons head tail =>
      rw [holesOfNodes] at agree
      have here := Node.fill_congr head start fun index member =>
        agree index (List.mem_append_left _ member)
      have later := fun next => fillNodes_congr tail next fun index member =>
        agree index (List.mem_append_right _ member)
      rw [fillNodes, fillNodes, here]
      simp only [later]
end

/-- Filling looks at the values in the holes of the nodes, and at no others. -/
theorem fillForest_congr (nodes : List Node) (start : Nat)
    (agree : ∀ index ∈ holesOfNodes nodes, valueAt values index = valueAt others index) :
    fillForest values start nodes = fillForest others start nodes := by
  have same := fillNodes_congr nodes start agree
  unfold fillForest
  split
  · next tag children =>
      rw [holesOfNodes_singleton] at agree
      rw [Node.fill_congr _ start agree]
  · rw [same]

end Filling
end HtmlStream.Template
