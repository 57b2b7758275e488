import HtmlStream.Proofs.Template.Drafts
import HtmlStream.Proofs.Template.Nesting

/-!
The machine and the reader do the same: after every symbol the fields of the machine hold what the
reading says and the builder has, and the machine stops where the reader does. The main statements are
`agrees_step` for one symbol and `readFrom_eq` for all that follow.
-/
namespace HtmlStream.Template.Machine

open Reading

/-- The tree so far, where no attributes are being read. -/
structure HoldsTree (machine : Machine) (builder : Builder) : Prop where
  current : machine.current? = none
  spine : Spine machine.nodes machine.stack builder []

/-- The tree so far, and the tag of the node whose attributes are being read. -/
structure HoldsTag (machine : Machine) (builder : Builder) (tag : Tag) : Prop where
  exists_made : ∃ made, machine.current? = some made.length ∧
    machine.nodes = made ++ [⟨.tag tag.name, tag.attributes.reverse, []⟩] ∧
    Spine made machine.stack builder [.node made.length]
  text : machine.text = []

/-- The fields of a machine that are in use hold a reading and what is built. -/
def Represents (machine : Machine) (builder : Builder) : Reading → Prop
  | .text run =>
      machine.mode = .text ∧ machine.HoldsTree builder ∧ machine.text = run.reverse
  | .tagName name hole =>
      machine.mode = .tagOpen ∧ machine.HoldsTree builder ∧ machine.text = [] ∧
        machine.name = name.reverse ∧ machine.slot? = hole
  | .attributes tag => machine.mode = .attributes ∧ machine.HoldsTag builder tag
  | .attributeName tag name =>
      machine.mode = .attributeName ∧ machine.HoldsTag builder tag ∧ machine.name = name.reverse
  | .attributeValue tag name =>
      machine.mode = .attributeEquals ∧ machine.HoldsTag builder tag ∧
        machine.name = name.reverse ∧ machine.value = []
  | .quotedValue tag name quote pieces =>
      machine.mode = .quotedValue ∧ machine.HoldsTag builder tag ∧ machine.name = name.reverse ∧
        machine.quote? = some quote ∧ machine.value = pieces.reverse
  | .unquotedValue tag name pieces =>
      machine.mode = .unquotedValue ∧ machine.HoldsTag builder tag ∧
        machine.name = name.reverse ∧ machine.value = pieces.reverse ∧ pieces ≠ []
  | .selfClosing tag => machine.mode = .selfClose ∧ machine.HoldsTag builder tag
  | .closingTag name =>
      machine.mode = .closeTag ∧ machine.HoldsTree builder ∧ machine.text = [] ∧
        machine.name = name.reverse
  | .comment tail =>
      machine.mode = .comment ∧ machine.HoldsTree builder ∧ machine.text = [] ∧
        machine.tail.reverse.take 2 = tail
  | .declaration name =>
      machine.mode = .declaration ∧ machine.HoldsTree builder ∧ machine.text = [] ∧
        machine.name = name.reverse

/-- Give the events of a symbol to the builder. -/
def given (builder : Builder) (read : Reading.Result) :
    Except SyntaxCause (Reading × Builder) := do
  let (reading, events) ← read
  return (reading, ← builder.applyAll events)

/-- A machine comes to what a reader comes to. -/
def Agrees (result : Result) : Except SyntaxCause (Reading × Builder) → Prop
  | .ok (reading, builder) => ∃ after, result = .ok after ∧ after.Represents builder reading
  | .error cause => result = failing cause

variable {machine after : Machine} {builder : Builder} {tag : Tag} {name run : List Char}
  {hole : Option Nat} {pieces : List Piece} {reading : Reading}

section Given

variable {events : List Event} {built : Builder} {cause : SyntaxCause}

theorem given_of_ok (applied : builder.applyAll events = .ok built) :
    given builder (.ok (reading, events)) = .ok (reading, built) := by
  unfold given
  dsimp only [bind, Except.bind]
  rw [applied]
  rfl

theorem given_of_error (refused : builder.applyAll events = .error cause) :
    given builder (.ok (reading, events)) = .error cause := by
  unfold given
  dsimp only [bind, Except.bind]
  rw [refused]

end Given

theorem agrees_quiet (represents : after.Represents builder reading) :
    Agrees (.ok after) (given builder (quiet reading)) :=
  ⟨after, rfl, represents⟩

/-! ## The tree -/

theorem HoldsTree.addLeaf {child : Child} {node : Node} (tree : machine.HoldsTree builder)
    (leaf : IsLeaf child node) : ∃ changed,
    machine.addChild child = .ok { machine with nodes := changed } ∧
      Spine changed machine.stack (builder.add node) [] := by
  rcases Spine.addChild (List.append_nil machine.nodes).symm tree.spine child with
    ⟨changed, added, _, grown⟩
  rw [List.append_nil] at added
  exact ⟨changed, added, grown.addLeaf leaf⟩

theorem flushText_eq (tree : machine.HoldsTree builder) (text : machine.text = run.reverse) :
    ∃ changed built, machine.flushText = .ok { machine with text := [], nodes := changed } ∧
      builder.applyAll (textEvents run) = .ok built ∧ Spine changed machine.stack built [] := by
  unfold flushText textEvents
  rw [← text]
  cases empty : machine.text.isEmpty with
  | true =>
      have nothing := List.isEmpty_iff.mp empty
      have unchanged : { machine with text := [], nodes := machine.nodes } = machine := by
        rw [← nothing]
      refine ⟨machine.nodes, builder, ?_, ?_, tree.spine⟩
      · rw [unchanged, if_pos rfl]
      · rw [nothing]
        rfl
  | false =>
      rw [if_neg Bool.false_ne_true]
      dsimp only
      cases Text.trimBreaks machine.text with
      | nil => exact ⟨machine.nodes, builder, rfl, rfl, tree.spine⟩
      | cons first rest =>
          have tree : { machine with text := [] }.HoldsTree builder := ⟨tree.current, tree.spine⟩
          rcases tree.addLeaf (.text (String.ofList (first :: rest))) with ⟨changed, added, grown⟩
          exact ⟨changed, _, added, rfl, grown⟩

/-- A tag is begun in the innermost open node. -/
theorem beginNode_eq (tree : machine.HoldsTree builder) (text : machine.text = [])
    (name : TagName) : ∃ begun, machine.beginNode name = .ok begun ∧
      begun.HoldsTag builder ⟨name, []⟩ := by
  unfold beginNode
  dsimp only
  let begun : Machine := { machine with
    nodes := machine.nodes ++ [⟨.tag name, [], []⟩], current? := some machine.nodes.length }
  have laid : begun.nodes = machine.nodes ++ [⟨.tag name, [], []⟩] := rfl
  rcases Spine.addChild laid tree.spine (.node machine.nodes.length) with ⟨changed, added, sameLength, grown⟩
  refine ⟨_, added, ⟨changed, ?_, rfl, ?_⟩, text⟩
  · rw [sameLength]
  · rwa [sameLength]

theorem beginElement_eq (tree : machine.HoldsTree builder) (text : machine.text = [])
    (named : machine.name = name.reverse) (slot : machine.slot? = hole) :
    match beginTag name hole with
    | .ok tag => ∃ begun, machine.beginElement = .ok begun ∧ begun.HoldsTag builder tag
    | .error cause => machine.beginElement = failing cause := by
  unfold beginElement beginTag
  rw [slot, named]
  cases hole with
  | some index => exact beginNode_eq tree text (.hole index)
  | none =>
      dsimp only
      rw [List.isEmpty_reverse]
      cases name.isEmpty with
      | true => rfl
      | false => exact beginNode_eq tree text (.literal (nameOf name))

theorem openElement_eq (holds : machine.HoldsTag builder tag) :
    ∃ opened built, machine.openElement = .ok opened ∧
      builder.applyAll [openEvent tag] = .ok built ∧ opened.Represents built (.text []) := by
  rcases holds.exists_made with ⟨made, current, nodes, spine⟩
  have found : machine.nodes[made.length]? = some ⟨.tag tag.name, tag.attributes.reverse, []⟩ := by
    rw [nodes, List.getElem?_concat_length]
  unfold openElement openEvent
  rw [current]
  dsimp only
  rw [found]
  dsimp only
  have added : Spine machine.nodes machine.stack (builder.add (.element (finished tag) [])) [] := by
    rw [nodes]
    exact spine.addElement (finished tag) (.nil _)
  have opened : Spine machine.nodes (made.length :: machine.stack)
      (builder.opened (finished tag) []) [] := by
    rw [nodes]
    exact .inside (finished tag) spine (.nil _) []
  cases named : tag.name with
  | hole index => exact ⟨_, _, rfl, rfl, rfl, ⟨rfl, opened⟩, holds.text⟩
  | literal name =>
      have sameVoid : (Draft.mk (.tag (.literal name)) tag.attributes.reverse []).isVoid
          = isVoid name := rfl
      rw [sameVoid]
      dsimp only
      by_cases void : isVoid name = true
      · rw [if_pos void, if_pos void]
        exact ⟨_, _, rfl, rfl, rfl, ⟨rfl, added⟩, holds.text⟩
      · rw [if_neg void, if_neg void]
        exact ⟨_, _, rfl, rfl, rfl, ⟨rfl, opened⟩, holds.text⟩

theorem addAttribute_eq (holds : machine.HoldsTag builder tag) (added : Attribute) :
    ∃ after, machine.addAttribute added = .ok after ∧
      after.HoldsTag builder (withAttribute tag added) := by
  rcases holds.exists_made with ⟨made, current, nodes, spine⟩
  unfold addAttribute modifyNode
  rw [current]
  dsimp only
  have modified := modify_append_cons made [] ⟨.tag tag.name, tag.attributes.reverse, []⟩
    (Draft.addAttribute added)
  rw [nodes, modified, if_pos (by simp)]
  refine ⟨_, rfl, ⟨made, rfl, ?_, spine⟩, holds.text⟩
  simp [Draft.addAttribute, withAttribute]

theorem commit_eq (holds : machine.HoldsTag builder tag) (named : machine.name = name.reverse)
    (value : AttributeValue) : ∃ committed, machine.commit value = .ok committed ∧
      committed.HoldsTag builder (withAttribute tag (.named (nameOf name) value)) := by
  rcases addAttribute_eq holds (.named (nameOf name) value) with ⟨after, added, changed⟩
  unfold commit
  rw [named, show String.ofList name.reverse = nameOf name from rfl, added]
  exact ⟨_, rfl, changed.exists_made, changed.text⟩

theorem commitValue_eq (holds : machine.HoldsTag builder tag)
    (named : machine.name = name.reverse) (valued : machine.value = pieces.reverse) :
    ∃ committed, machine.commitValue = .ok committed ∧
      committed.HoldsTag builder (withValue tag name pieces) := by
  have holding : { machine with value := [] }.HoldsTag builder tag :=
    ⟨holds.exists_made, holds.text⟩
  rcases commit_eq holding named (.ofPieces pieces.reverse) with ⟨committed, done, after⟩
  unfold commitValue
  rw [valued]
  exact ⟨committed, done, after⟩

/-- The innermost open element is closed under any name that fits it. -/
theorem close_opened (around : Builder) (tag : Tag) (inner : List Node) (name : String) :
    (around.opened tag inner).close name
      = match Builder.closingFault? tag name with
        | some cause => .error cause
        | none => .ok (around.add (.element tag inner.reverse)) := by
  unfold Builder.close Builder.opened
  rfl

theorem closeElement_eq (tree : machine.HoldsTree builder) (text : machine.text = [])
    (named : machine.name = name.reverse) :
    Agrees machine.closeElement (given builder (.ok (.text [], [.closing (nameOf name)]))) := by
  have single : builder.applyAll [.closing (nameOf name)] = builder.close (nameOf name) :=
    Builder.applyAll_concat (show builder.applyAll [] = .ok builder from rfl) _
  unfold closeElement
  rw [named, show String.ofList name.reverse = nameOf name from rfl]
  rcases tree.spine.closes with
    ⟨alone, rootOnly⟩ | ⟨tag, inner, around, number, outer, stacked, nonempty, type, rfl, closed⟩
  · have refused : builder.close (nameOf name) = .error (.unexpectedClosing (nameOf name)) := by
      unfold Builder.close
      rw [rootOnly]
    rw [if_pos alone, given_of_error (single.trans refused)]
    rfl
  · have more : machine.stack.length ≠ 1 := by
      rw [stacked, List.length_cons]
      intro one
      exact nonempty (List.length_eq_zero_iff.mp (Nat.succ.inj one))
    rcases Option.map_eq_some_iff.mp type with ⟨⟨_, attributes, children⟩, found, rfl⟩
    rw [if_neg more, stacked]
    dsimp only
    rw [found]
    have closes := close_opened around tag inner (nameOf name)
    have fits : (around.opened tag inner).close (nameOf name)
          = .ok (around.add (.element tag inner.reverse)) →
        Agrees (.ok { machine with stack := outer, mode := .text, name := name.reverse })
          (given (around.opened tag inner) (.ok (.text [], [.closing (nameOf name)]))) := by
      intro accepted
      rw [given_of_ok (single.trans accepted)]
      exact ⟨_, rfl, rfl, ⟨tree.current, closed⟩, text⟩
    unfold Builder.closingFault? at closes
    cases type : tag.name with
    | hole index =>
        rw [type] at closes
        exact fits closes
    | literal expected =>
        rw [type] at closes
        dsimp only at closes ⊢
        split
        · next differs =>
            rw [if_pos differs] at closes
            rw [given_of_error (single.trans closes)]
            rfl
        · next repeats =>
            rw [if_neg repeats] at closes
            exact fits closes

theorem appendValue_eq (valued : machine.value = pieces.reverse) (character : Char) :
    machine.appendValue character
      = .ok { machine with value := (appendCharacter character pieces).reverse } := by
  unfold appendValue
  rw [valued]
  cases pieces with
  | nil => rfl
  | cons last before =>
      cases last <;> simp [appendCharacter]

/-! ## Characters -/

theorem agrees_ite {condition : Prop} [Decidable condition] {first second : Result}
    {read other : Reading.Result} (yes : condition → Agrees first (given builder read))
    (no : ¬ condition → Agrees second (given builder other)) :
    Agrees (if condition then first else second)
      (given builder (if condition then read else other)) := by
  split_ifs with holds
  · exact yes holds
  · exact no holds

theorem agrees_openElement (holds : machine.HoldsTag builder tag) :
    Agrees machine.openElement (given builder (.ok (.text [], [openEvent tag]))) := by
  rcases openElement_eq holds with ⟨opened, built, opens, applied, represents⟩
  rw [given_of_ok applied]
  exact ⟨opened, opens, represents⟩

theorem agrees_inText (represents : machine.Represents builder (.text run)) (character : Char) :
    Agrees (machine.inText character) (given builder (Reading.inText run character)) := by
  rcases represents with ⟨mode, tree, text⟩
  apply agrees_ite
  · intro bracket
    rcases flushText_eq tree text with ⟨changed, built, flushed, applied, spine⟩
    rw [flushed, given_of_ok applied]
    exact ⟨_, rfl, rfl, ⟨tree.current, spine⟩, rfl, rfl, rfl⟩
  · intro other
    exact agrees_quiet ⟨mode, ⟨tree.current, tree.spine⟩, by simp [text]⟩

/-- Where a tag is begun, the machine goes on with the node and the reader with the tag. -/
theorem agrees_beginElement (represents : machine.Represents builder (.tagName name hole))
    {next : Machine → Result} {read : Tag → Reading.Result}
    (onward : ∀ begun tag, begun.HoldsTag builder tag → Agrees (next begun) (given builder (read tag))) :
    Agrees (machine.beginElement >>= next) (given builder (beginTag name hole >>= read)) := by
  rcases represents with ⟨_, tree, text, named, slot⟩
  have begins := beginElement_eq tree text named slot
  cases began : beginTag name hole with
  | ok tag =>
      rw [began] at begins
      rcases begins with ⟨begun, done, holds⟩
      rw [done]
      exact onward begun tag holds
  | error cause =>
      rw [began] at begins
      rw [begins]
      rfl

theorem agrees_extendTagName (represents : machine.Represents builder (.tagName name hole))
    (character : Char) : Agrees (.ok (machine.extendTagName character))
      (given builder (quiet (afterTagName (character :: name) hole))) := by
  rcases represents with ⟨mode, tree, text, named, slot⟩
  have tree : HoldsTree { machine with name := (character :: name).reverse } builder :=
    ⟨tree.current, tree.spine⟩
  unfold extendTagName afterTagName
  rw [named, ← List.reverse_cons]
  dsimp only
  rw [show String.ofList (character :: name).reverse = nameOf (character :: name) from rfl]
  split_ifs
  · exact agrees_quiet ⟨rfl, ⟨tree.current, tree.spine⟩, text, rfl⟩
  · exact agrees_quiet ⟨rfl, ⟨tree.current, tree.spine⟩, text, rfl⟩
  · exact agrees_quiet ⟨mode, tree, text, rfl, slot⟩

theorem agrees_inTagOpen (represents : machine.Represents builder (.tagName name hole))
    (character : Char) :
    Agrees (machine.inTagOpen character) (given builder (Reading.inTagName name hole character)) := by
  have onward : ∀ {mode : Mode} {begun : Machine} {tag : Tag}, begun.HoldsTag builder tag →
      (begun.into mode).HoldsTag builder tag :=
    fun holds => ⟨holds.exists_made, holds.text⟩
  have fresh : (character = '/' && machine.name.isEmpty && machine.slot?.isNone)
      = (character = '/' && name.isEmpty && hole.isNone) := by
    rw [represents.2.2.2.1, represents.2.2.2.2, List.isEmpty_reverse]
  unfold inTagOpen Reading.inTagName
  rw [fresh]
  apply agrees_ite
  · intro closing
    exact agrees_quiet ⟨rfl, ⟨represents.2.1.current, represents.2.1.spine⟩, represents.2.2.1, rfl⟩
  intro _
  apply agrees_ite
  · intro blank
    exact agrees_beginElement represents fun begun tag holds => agrees_quiet ⟨rfl, onward holds⟩
  intro _
  apply agrees_ite
  · intro bracket
    exact agrees_beginElement represents fun begun tag holds => agrees_openElement holds
  intro _
  apply agrees_ite
  · intro slash
    exact agrees_beginElement represents fun begun tag holds => agrees_quiet ⟨rfl, onward holds⟩
  · intro _
    exact agrees_extendTagName represents character

theorem agrees_inAttributes (represents : machine.Represents builder (.attributes tag))
    (character : Char) :
    Agrees (machine.inAttributes character)
      (given builder (Reading.inAttributes tag character)) := by
  rcases represents with ⟨mode, holds⟩
  apply agrees_ite
  · intro blank
    exact agrees_quiet ⟨mode, holds⟩
  intro _
  apply agrees_ite
  · intro bracket
    exact agrees_openElement holds
  intro _
  apply agrees_ite
  · intro slash
    exact agrees_quiet ⟨rfl, holds.exists_made, holds.text⟩
  intro _
  apply agrees_ite
  · intro unexpected
    rfl
  · intro _
    exact agrees_quiet ⟨rfl, ⟨holds.exists_made, holds.text⟩, rfl⟩

/-- Where an attribute is committed, the machine goes on with the node that has it. -/
theorem agrees_commit {commits : Result} {committed : Tag}
    (done : ∃ after, commits = .ok after ∧ after.HoldsTag builder committed)
    {next : Machine → Result} {read : Reading.Result}
    (onward : ∀ after, after.HoldsTag builder committed → Agrees (next after) (given builder read)) :
    Agrees (commits >>= next) (given builder read) := by
  rcases done with ⟨after, rfl, holds⟩
  exact onward after holds

theorem agrees_inAttributeName (represents : machine.Represents builder (.attributeName tag name))
    (character : Char) :
    Agrees (machine.inAttributeName character)
      (given builder (Reading.inAttributeName tag name character)) := by
  rcases represents with ⟨mode, holds, named⟩
  have committed := commit_eq holds named .bare
  apply agrees_ite
  · intro equals
    exact agrees_quiet ⟨rfl, ⟨holds.exists_made, holds.text⟩, named, rfl⟩
  intro _
  apply agrees_ite
  · intro blank
    exact agrees_commit committed fun after holds =>
      agrees_quiet ⟨rfl, holds.exists_made, holds.text⟩
  intro _
  apply agrees_ite
  · intro bracket
    exact agrees_commit committed fun after holds => agrees_openElement holds
  intro _
  apply agrees_ite
  · intro slash
    exact agrees_commit committed fun after holds =>
      agrees_quiet ⟨rfl, holds.exists_made, holds.text⟩
  · intro _
    exact agrees_quiet ⟨mode, ⟨holds.exists_made, holds.text⟩, by simp [named]⟩

theorem agrees_inAttributeEquals
    (represents : machine.Represents builder (.attributeValue tag name)) (character : Char) :
    Agrees (machine.inAttributeEquals character)
      (given builder (Reading.inAttributeValue tag name character)) := by
  rcases represents with ⟨mode, holds, named, valued⟩
  apply agrees_ite
  · intro quote
    exact agrees_quiet ⟨rfl, ⟨holds.exists_made, holds.text⟩, named, rfl, valued⟩
  intro _
  apply agrees_ite
  · intro blank
    exact agrees_quiet ⟨mode, holds, named, valued⟩
  intro _
  apply agrees_ite
  · intro bracket
    rw [named]
    rfl
  · intro _
    have empty : machine.value = List.reverse [] := valued
    rw [appendValue_eq empty]
    exact agrees_quiet ⟨rfl, ⟨holds.exists_made, holds.text⟩, named, rfl, List.cons_ne_nil _ _⟩

theorem agrees_inQuotedValue {quote : Char}
    (represents : machine.Represents builder (.quotedValue tag name quote pieces))
    (character : Char) :
    Agrees (machine.inQuotedValue character)
      (given builder (Reading.inQuotedValue tag name quote pieces character)) := by
  rcases represents with ⟨mode, holds, named, quoted, valued⟩
  have same : (machine.quote? = some character) = (character = quote) := by
    rw [quoted, Option.some.injEq]
    exact propext eq_comm
  unfold inQuotedValue Reading.inQuotedValue
  simp only [same]
  apply agrees_ite
  · intro closing
    exact agrees_commit (commitValue_eq holds named valued) fun after holds =>
      agrees_quiet ⟨rfl, holds.exists_made, holds.text⟩
  · intro _
    rw [appendValue_eq valued]
    exact agrees_quiet ⟨mode, ⟨holds.exists_made, holds.text⟩, named, quoted, rfl⟩

theorem appendCharacter_ne_nil (character : Char) (pieces : List Piece) :
    appendCharacter character pieces ≠ [] := by
  unfold appendCharacter
  split <;> exact List.cons_ne_nil _ _

theorem agrees_inUnquotedValue
    (represents : machine.Represents builder (.unquotedValue tag name pieces)) (character : Char)
    (next : Option Char) :
    Agrees (machine.inUnquotedValue character next)
      (given builder (Reading.inUnquotedValue tag name pieces character next)) := by
  rcases represents with ⟨mode, holds, named, valued, nonempty⟩
  have committed := commitValue_eq holds named valued
  apply agrees_ite
  · intro blank
    exact agrees_commit committed fun after holds =>
      agrees_quiet ⟨rfl, holds.exists_made, holds.text⟩
  intro _
  apply agrees_ite
  · intro bracket
    exact agrees_commit committed fun after holds => agrees_openElement holds
  intro _
  apply agrees_ite
  · intro slash
    exact agrees_commit committed fun after holds =>
      agrees_quiet ⟨rfl, holds.exists_made, holds.text⟩
  · intro _
    rw [appendValue_eq valued]
    exact agrees_quiet ⟨mode, ⟨holds.exists_made, holds.text⟩, named, rfl,
      appendCharacter_ne_nil character pieces⟩

theorem agrees_inSelfClose (represents : machine.Represents builder (.selfClosing tag))
    (character : Char) :
    Agrees (machine.inSelfClose character)
      (given builder (Reading.inSelfClosing tag character)) := by
  rcases represents with ⟨mode, holds⟩
  apply agrees_ite
  · intro bracket
    rcases holds.exists_made with ⟨made, current, nodes, spine⟩
    have closed : Spine machine.nodes machine.stack
        (builder.add (.element (finished tag) [])) [] := by
      rw [nodes]
      exact spine.addElement (finished tag) (.nil _)
    exact ⟨_, rfl, rfl, ⟨rfl, closed⟩, holds.text⟩
  intro _
  apply agrees_ite
  · intro blank
    exact agrees_quiet ⟨mode, holds⟩
  · intro _
    rfl

theorem agrees_inCloseTag (represents : machine.Represents builder (.closingTag name))
    (character : Char) :
    Agrees (machine.inCloseTag character)
      (given builder (Reading.inClosingTag name character)) := by
  rcases represents with ⟨mode, tree, text, named⟩
  apply agrees_ite
  · intro bracket
    exact closeElement_eq tree text named
  intro _
  apply agrees_ite
  · intro ignored
    exact agrees_quiet ⟨mode, tree, text, named⟩
  · intro _
    exact agrees_quiet ⟨mode, ⟨tree.current, tree.spine⟩, text, by simp [named]⟩

/-- The machine keeps the last three characters of a comment, the reader the two before the last. -/
theorem agrees_inComment {tail : List Char}
    (represents : machine.Represents builder (.comment tail)) (character : Char) :
    Agrees (machine.inComment character) (given builder (Reading.inComment tail character)) := by
  rcases represents with ⟨mode, tree, text, rfl⟩
  have lastThree : ((machine.tail ++ [character]).drop ((machine.tail ++ [character]).length - 3))
      = ((character :: machine.tail.reverse).take 3).reverse := by
    rw [List.reverse_take]
    simp
  have ends : ((character :: machine.tail.reverse).take 3).reverse = ['-', '-', '>']
      ↔ (character = '>' && machine.tail.reverse.take 2 = ['-', '-']) = true := by
    rw [List.reverse_eq_iff, List.take_succ_cons]
    simp
  unfold inComment Reading.inComment
  dsimp only
  rw [lastThree]
  by_cases closing : ((character :: machine.tail.reverse).take 3).reverse = ['-', '-', '>']
  · rw [if_pos closing, if_pos (ends.mp closing)]
    exact agrees_quiet ⟨rfl, ⟨tree.current, tree.spine⟩, text⟩
  · rw [if_neg closing, if_neg (fun same => closing (ends.mpr same))]
    refine agrees_quiet ⟨mode, ⟨tree.current, tree.spine⟩, text, ?_⟩
    rw [List.reverse_reverse]
    simp [List.take_take]

theorem agrees_inDeclaration (represents : machine.Represents builder (.declaration name))
    (character : Char) :
    Agrees (machine.inDeclaration character)
      (given builder (Reading.inDeclaration name character)) := by
  rcases represents with ⟨mode, tree, text, named⟩
  apply agrees_ite
  · intro bracket
    rw [named, show String.ofList name.reverse = nameOf name from rfl]
    rcases tree.addLeaf (.markup ("<" ++ nameOf name ++ ">")) with ⟨changed, added, grown⟩
    rw [added]
    exact ⟨_, rfl, rfl, ⟨tree.current, grown⟩, text⟩
  · intro _
    exact agrees_quiet ⟨mode, ⟨tree.current, tree.spine⟩, text, by simp [named]⟩

/-! ## Symbols -/

theorem agrees_readCharacter (represents : machine.Represents builder reading) (character : Char)
    (next : Option Char) :
    Agrees (machine.readCharacter character next)
      (given builder (reading.readCharacter character next)) := by
  unfold readCharacter Reading.readCharacter
  cases reading with
  | text run => rw [represents.1]; exact agrees_inText represents character
  | tagName name hole => rw [represents.1]; exact agrees_inTagOpen represents character
  | attributes tag => rw [represents.1]; exact agrees_inAttributes represents character
  | attributeName tag name => rw [represents.1]; exact agrees_inAttributeName represents character
  | attributeValue tag name => rw [represents.1]; exact agrees_inAttributeEquals represents character
  | quotedValue tag name quote pieces =>
      rw [represents.1]
      exact agrees_inQuotedValue represents character
  | unquotedValue tag name pieces =>
      rw [represents.1]
      exact agrees_inUnquotedValue represents character next
  | selfClosing tag => rw [represents.1]; exact agrees_inSelfClose represents character
  | closingTag name => rw [represents.1]; exact agrees_inCloseTag represents character
  | comment tail => rw [represents.1]; exact agrees_inComment represents character
  | declaration name => rw [represents.1]; exact agrees_inDeclaration represents character

theorem agrees_readHole (represents : machine.Represents builder reading) (index : Nat) :
    Agrees (machine.readHole index) (given builder (reading.readHole index)) := by
  unfold readHole Reading.readHole
  cases reading with
  | text run =>
      rcases represents with ⟨mode, tree, text⟩
      rcases flushText_eq tree text with ⟨changed, built, flushed, applied, spine⟩
      have tree : HoldsTree { machine with text := [], nodes := changed } built :=
        ⟨tree.current, spine⟩
      rcases tree.addLeaf (.hole index) with ⟨grown, added, spine⟩
      have given : builder.applyAll (textEvents run ++ [.hole index])
          = .ok (built.add (.hole index)) := Builder.applyAll_concat applied _
      rw [mode, given_of_ok given]
      dsimp only
      rw [flushed]
      exact ⟨_, added, mode, ⟨tree.current, spine⟩, rfl⟩
  | tagName name hole =>
      rcases represents with ⟨mode, tree, text, named, slot⟩
      rw [mode]
      dsimp only
      rw [named, slot]
      cases name with
      | cons last before =>
          rw [List.isEmpty_reverse]
          rfl
      | nil =>
          cases hole with
          | some other => rfl
          | none => exact agrees_quiet ⟨rfl, ⟨tree.current, tree.spine⟩, text, rfl, rfl⟩
  | attributes tag => rw [represents.1]; rfl
  | attributeName tag name =>
      rcases represents with ⟨mode, holds, named⟩
      rw [mode]
      dsimp only
      rw [named, show String.ofList name.reverse = nameOf name from rfl]
      by_cases dots : nameOf name = "..."
      · rw [if_neg (not_not_intro dots), if_pos dots]
        exact agrees_commit (addAttribute_eq holds (.spread index)) fun after holds =>
          agrees_quiet ⟨rfl, holds.exists_made, holds.text⟩
      · rw [if_pos dots, if_neg dots]
        rfl
  | attributeValue tag name =>
      rcases represents with ⟨mode, holds, named, valued⟩
      rw [mode]
      exact agrees_quiet ⟨rfl, ⟨holds.exists_made, holds.text⟩, named, rfl, List.cons_ne_nil _ _⟩
  | quotedValue tag name quote pieces =>
      rcases represents with ⟨mode, holds, named, quoted, valued⟩
      rw [mode]
      exact agrees_quiet ⟨rfl, ⟨holds.exists_made, holds.text⟩, named, quoted, by simp [valued]⟩
  | unquotedValue tag name pieces =>
      rcases represents with ⟨mode, holds, named, valued, nonempty⟩
      rw [mode]
      exact agrees_quiet ⟨rfl, ⟨holds.exists_made, holds.text⟩, named, by simp [valued],
        List.cons_ne_nil _ _⟩
  | selfClosing tag => rw [represents.1]; rfl
  | closingTag name => rw [represents.1]; exact agrees_quiet represents
  | comment tail => rw [represents.1]; exact agrees_quiet represents
  | declaration name => rw [represents.1]; rfl

theorem agrees_step (represents : machine.Represents builder reading) (symbol : Symbol)
    (next : Option Char) : Agrees (machine.step symbol next) (advance reading builder symbol next) := by
  cases symbol with
  | character character => exact agrees_readCharacter represents character next
  | hole index => exact agrees_readHole represents index

/-! ## Whole templates -/

theorem finish_eq (represents : machine.Represents builder reading) :
    machine.finish = (finishReading reading builder).mapError Stop.fault := by
  unfold finish finishReading
  cases reading with
  | text run =>
      rcases represents with ⟨mode, tree, text⟩
      rcases flushText_eq tree text with ⟨changed, built, flushed, applied, spine⟩
      rw [if_pos mode, flushed]
      dsimp only [bind, Except.bind, Reading.finish]
      rw [applied]
      dsimp only
      unfold Builder.finish
      rcases spine.closes with
        ⟨alone, rootOnly⟩ | ⟨tag, inner, around, number, outer, stacked, nonempty, type, rfl, _⟩
      · have only : machine.stack = [0] := by
          rcases List.length_eq_one_iff.mp alone with ⟨number, single⟩
          have rooted := spine.stack_getLast?
          rw [single] at rooted ⊢
          cases rooted
          rfl
        rw [only] at spine ⊢
        rw [rootOnly]
        dsimp only
        have forest := @forest?_of_spine built { machine with text := [], nodes := changed, stack := [0] } spine
        rw [forest.2]
        rfl
      · rcases List.exists_cons_of_ne_nil nonempty with ⟨next, rest, rfl⟩
        rcases Option.map_eq_some_iff.mp type with ⟨draft, found, sameType⟩
        rw [stacked]
        dsimp only [unclosed, Builder.opened]
        rw [found]
        dsimp only
        rw [sameType]
        rfl
  | tagName | attributes | attributeName | attributeValue | quotedValue | unquotedValue | selfClosing
  | closingTag | comment | declaration =>
      rw [represents.1]
      rfl

theorem readFrom_eq (represents : machine.Represents builder reading) (position : Nat)
    (symbols : List Symbol) :
    machine.readFrom position symbols
      = (Template.readFrom reading builder position symbols).mapError Halt.fault := by
  induction symbols generalizing machine reading builder position with
  | nil =>
      unfold readFrom Template.readFrom
      rw [finish_eq represents]
      cases finishReading reading builder <;> rfl
  | cons symbol rest induction =>
      have agrees := agrees_step represents symbol (Symbol.firstCharacter? rest)
      unfold readFrom Template.readFrom
      cases advanced : advance reading builder symbol (Symbol.firstCharacter? rest) with
      | error cause =>
          rw [advanced] at agrees
          rw [show machine.step symbol _ = failing cause from agrees]
          rfl
      | ok next =>
          rw [advanced] at agrees
          rcases agrees with ⟨after, stepped, represents⟩
          rw [stepped]
          exact induction represents _

theorem represents_start : start.Represents .empty (.text []) :=
  ⟨rfl, ⟨rfl, .root (.nil 1) []⟩, rfl⟩

end HtmlStream.Template.Machine
