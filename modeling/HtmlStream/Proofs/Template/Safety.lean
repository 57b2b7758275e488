import HtmlStream.Proofs.Template.Filling
import HtmlStream.Proofs.Template.Holes
import HtmlStream.Proofs.Template.Machine

/-!
No template is an accident. Between any two symbols the root is at the bottom of the stack, a current
node is there exactly in the modes that need one, and an unquoted value has something in it; so the
machine never looks for what is not there. The main statement is `readsSafely`.
-/
namespace HtmlStream.Template.Machine

variable {machine : Machine} {builder : Builder} {tag : Tag} {reading : Reading}

/-! ## Between two symbols -/

theorem exists_represents_of_reaches {symbols rest : List Symbol}
    (reached : Reaches symbols machine rest) :
    ∃ builder reading, machine.Represents builder reading := by
  induction reached with
  | start => exact ⟨.empty, .text [], represents_start⟩
  | @steps machine after symbol rest reached stepped induction =>
      rcases induction with ⟨builder, reading, represents⟩
      have agrees := agrees_step represents symbol (Symbol.firstCharacter? rest)
      rw [stepped] at agrees
      cases advanced : advance reading builder symbol (Symbol.firstCharacter? rest) with
      | error cause =>
          rw [advanced] at agrees
          cases agrees
      | ok next =>
          rw [advanced] at agrees
          rcases agrees with ⟨same, equal, represents⟩
          cases equal
          exact ⟨_, _, represents⟩

theorem HoldsTree.isSound (tree : machine.HoldsTree builder)
    (outside : machine.mode.isInTag = false) : machine.IsSound where
  rooted := tree.spine.stack_getLast?
  root := tree.spine.root_type
  stacked _ := tree.spine.lt_length_of_mem
  current_isSome := by rw [tree.current, outside]; rfl
  current number member := by rw [tree.current] at member; cases member
  valued unquoted := by rw [unquoted] at outside; cases outside

theorem HoldsTag.isSound (holds : machine.HoldsTag builder tag)
    (inside : machine.mode.isInTag = true)
    (valued : machine.mode = .unquotedValue → machine.value ≠ []) : machine.IsSound := by
  rcases holds.exists_made with ⟨made, current, nodes, spine⟩
  have longer : machine.nodes.length = made.length + 1 := by rw [nodes, List.length_append]; rfl
  refine ⟨spine.stack_getLast?, ?_, ?_, ?_, ?_, valued⟩
  · have root := spine.root_type
    rw [nodes]
    cases made with
    | nil => cases root
    | cons first rest => exact root
  · intro number member
    rw [longer]
    exact Nat.lt_succ_of_lt (spine.lt_length_of_mem member)
  · rw [current, inside]
    rfl
  · intro number member
    rw [current] at member
    cases member
    rw [longer]
    exact Nat.lt_succ_self _

theorem isSound_of_represents (represents : machine.Represents builder reading) :
    machine.IsSound := by
  cases reading with
  | text | tagName | closingTag | comment | declaration =>
      exact represents.2.1.isSound (by rw [represents.1]; rfl)
  | unquotedValue tag name pieces =>
      rcases represents with ⟨mode, holds, _, valued, nonempty⟩
      refine holds.isSound (by rw [mode]; rfl) fun _ => ?_
      rw [valued]
      exact fun none => nonempty (List.reverse_eq_nil_iff.mp none)
  | attributes | selfClosing =>
      exact represents.2.isSound (by rw [represents.1]; rfl) fun unquoted => by
        rw [represents.1] at unquoted
        cases unquoted
  | attributeName | attributeValue | quotedValue =>
      exact represents.2.1.isSound (by rw [represents.1]; rfl) fun unquoted => by
        rw [represents.1] at unquoted
        cases unquoted

/-! ## Whole templates -/

/-- Some strings are read without an accident, and what is read of them can be filled. -/
structure ReadsSafely (strings : List String) : Prop where
  /-- The machine gives the nodes that the reader gives, or its fault with the same position. -/
  agrees : Machine.readStrings strings = (Template.readStrings strings).mapError Halt.fault
  sound : ∀ {machine rest}, Reaches (Symbol.ofStrings strings) machine rest → machine.IsSound
  steps : ∀ {machine symbol rest}, Reaches (Symbol.ofStrings strings) machine (symbol :: rest) →
    (∃ after, machine.step symbol (Symbol.firstCharacter? rest) = .ok after) ∨
      ∃ cause, machine.step symbol (Symbol.firstCharacter? rest) = .error (.fault cause)
  ends : ∀ {machine}, Reaches (Symbol.ofStrings strings) machine [] →
    (∃ nodes, machine.finish = .ok nodes) ∨ ∃ cause, machine.finish = .error (.fault cause)
  /-- A machine that ends in any mode but text has a message for it. -/
  unterminated : ∀ {machine}, Reaches (Symbol.ofStrings strings) machine [] →
    machine.mode ≠ .text → ∃ cause, machine.mode.unterminated? = some cause ∧
      machine.finish = .error (.fault cause)
  holes : ∀ {nodes}, Template.readStrings strings = .ok nodes →
    ∀ index ∈ holesOfNodes nodes, index + 1 < strings.length
  /-- Filling looks at no value beyond those of the interpolations. -/
  fills : ∀ {nodes values}, Template.readStrings strings = .ok nodes →
    strings.length = values.length + 1 → ∀ more start,
      fillForest (values ++ more) start nodes = fillForest values start nodes
  markup : ∀ {template : Template} {markup : Markup}, template.strings = strings →
    readMarkup (.template template) = .ok markup →
      ∀ index ∈ holesOfNodes markup.nodes, index < markup.values.length

theorem exists_unterminated? {mode : Mode} (unfinished : mode ≠ .text) :
    ∃ cause, mode.unterminated? = some cause := by
  cases mode with
  | text => exact absurd rfl unfinished
  | _ => exact ⟨_, rfl⟩

theorem length_of_values {template : Template} {values : List Value}
    (evaluated : template.values = .ok values) :
    values.length = template.interpolations.length := by
  unfold Template.values at evaluated
  generalize template.interpolations = interpolations at evaluated
  induction interpolations generalizing values with
  | nil =>
      cases evaluated
      rfl
  | cons head tail induction =>
      rw [List.mapM_cons] at evaluated
      cases first : head.evaluate with
      | error fault =>
          rw [first] at evaluated
          cases evaluated
      | ok value =>
          rw [first] at evaluated
          cases later : tail.mapM Interpolation.evaluate with
          | error fault =>
              dsimp only [bind, Except.bind] at evaluated
              rw [later] at evaluated
              cases evaluated
          | ok rest =>
              dsimp only [bind, Except.bind] at evaluated
              rw [later] at evaluated
              cases evaluated
              rw [List.length_cons, List.length_cons, induction later]

/-- Whatever is read as markup has one string more than it has values. -/
theorem of_readMarkup {template : Template} {markup : Markup}
    (read : readMarkup (.template template) = .ok markup) :
    Template.readStrings template.strings = .ok markup.nodes ∧
      template.strings.length = markup.values.length + 1 := by
  rcases eq_ok_of_readMarkup read with ⟨counted, accepted, evaluated⟩
  exact ⟨accepted, by rw [length_of_values evaluated, counted]⟩

/-- Every template is read without an accident: the machine comes to nodes or to a syntax fault, its
fields are in order between any two symbols, and every hole of the nodes stands for an
interpolation. -/
theorem readsSafely (strings : List String) : ReadsSafely strings where
  agrees := readFrom_eq represents_start 0 _
  sound reached := by
    rcases exists_represents_of_reaches reached with ⟨builder, reading, represents⟩
    exact isSound_of_represents represents
  steps := by
    intro machine symbol rest reached
    rcases exists_represents_of_reaches reached with ⟨builder, reading, represents⟩
    have agrees := agrees_step represents symbol (Symbol.firstCharacter? rest)
    cases advanced : advance reading builder symbol (Symbol.firstCharacter? rest) with
    | error cause =>
        rw [advanced] at agrees
        exact .inr ⟨cause, agrees⟩
    | ok next =>
        rw [advanced] at agrees
        rcases agrees with ⟨after, stepped, _⟩
        exact .inl ⟨after, stepped⟩
  ends := by
    intro machine reached
    rcases exists_represents_of_reaches reached with ⟨builder, reading, represents⟩
    rw [finish_eq represents]
    cases finishReading reading builder with
    | error cause => exact .inr ⟨cause, rfl⟩
    | ok nodes => exact .inl ⟨nodes, rfl⟩
  unterminated := by
    intro machine _ unfinished
    rcases exists_unterminated? unfinished with ⟨cause, message⟩
    refine ⟨cause, message, ?_⟩
    unfold finish
    rw [if_neg unfinished, message]
  holes := by
    intro nodes read index member
    have below := List.mem_range.mp ((holes_of_readStrings read).subset member)
    omega
  fills := by
    intro nodes values read counted more start
    apply fillForest_congr
    intro index member
    have below := List.mem_range.mp ((holes_of_readStrings read).subset member)
    unfold valueAt
    rw [List.getElem?_append_left (by omega)]
  markup := by
    rintro template markup rfl read index member
    rcases of_readMarkup read with ⟨nodes, counted⟩
    have below := List.mem_range.mp ((holes_of_readStrings nodes).subset member)
    omega

end HtmlStream.Template.Machine
