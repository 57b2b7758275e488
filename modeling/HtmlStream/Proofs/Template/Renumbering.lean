import HtmlStream.Proofs.Routine.Renumbering
import HtmlStream.Template.Fill

/-!
Templates under other numbers. A template is read without its values, so what it is filled with only
differs in the numbers that its values have. The main statements are `Template.endsAlike_toElement`
and `Template.endsAlike_styleContent`.
-/
namespace HtmlStream

variable {numbers : Renumbering}

/-! ## Values -/

namespace Value

variable {value twin : Value}

theorem typeName_eq (same : numbers.Takes value twin) : twin.typeName = value.typeName := by
  rcases same with ⟨_, rfl⟩
  exact typeName_renumbered numbers value

theorem truth_eq (same : numbers.Takes value twin) : twin.truth = value.truth := by
  rcases same with ⟨_, rfl⟩
  cases value with
  | list items | tuple items => cases items <;> rfl
  | mapping entries => cases entries <;> rfl
  | _ => rfl

theorem format_renumbered (numbers : Renumbering) (value : Value) (specification : String) :
    (value.renumbered numbers).format specification = value.format specification := by
  cases value <;> rfl

theorem inspected_renumbered (numbers : Renumbering) (value : Value) :
    (value.renumbered numbers).inspected = value.inspected := by
  unfold inspected
  rw [isWritable_renumbered, inspect_renumbered]

theorem takes_asMapping? (same : numbers.Takes value twin) :
    numbers.Takes value.asMapping? twin.asMapping? := by
  rcases same with ⟨lacks, rfl⟩
  refine ⟨?_, (Serializer.asMapping?_renumbered numbers value).symm⟩
  cases value with
  | mapping entries => exact lacksProbe_some ((entriesLackProbes_iff entries).mp lacks)
  | component reference =>
      rcases reference with ⟨name, kind, hashable⟩
      cases hashable with
      | true => exact lacksProbe_none
      | false => exact lacksProbe_some nofun
  | _ => exact lacksProbe_none

theorem endsAlike_written (same : numbers.Takes value twin) :
    numbers.EndsAlike Eq value.written twin.written := by
  rw [← same.equal]
  refine (written_renumbered numbers value).symm ▸ .self fun fault failed => ?_
  rcases written_cases value with shown | tooLong
  · exact nomatch shown.symm.trans failed
  · cases tooLong.symm.trans failed
    exact ⟨fun _ => rfl, trivial⟩

theorem endsAlike_inspected (same : numbers.Takes value twin) :
    numbers.EndsAlike Eq value.inspected twin.inspected := by
  rw [← same.equal]
  refine (inspected_renumbered numbers value).symm ▸ .self fun fault failed => ?_
  unfold inspected at failed
  split at failed
  · cases failed
  · cases failed
    exact ⟨fun _ => rfl, trivial⟩

theorem takes_text {content other : String} (same : content = other) :
    numbers.Takes (Value.text content) (.text other) :=
  same ▸ ⟨trivial, rfl⟩

theorem endsAlike_convert (same : numbers.Takes value twin) {conversion other : Value}
    (conversions : numbers.Takes conversion other) :
    numbers.EndsAlike numbers.Takes (value.convert conversion) (twin.convert other) := by
  have missing : numbers.EndsAlike numbers.Takes
      (.error (.missingKey conversion) : Except Fault Value) (.error (.missingKey other)) :=
    .error ⟨conversions.lacks, congrArg Fault.missingKey conversions.equal⟩
  rcases conversions with ⟨lacks, rfl⟩
  cases conversion with
  | text name =>
      show numbers.EndsAlike _ (value.convert (.text name)) (twin.convert (.text name))
      unfold convert
      split
      · exact (endsAlike_inspected same).map takes_text
      · exact (endsAlike_written same).map takes_text
      · exact (endsAlike_inspected same).map fun equal => takes_text (congrArg Text.asciiOnly equal)
      · exact missing
  | _ => exact missing

theorem endsAlike_formatBy (same : numbers.Takes value twin) {specification other : Value}
    (specifications : numbers.Takes specification other) :
    numbers.EndsAlike numbers.Takes (value.formatBy specification) (twin.formatBy other) := by
  rcases same with ⟨lacks, rfl⟩
  rcases specifications with ⟨_, rfl⟩
  cases specification with
  | text content =>
      show numbers.EndsAlike _ (value.formatBy (.text content))
        ((value.renumbered numbers).formatBy (.text content))
      unfold formatBy
      dsimp only
      rw [format_renumbered]
      cases value.format content with
      | ok shown => exact .ok (takes_text rfl)
      | error fault => exact .error ⟨trivial, rfl⟩
  | _ => exact .error ⟨trivial, rfl⟩

end Value

namespace Entries

theorem takes_insert {key label value twin : Value} {entries others : Entries}
    (keys : numbers.Takes key label) (values : numbers.Takes value twin)
    (same : numbers.Takes entries others) :
    numbers.Takes (insert key value entries) (insert label twin others) := by
  refine ⟨lacksProbe_insert keys.lacks values.lacks same.lacks, ?_⟩
  rw [← keys.equal, ← values.equal, ← same.equal]
  exact (insert_renumbered numbers key value entries).symm

theorem takes_merge {entries others additions more : Entries} (same : numbers.Takes entries others)
    (added : numbers.Takes additions more) :
    numbers.Takes (entries.merge additions) (others.merge more) := by
  have paired := Renumbering.takes_iff_forall₂.mp added
  clear added
  unfold merge
  induction paired generalizing entries others with
  | nil => exact same
  | cons first _ induction => exact induction (takes_insert first.fst first.snd same)

end Entries

/-! ## Interpolations -/

instance : Numbered Interpolation where
  renumbered numbers interpolation :=
    { value := renumbered numbers interpolation.value
      conversion := renumbered numbers interpolation.conversion
      specification := renumbered numbers interpolation.specification }
  LacksProbe interpolation :=
    LacksProbe interpolation.value ∧ LacksProbe interpolation.conversion
      ∧ LacksProbe interpolation.specification

namespace Interpolation

theorem takes_mk {value twin conversion other specification further : Value}
    (values : numbers.Takes value twin) (conversions : numbers.Takes conversion other)
    (specifications : numbers.Takes specification further) :
    numbers.Takes (Interpolation.mk value conversion specification) ⟨twin, other, further⟩ := by
  refine ⟨⟨values.lacks, conversions.lacks, specifications.lacks⟩, ?_⟩
  rw [← values.equal, ← conversions.equal, ← specifications.equal]
  rfl

theorem endsAlike_evaluate {interpolation twin : Interpolation}
    (same : numbers.Takes interpolation twin) :
    numbers.EndsAlike numbers.Takes interpolation.evaluate twin.evaluate := by
  have values : numbers.Takes interpolation.value twin.value :=
    ⟨same.lacks.1, congrArg Interpolation.value same.equal⟩
  have conversions : numbers.Takes interpolation.conversion twin.conversion :=
    ⟨same.lacks.2.1, congrArg Interpolation.conversion same.equal⟩
  have specifications : numbers.Takes interpolation.specification twin.specification :=
    ⟨same.lacks.2.2, congrArg Interpolation.specification same.equal⟩
  have laidOut {converted other : Value} (converts : numbers.Takes converted other) :
      numbers.EndsAlike numbers.Takes
        (if interpolation.specification.truth then
            converted.formatBy interpolation.specification else return converted)
        (if interpolation.specification.truth then
            other.formatBy twin.specification else return other) := by
    split
    · exact Value.endsAlike_formatBy converts specifications
    · exact .ok converts
  unfold evaluate
  rw [Value.truth_eq conversions, Value.truth_eq specifications]
  cases interpolation.conversion.truth with
  | true => exact (Value.endsAlike_convert values conversions).bind laidOut
  | false => exact laidOut values

end Interpolation

namespace Template

instance : Numbered Template where
  renumbered numbers template :=
    { template with interpolations := renumbered numbers template.interpolations }
  LacksProbe template := LacksProbe template.interpolations

instance : Numbered TemplateOperand where
  renumbered numbers
    | .template template => .template (renumbered numbers template)
    | .other value => .other (renumbered numbers value)
  LacksProbe
    | .template template => LacksProbe template
    | .other value => LacksProbe value

theorem endsAlike_check {operand twin : TemplateOperand} (same : numbers.Takes operand twin)
    (tag : String) : numbers.EndsAlike numbers.Takes (check operand tag) (check twin tag) := by
  rcases same with ⟨lacks, rfl⟩
  cases operand with
  | other value =>
      refine .error ⟨trivial, congrArg (Fault.notATemplate tag) ?_⟩
      exact (Value.typeName_renumbered numbers value).symm
  | template template =>
      have count : (renumbered numbers template).interpolations.length
          = template.interpolations.length := List.length_map _
      show numbers.EndsAlike _ (check (.template template) tag)
        (check (.template (renumbered numbers template)) tag)
      unfold check
      dsimp only
      rw [count]
      split
      · rename_i fits
        exact (if_pos fits).symm ▸ .ok ⟨lacks, rfl⟩
      · rename_i unfit
        exact (if_neg unfit).symm ▸ .error ⟨trivial, rfl⟩

theorem endsAlike_values {template twin : Template} (same : numbers.Takes template twin) :
    numbers.EndsAlike (List.Forall₂ numbers.Takes) template.values twin.values := by
  rcases same with ⟨lacks, rfl⟩
  exact .mapM (Renumbering.takes_iff_forall₂.mp ⟨lacks, rfl⟩) Interpolation.endsAlike_evaluate

/-- A style fragment says the same with other numbers. -/
theorem endsAlike_styleContent {operand twin : TemplateOperand}
    (same : numbers.Takes operand twin) :
    numbers.EndsAlike Eq (styleContent operand) (styleContent twin) := by
  rcases same with ⟨lacks, rfl⟩
  cases operand with
  | other value => cases value with
    | text content | markup content => exact .ok rfl
    | _ => exact .error ⟨trivial, rfl⟩
  | template template =>
      show numbers.EndsAlike Eq (styleContent (.template template))
        (styleContent (.template (renumbered numbers template)))
      unfold styleContent
      dsimp only
      refine .bind (endsAlike_check ⟨lacks, rfl⟩ "css") fun {given other} found => ?_
      refine .bind (endsAlike_values found) fun values => ?_
      have shown {value twin : Value} (same : numbers.Takes value twin) :
          numbers.EndsAlike Eq (if value.truth then value.written else .ok "")
            (if twin.truth then twin.written else .ok "") := by
        rw [Value.truth_eq same]
        split
        · exact Value.endsAlike_written same
        · exact .ok rfl
      have strings : given.strings = other.strings := by
        rw [← found.equal]
        rfl
      refine .bind (.mapM_eq values shown) fun texts => ?_
      rw [texts, strings]
      exact .ok rfl

end Template

/-! ## Elements -/

namespace Element

theorem takes_mk {identity other : Nat} (fresh : numbers.identity identity = other)
    {type twin : Value} (types : numbers.Takes type twin) {attributes others : Entries}
    (given : numbers.Takes attributes others) {children more : List Value}
    (inner : numbers.Takes children more) :
    numbers.Takes (Element.mk identity type attributes children) ⟨other, twin, others, more⟩ := by
  refine ⟨⟨types.lacks, given.lacks, inner.lacks⟩, ?_⟩
  rw [← fresh, ← types.equal, ← given.equal, ← inner.equal]
  rfl

theorem isElementType_eq {type twin : Value} (same : numbers.Takes type twin) :
    isElementType twin = isElementType type := by
  rcases same with ⟨_, rfl⟩
  cases type <;> rfl

theorem takes_typeFault {type twin : Value} (same : numbers.Takes type twin) :
    numbers.Takes (typeFault type) (typeFault twin) := by
  rcases same with ⟨lacks, rfl⟩
  have writable := Value.isWritable_renumbered numbers type
  unfold typeFault
  rw [show (renumbered numbers type).isWritable = type.isWritable from writable]
  split
  · exact ⟨lacks, rfl⟩
  · exact ⟨trivial, rfl⟩

theorem endsAlike_make {identity other : Nat} (fresh : numbers.identity identity = other)
    {type twin : Value} (types : numbers.Takes type twin) {attributes others : Entries}
    (given : numbers.Takes attributes others) {children more : List Value}
    (inner : numbers.Takes children more) :
    numbers.EndsAlike numbers.Takes (make identity type attributes children)
      (make other twin others more) := by
  unfold make
  rw [isElementType_eq types]
  split
  · exact .ok (takes_mk fresh types given inner)
  · exact .error (takes_typeFault types)

theorem takes_toValue {node twin : Element} (same : numbers.Takes node twin) :
    numbers.Takes node.toValue twin.toValue := by
  rcases same with ⟨⟨type, attributes, children⟩, rfl⟩
  refine ⟨⟨type, (Value.entriesLackProbes_iff _).mpr attributes,
    (Value.allLackProbes_iff _).mpr children⟩, ?_⟩
  show Value.element _ _ (Value.renumberedEntries numbers _) (Value.renumberedAll numbers _) = _
  rw [Value.renumberedEntries_eq, Value.renumberedAll_eq]
  rfl

end Element

namespace Template

/-- A part of a template that took as many identities on both sides. -/
structure FilledAlike {α : Type} [Numbered α] (numbers : Renumbering) (start other count : Nat)
    (result twin : α × Nat) : Prop where
  values : numbers.Takes result.1 twin.1
  next : result.2 = start + count
  nextToo : twin.2 = other + count

theorem FilledAlike.fresh_after {α : Type} [Numbered α] {start other count further : Nat}
    {result twin : α × Nat} (alike : FilledAlike numbers start other count result twin)
    (fresh : ∀ offset < count + further, numbers.identity (start + offset) = other + offset) :
    ∀ offset < further, numbers.identity (result.2 + offset) = twin.2 + offset := by
  intro offset below
  rw [alike.next, alike.nextToo, Nat.add_assoc, Nat.add_assoc]
  exact fresh (count + offset) (Nat.add_lt_add_left below count)

section Holes

variable {values twins : List Value} (filled : numbers.Takes values twins)

include filled

theorem takes_valueAt (index : Nat) :
    numbers.Takes (valueAt values index) (valueAt twins index) := by
  unfold valueAt
  rcases (Renumbering.takes_getElem? filled index).option_cases with ⟨none, noneToo⟩ |
    ⟨value, twin, found, foundToo, same⟩
  · rw [none, noneToo]
    exact ⟨trivial, rfl⟩
  · rw [found, foundToo]
    exact same

theorem endsAlike_fillPiece (piece : Piece) :
    numbers.EndsAlike Eq (piece.fill values) (piece.fill twins) := by
  cases piece with
  | text content => exact .ok rfl
  | hole index => exact Value.endsAlike_written (takes_valueAt filled index)

theorem endsAlike_fillAttributeValue (value : AttributeValue) :
    numbers.EndsAlike numbers.Takes (value.fill values) (value.fill twins) := by
  cases value with
  | bare | text => exact .ok ⟨trivial, rfl⟩
  | hole index => exact .ok (takes_valueAt filled index)
  | mixed pieces =>
      have same : List.Forall₂ Eq pieces pieces := List.forall₂_refl pieces
      refine .bind (.mapM_eq same fun {piece _} same => same ▸ endsAlike_fillPiece filled piece)
        fun shown => ?_
      exact .ok (Value.takes_text (congrArg String.join shown))

theorem endsAlike_fillAttribute (mention : Attribute) {before others : Entries}
    (same : numbers.Takes before others) :
    numbers.EndsAlike numbers.Takes (mention.fill values before) (mention.fill twins others) := by
  cases mention with
  | named name value =>
      exact .bind (endsAlike_fillAttributeValue filled value) fun filledToo =>
        .ok (Entries.takes_insert ⟨trivial, rfl⟩ filledToo same)
  | spread index =>
      have spread := takes_valueAt filled index
      unfold Attribute.fill
      dsimp only
      rw [Value.typeName_eq spread]
      rcases (Value.takes_asMapping? spread).option_cases with ⟨none, noneToo⟩ |
        ⟨additions, more, found, foundToo, added⟩
      · rw [none, noneToo]
        exact .error ⟨trivial, rfl⟩
      · rw [found, foundToo]
        exact .ok (Entries.takes_merge same added)

theorem endsAlike_fillAttributes (attributes : List Attribute) :
    numbers.EndsAlike numbers.Takes (fillAttributes values attributes)
      (fillAttributes twins attributes) := by
  have same : List.Forall₂ Eq attributes attributes := List.forall₂_refl attributes
  exact .foldlM same (fun before mention => mention ▸ endsAlike_fillAttribute filled _ before)
    Renumbering.takes_nil

theorem takes_fillTagName (name : TagName) :
    numbers.Takes (name.fill values) (name.fill twins) := by
  cases name with
  | literal name => exact ⟨trivial, rfl⟩
  | hole index => exact takes_valueAt filled index

end Holes

variable {values twins : List Value}

mutual
theorem endsAlike_fillNode (filled : numbers.Takes values twins) (node : Node) (start other : Nat)
    (fresh : ∀ offset < node.elementCount,
      numbers.identity (start + offset) = other + offset) :
    numbers.EndsAlike (FilledAlike numbers start other node.elementCount) (node.fill values start)
      (node.fill twins other) := by
  match node with
  | .text _ | .markup _ => exact .ok ⟨⟨trivial, rfl⟩, rfl, rfl⟩
  | .hole index => exact .ok ⟨takes_valueAt filled index, rfl, rfl⟩
  | .element tag children =>
      refine .bind (endsAlike_fillAttributes filled tag.attributes) fun attributes => ?_
      refine .bind (endsAlike_fillNodes filled children start other fun offset below =>
        fresh offset (Nat.lt_succ_of_lt below)) fun inner => ?_
      refine .bind (Element.endsAlike_make (inner.fresh_after fresh 0 Nat.one_pos)
        (takes_fillTagName filled tag.name) attributes inner.values) fun made => ?_
      exact .ok ⟨Element.takes_toValue made, congrArg (· + 1) inner.next,
        congrArg (· + 1) inner.nextToo⟩

theorem endsAlike_fillNodes (filled : numbers.Takes values twins) (nodes : List Node)
    (start other : Nat)
    (fresh : ∀ offset < Node.elementCounts nodes,
      numbers.identity (start + offset) = other + offset) :
    numbers.EndsAlike (FilledAlike numbers start other (Node.elementCounts nodes))
      (fillNodes values start nodes) (fillNodes twins other nodes) := by
  match nodes with
  | [] => exact .ok ⟨Renumbering.takes_nil, rfl, rfl⟩
  | head :: tail =>
      refine .bind (endsAlike_fillNode filled head start other fun offset below =>
        fresh offset (below.trans_le (Nat.le_add_right ..))) fun {first second} filledHead => ?_
      refine .bind (endsAlike_fillNodes filled tail first.2 second.2 (filledHead.fresh_after fresh))
        fun filledTail => .ok ⟨Renumbering.takes_cons filledHead.values filledTail.values, ?_, ?_⟩
      · rw [filledTail.next, filledHead.next]
        exact Nat.add_assoc ..
      · rw [filledTail.nextToo, filledHead.nextToo]
        exact Nat.add_assoc ..
end

theorem endsAlike_fillForest (filled : numbers.Takes values twins) (nodes : List Node)
    (start other : Nat)
    (fresh : ∀ offset < identitiesNeeded nodes,
      numbers.identity (start + offset) = other + offset) :
    numbers.EndsAlike numbers.Takes (fillForest values start nodes)
      (fillForest twins other nodes) := by
  have plain : numbers.Takes Value.fragment .fragment := ⟨trivial, rfl⟩
  unfold fillForest
  split
  · rename_i tag children
    exact .bind (endsAlike_fillNode filled (.element tag children) start other fun offset below =>
      fresh offset (below.trans_le (Nat.le_add_right ..))) fun inner => .ok inner.values
  · refine .bind (endsAlike_fillNodes filled nodes start other fun offset below =>
      fresh offset (Nat.lt_succ_of_lt below)) fun inner => .ok ?_
    exact Element.takes_toValue (Element.takes_mk (inner.fresh_after fresh 0 Nat.one_pos) plain
      Renumbering.takes_nil inner.values)

/-! ## The two tags of templates -/

instance : Numbered Markup where
  renumbered numbers markup := { markup with values := renumbered numbers markup.values }
  LacksProbe markup := LacksProbe markup.values

theorem endsAlike_readMarkup {operand twin : TemplateOperand} (same : numbers.Takes operand twin) :
    numbers.EndsAlike numbers.Takes (readMarkup operand) (readMarkup twin) := by
  unfold readMarkup
  refine .bind ((endsAlike_check same "html").mapError Renumbering.takes_fault)
    fun {given other} found => ?_
  have strings : other.strings = given.strings := by
    rw [← found.equal]
    rfl
  let report (fault : SyntaxFault) : Failure := .engine (fault.toError given.strings)
  have read : numbers.EndsAlike Eq ((readStrings given.strings).mapError report) _ :=
    .mapError_self _ fun _ => ⟨trivial, rfl⟩
  rw [strings]
  refine read.bind fun {nodes _} same => ?_
  refine .bind ((endsAlike_values found).mapError Renumbering.takes_fault) fun filled => .ok ?_
  have values := Renumbering.takes_iff_forall₂.mpr filled
  exact ⟨values.lacks, congrArg₂ Markup.mk same values.equal⟩

/-- The element of a template is the same with other numbers, if its elements get those. -/
theorem endsAlike_toElement {markup twin : Markup} (same : numbers.Takes markup twin)
    {start other : Nat} (fresh : ∀ offset < identitiesNeeded markup.nodes,
      numbers.identity (start + offset) = other + offset) :
    numbers.EndsAlike numbers.Takes (markup.toElement start) (twin.toElement other) := by
  rcases same with ⟨lacks, rfl⟩
  exact (endsAlike_fillForest ⟨lacks, rfl⟩ markup.nodes start other fresh).mapError
    Renumbering.takes_fault

end Template
end HtmlStream
