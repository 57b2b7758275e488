import HtmlStream.Proofs.Template.Renumbering
import HtmlStream.Script.Expression

/-!
Operations on values under other numbers. What an expression or a loop makes of values does not
depend on their numbers, apart from those that it hands on. The main statements are
`Iteration.worksAlike_mapItems` and `worksAlike_makeElement`.
-/
namespace HtmlStream

variable {numbers : Renumbering}

/-! ## Values -/

namespace Value

mutual
theorem unhashablePart?_renumbered (numbers : Renumbering) (value : Value) :
    (value.renumbered numbers).unhashablePart?
      = value.unhashablePart?.map (renumbered numbers) := by
  match value with
  | .tuple items => exact unhashableItem?_renumbered numbers items
  | .marker _ type attributes children =>
      simp only [renumbered, unhashablePart?, unhashablePart?_renumbered numbers type,
        unhashablePart?_renumbered numbers attributes, unhashablePart?_renumbered numbers children]
      cases type.unhashablePart? <;> cases attributes.unhashablePart? <;> rfl
  | .provider _ source => exact unhashablePart?_renumbered numbers source
  | .component ⟨_, _, hashable⟩ => cases hashable <;> rfl
  | .list _ | .mapping _ | .null | .boolean _ | .integer _ | .float _ | .notANumber _ | .text _
  | .markup _ | .element .. | .style _ | .fragment | .token _ | .settings _ | .object .. | .safe ..
  | .routine _ | .mappingType | .depthProbe => rfl

theorem unhashableItem?_renumbered (numbers : Renumbering) (items : List Value) :
    unhashableItem? (renumberedAll numbers items)
      = (unhashableItem? items).map (renumbered numbers) := by
  match items with
  | [] => rfl
  | head :: tail =>
      simp only [renumberedAll, unhashableItem?, unhashablePart?_renumbered numbers head]
      cases head.unhashablePart? with
      | some part => rfl
      | none => exact unhashableItem?_renumbered numbers tail
end

variable {value twin : Value}

theorem unhashablePart?_cases (same : numbers.Takes value twin) :
    (value.unhashablePart? = none ∧ twin.unhashablePart? = none) ∨
      ∃ part other, value.unhashablePart? = some part ∧ twin.unhashablePart? = some other ∧
        other.typeName = part.typeName := by
  rcases same with ⟨_, rfl⟩
  have told : (Numbered.renumbered numbers value).unhashablePart? = _ :=
    unhashablePart?_renumbered numbers value
  rw [told]
  cases value.unhashablePart? with
  | none => exact .inl ⟨rfl, rfl⟩
  | some part => exact .inr ⟨part, _, rfl, rfl, typeName_renumbered numbers part⟩

theorem integer?_eq (same : numbers.Takes value twin) : twin.integer? = value.integer? := by
  rcases same with ⟨_, rfl⟩
  exact integer?_renumbered numbers value

theorem float?_eq (same : numbers.Takes value twin) : twin.float? = value.float? := by
  rcases same with ⟨_, rfl⟩
  cases value <;> rfl

theorem equals_eq {other further : Value} (same : numbers.Takes value twin)
    (others : numbers.Takes other further) : twin.equals further = value.equals other := by
  rw [← same.equal, ← others.equal]
  exact equalsAs_renumbered numbers false value other

end Value

namespace Entries

variable {entries others : Entries}

theorem takes_get? (same : numbers.Takes entries others) {key label : Value}
    (keys : numbers.Takes key label) : numbers.Takes (entries.get? key) (others.get? label) := by
  have paired := Renumbering.takes_iff_forall₂.mp same
  clear same
  unfold get?
  induction paired with
  | nil => exact Renumbering.takes_none
  | @cons entry other _ _ first _ induction =>
      have matched : other.1.matchesItem label = entry.1.matchesItem key := by
        rw [← first.fst.equal, ← keys.equal]
        exact Value.matchesItem_renumbered numbers entry.1 key
      rw [List.find?_cons, List.find?_cons, matched]
      cases entry.1.matchesItem key with
      | true => exact Renumbering.takes_some first.snd
      | false => exact induction

end Entries

namespace Script

variable {value twin other further : Value}

/-! ## Operations on values -/

/-- A mapping with one more entry, whose key has to be one. -/
def withEntry (before : Entries) (entry : Value × Value) : Except Fault Entries :=
  match entry.1.unhashablePart? with
  | some part => .error (.unhashable part.typeName)
  | none => .ok (before.insert entry.1 entry.2)

theorem mappingOf_eq (entries : Entries) :
    mappingOf entries = (entries.foldlM withEntry []).map .mapping := by
  unfold mappingOf
  dsimp only
  generalize ([] : Entries) = before
  induction entries generalizing before with
  | nil => rfl
  | cons entry rest induction =>
      rw [List.forIn_cons, List.foldlM_cons, withEntry]
      cases entry.1.unhashablePart? with
      | some part => rfl
      | none => exact induction (Entries.insert entry.1 entry.2 before)

theorem endsAlike_withEntry {before after : Entries} (same : numbers.Takes before after)
    {entry twin : Value × Value} (entries : numbers.Takes entry twin) :
    numbers.EndsAlike numbers.Takes (withEntry before entry) (withEntry after twin) := by
  unfold withEntry
  rcases Value.unhashablePart?_cases entries.fst with ⟨none, noneToo⟩ |
    ⟨part, other, found, foundToo, named⟩
  · rw [none, noneToo]
    exact .ok (Entries.takes_insert entries.fst entries.snd same)
  · rw [found, foundToo]
    exact .error ⟨trivial, congrArg Fault.unhashable named.symm⟩

theorem endsAlike_mappingOf {entries others : Entries} (same : numbers.Takes entries others) :
    numbers.EndsAlike numbers.Takes (mappingOf entries) (mappingOf others) := by
  have held : numbers.Takes ([] : Entries) [] := Renumbering.takes_nil
  rw [mappingOf_eq, mappingOf_eq]
  exact (Renumbering.EndsAlike.foldlM (Renumbering.takes_iff_forall₂.mp same)
    (fun held entry => endsAlike_withEntry held entry) held).map Renumbering.takes_mapping

/-- The items of a text say nothing about numbers. -/
theorem takes_characters (content : String) :
    numbers.Takes (content.toList.map fun character => Value.text (String.singleton character))
      (content.toList.map fun character => Value.text (String.singleton character)) := by
  induction content.toList with
  | nil => exact Renumbering.takes_nil
  | cons first _ induction => exact Renumbering.takes_cons ⟨trivial, rfl⟩ induction

theorem endsAlike_itemAt (typeName : String) {items twins : List Value}
    (same : numbers.Takes items twins) {key label : Value} (keys : numbers.Takes key label) :
    numbers.EndsAlike numbers.Takes (itemAt typeName items key) (itemAt typeName twins label) := by
  have length : twins.length = items.length := by
    rw [← same.equal]
    exact List.length_map _
  unfold itemAt
  rw [Value.integer?_eq keys, Value.typeName_eq keys, length]
  cases key.integer? with
  | none => exact .error ⟨trivial, rfl⟩
  | some position =>
      refine .ite (.error ⟨trivial, rfl⟩) (.ite (.error ⟨trivial, rfl⟩) ?_)
      dsimp only
      rcases (Renumbering.takes_getElem? same _).option_cases with ⟨none, noneToo⟩ |
        ⟨item, twin, there, thereToo, taken⟩
      · rw [none, noneToo]
        exact .error ⟨trivial, rfl⟩
      · rw [there, thereToo]
        exact .ok taken

theorem endsAlike_lookUp {container box key label : Value}
    (containers : numbers.Takes container box) (keys : numbers.Takes key label) :
    numbers.EndsAlike numbers.Takes (lookUp container key) (lookUp box label) := by
  unfold lookUp
  rcases (Value.takes_asMapping? containers).option_cases with ⟨none, noneToo⟩ |
    ⟨entries, others, found, foundToo, same⟩
  · rw [none, noneToo]
    rcases containers with ⟨lacks, rfl⟩
    cases container with
    | list items => exact endsAlike_itemAt "list" (Renumbering.takes_items lacks) keys
    | tuple items => exact endsAlike_itemAt "tuple" (Renumbering.takes_items lacks) keys
    | text content | markup content => exact endsAlike_itemAt "str" (takes_characters content) keys
    | _ => exact .error ⟨trivial, rfl⟩
  · rw [found, foundToo]
    dsimp only
    rcases Value.unhashablePart?_cases keys with ⟨none, noneToo⟩ |
      ⟨part, other, there, thereToo, named⟩
    · rw [none, noneToo]
      dsimp only
      rcases (Entries.takes_get? same keys).option_cases with ⟨none, noneToo⟩ |
        ⟨value, twin, there, thereToo, taken⟩
      · rw [none, noneToo]
        exact .error ⟨keys.lacks, congrArg Fault.missingKey keys.equal⟩
      · rw [there, thereToo]
        exact .ok taken
    · rw [there, thereToo]
      exact .error ⟨trivial, congrArg Fault.unhashable named.symm⟩

theorem endsAlike_rangeOf {bound twin : Value} (same : numbers.Takes bound twin) :
    numbers.EndsAlike numbers.Takes (rangeOf bound) (rangeOf twin) := by
  have items (count : Nat) : numbers.Takes
      ((List.range count).map fun (index : Nat) => Value.integer index)
      ((List.range count).map fun (index : Nat) => Value.integer index) := by
    induction List.range count with
    | nil => exact Renumbering.takes_nil
    | cons first _ induction => exact Renumbering.takes_cons ⟨trivial, rfl⟩ induction
  unfold rangeOf
  rw [Value.integer?_eq same, Value.typeName_eq same]
  cases bound.integer? with
  | none => exact .error ⟨trivial, rfl⟩
  | some bound =>
      exact .ite (.error ⟨trivial, rfl⟩) (.ite (.error ⟨trivial, rfl⟩)
        (.ok (Renumbering.takes_list (items _))))

theorem takes_nest (same : numbers.Takes value twin) (depth : Nat) :
    numbers.Takes (nest value depth) (nest twin depth) := by
  induction depth with
  | zero => exact same
  | succ depth induction =>
      exact Renumbering.takes_list (Renumbering.takes_cons induction Renumbering.takes_nil)

theorem endsAlike_repeatText (text : String) (count : Int) :
    numbers.EndsAlike Eq (repeatText text count) (repeatText text count) := by
  unfold repeatText
  exact .ite (.error ⟨trivial, rfl⟩) (.ite (.error ⟨trivial, rfl⟩)
    (.ite (.error ⟨trivial, rfl⟩) (.ite (.ok rfl) (.ok rfl))))

theorem endsAlike_asFloat (same : numbers.Takes value twin) :
    numbers.EndsAlike Eq (asFloat value) (asFloat twin) := by
  unfold asFloat
  rw [Value.integer?_eq same, Value.float?_eq same]
  cases value.integer? with
  | none => exact .ok rfl
  | some whole =>
      dsimp only
      cases Format.floatOfInteger? whole with
      | none => exact .error ⟨trivial, rfl⟩
      | some nearest => exact .ok rfl

theorem endsAlike_subtract (same : numbers.Takes value twin)
    (others : numbers.Takes other further) :
    numbers.EndsAlike Eq (subtract value other) (subtract twin further) := by
  unfold subtract
  rw [Value.integer?_eq same, Value.integer?_eq others, Value.float?_eq same,
    Value.float?_eq others, Value.typeName_eq same, Value.typeName_eq others]
  split
  · exact .ok rfl
  · refine .ite (.bind (endsAlike_asFloat same) fun {left _} lefts =>
      .bind (endsAlike_asFloat others) fun {right _} rights => ?_) (.error ⟨trivial, rfl⟩)
    subst lefts rights
    split
    · exact .ok rfl
    · exact .error ⟨trivial, rfl⟩

/-! ## Objects with an identity -/

theorem worksAlike_makeFloat (number : Float) :
    numbers.WorksAlike numbers.Takes (makeFloat number) (makeFloat number) := by
  refine .ite (.bind (.reserve numbers 1) fun fresh => .pure ⟨trivial, ?_⟩) (.pure ⟨trivial, rfl⟩)
  exact congrArg Value.notANumber (fresh 0 Nat.one_pos)

theorem worksAlike_makeToken (name : Option String) :
    numbers.WorksAlike numbers.Takes (makeToken name) (makeToken name) :=
  .bind (.reserve numbers 1) fun fresh =>
    .pure ⟨trivial, congrArg (fun identity => Value.token ⟨identity, name⟩) (fresh 0 Nat.one_pos)⟩

theorem worksAlike_makeDifference (same : numbers.Takes value twin)
    (others : numbers.Takes other further) :
    numbers.WorksAlike numbers.Takes (makeDifference value other)
      (makeDifference twin further) := by
  refine .bind (.ofFault (endsAlike_subtract same others)) fun {result _} results => ?_
  subst results
  cases result with
  | inl whole => exact .pure ⟨trivial, rfl⟩
  | inr number => exact worksAlike_makeFloat number

theorem worksAlike_makeStyle {operand others : TemplateOperand}
    (same : numbers.Takes operand others) :
    numbers.WorksAlike numbers.Takes (makeStyle operand) (makeStyle others) := by
  refine .bind (.ofFault (Template.endsAlike_styleContent same)) fun {content _} contents =>
    .bind (.reserve numbers 1) fun fresh => .pure ⟨trivial, ?_⟩
  subst contents
  exact congrArg (fun identity => Value.style ⟨identity, content⟩) (fresh 0 Nat.one_pos)

theorem worksAlike_makeMarkup {operand others : TemplateOperand}
    (same : numbers.Takes operand others) :
    numbers.WorksAlike numbers.Takes (makeMarkup operand) (makeMarkup others) := by
  refine .bind (.ofExcept (Template.endsAlike_readMarkup same)) fun {markup taken} read => ?_
  have nodes : taken.nodes = markup.nodes := by
    rw [← read.equal]
    rfl
  rw [nodes]
  exact .bind (.reserve numbers _) fun fresh => .ofExcept (Template.endsAlike_toElement read fresh)

/-! ## Iteration -/

theorem takes_itemsOf? (same : numbers.Takes value twin) :
    numbers.Takes (itemsOf? value) (itemsOf? twin) := by
  rcases same with ⟨lacks, rfl⟩
  cases value with
  | list items | tuple items => exact Renumbering.takes_some (Renumbering.takes_items lacks)
  | text content | markup content => exact Renumbering.takes_some (takes_characters content)
  | mapping entries =>
      have given : numbers.Takes entries _ := Renumbering.takes_entries lacks
      exact Renumbering.takes_some (Renumbering.takes_iff_forall₂.mpr
        (List.rel_map (fun _ _ same => same.fst) (Renumbering.takes_iff_forall₂.mp given)))
  | component reference =>
      rcases reference with ⟨name, kind, hashable⟩
      cases hashable with
      | true => exact Renumbering.takes_none
      | false => exact Renumbering.takes_some Renumbering.takes_nil
  | _ => exact Renumbering.takes_none

namespace Iteration

/-- Two loops go through the same with different numbers. -/
inductive GoesAlike (numbers : Renumbering) : Iteration → Iteration → Prop
  | collection {items twins : List (Work Value)}
      (same : List.Forall₂ (numbers.WorksAlike numbers.Takes) items twins) :
      GoesAlike numbers (.collection items) (.collection twins)
  | generator (index : Nat) :
      GoesAlike numbers (.generator index) (.generator (numbers.routine index))

theorem goesAlike_ofElement {node twin : Element} (same : numbers.Takes node twin) :
    GoesAlike numbers (ofElement node) (ofElement twin) := by
  rcases same with ⟨lacks, rfl⟩
  have callable : (renumbered numbers node).type.isCallable = node.type.isCallable :=
    Value.isCallable_renumbered numbers node.type
  unfold ofElement
  rw [callable, Element.effects_renumbered]
  split
  · have expands : numbers.Takes (Action.expand node.type node.attributes node.children) _ :=
      ⟨lacks, rfl⟩
    exact .collection (.cons (.act expands) .nil)
  · have effects : numbers.Takes node.effects _ := ⟨Element.lacksProbe_effects node lacks, rfl⟩
    exact .collection (List.rel_map (fun _ _ same => .ofExcept (.of_takes same))
      (Renumbering.takes_iff_forall₂.mp effects))

theorem endsAlike_of (same : numbers.Takes value twin) :
    numbers.EndsAlike (GoesAlike numbers) (Iteration.of value) (Iteration.of twin) := by
  have held
      (holds : Iteration.of value = (itemsOf? value).elim (.error (.notIterable value.typeName))
        fun items => .ok (.collection (items.map pure)))
      (holdsToo : Iteration.of twin = (itemsOf? twin).elim (.error (.notIterable twin.typeName))
        fun items => .ok (.collection (items.map pure))) :
      numbers.EndsAlike (GoesAlike numbers) (Iteration.of value) (Iteration.of twin) := by
    rw [holds, holdsToo, Value.typeName_eq same]
    rcases (takes_itemsOf? same).option_cases with ⟨none, noneToo⟩ |
      ⟨items, twins, found, foundToo, inner⟩
    · rw [none, noneToo]
      exact .error ⟨trivial, rfl⟩
    · rw [found, foundToo]
      exact .ok (.collection (List.rel_map (fun _ _ same => .pure same)
        (Renumbering.takes_iff_forall₂.mp inner)))
  rcases same with ⟨lacks, rfl⟩
  cases value with
  | routine reference =>
      rcases reference with ⟨kind, index, name⟩
      cases kind with
      | generator => exact .ok (.generator index)
      | asyncGenerator | coroutine => exact .error ⟨trivial, rfl⟩
  | token token => exact .ok (.collection (.cons (.pure ⟨trivial, rfl⟩) .nil))
  | element identity type attributes children =>
      exact .ok (goesAlike_ofElement (Element.takes_mk rfl ⟨lacks.1, rfl⟩
        (Renumbering.takes_entries lacks.2.1) (Renumbering.takes_items lacks.2.2)))
  | component reference =>
      rcases reference with ⟨name, kind, hashable⟩
      cases hashable <;> exact held rfl rfl
  | _ => exact held rfl rfl

theorem worksAlike_mapGenerator {work later : Value → Work Value}
    (each : ∀ {item twin}, numbers.Takes item twin →
      numbers.WorksAlike numbers.Takes (work item) (later twin)) (index items : Nat) :
    numbers.WorksAlike numbers.Takes (mapGenerator index work items)
      (mapGenerator (numbers.routine index) later items) := by
  induction items with
  | zero => exact .pure Renumbering.takes_nil
  | succ items induction =>
      refine .bind (.advance numbers index) fun {advanced other} same => ?_
      rcases same with ⟨lacks, rfl⟩
      cases advanced with
      | ended => exact .pure Renumbering.takes_nil
      | failed failure => exact .fail ⟨lacks, rfl⟩
      | item value =>
          exact .bind (each ⟨lacks, rfl⟩) fun result => .bind induction fun results =>
            .pure (Renumbering.takes_cons result results)

theorem worksAlike_mapItems {iteration twin : Iteration} (same : GoesAlike numbers iteration twin)
    (temporary : Bool) {work later : Value → Work Value}
    (each : ∀ {item twin}, numbers.Takes item twin →
      numbers.WorksAlike numbers.Takes (work item) (later twin)) :
    numbers.WorksAlike numbers.Takes (iteration.mapItems temporary work)
      (twin.mapItems temporary later) := by
  cases same with
  | collection same =>
      exact (Renumbering.WorksAlike.mapM same fun item => .bind item each).mono
        Renumbering.takes_iff_forall₂.mpr
  | generator index =>
      refine .bind (.attempt (worksAlike_mapGenerator each index iterationLimit))
        fun {result reply} ends => ?_
      cases ends with
      | ok results => exact .pure results
      | error failed =>
          refine .ite (.bind (.act ?_) fun _ => .fail failed) (.fail failed)
          exact ⟨trivial, rfl⟩

end Iteration

/-! ## Elements, providers and settings -/

theorem worksAlike_entryFrom (position : Nat) (same : numbers.Takes value twin) :
    numbers.WorksAlike numbers.Takes (entryFrom position value) (entryFrom position twin) := by
  have ends := Iteration.endsAlike_of same
  unfold entryFrom
  generalize Iteration.of value = result at ends ⊢
  generalize Iteration.of twin = reply at ends ⊢
  cases ends with
  | error _ => exact .fail ⟨trivial, rfl⟩
  | ok parts =>
      refine .bind (Iteration.worksAlike_mapItems parts false .pure) fun {items taken} inner => ?_
      rcases inner with ⟨lack, rfl⟩
      match items with
      | [] | [_] => exact .fail ⟨trivial, rfl⟩
      | [key, value] =>
          rcases List.forall_mem_cons.mp lack with ⟨first, others⟩
          have keys : numbers.Takes key (renumbered numbers key) := ⟨first, rfl⟩
          show numbers.WorksAlike _ (match key.unhashablePart? with
            | some part => _
            | none => _) (match (renumbered numbers key).unhashablePart? with
            | some part => _
            | none => _)
          rcases Value.unhashablePart?_cases keys with ⟨none, noneToo⟩ |
            ⟨part, other, found, foundToo, named⟩
          · rw [none, noneToo]
            exact .pure ⟨⟨first, others value (List.mem_singleton_self value)⟩, rfl⟩
          · rw [found, foundToo]
            exact .fail ⟨trivial, congrArg (Failure.fault <| Fault.unhashable ·) named.symm⟩
      | _ :: _ :: _ :: rest =>
          exact .fail ⟨trivial,
            congrArg (Failure.fault <| Fault.entryLength position ·) (List.length_map _).symm⟩

theorem worksAlike_entriesFrom {items twins : List Value}
    (same : List.Forall₂ numbers.Takes items twins) (position : Nat) :
    numbers.WorksAlike numbers.Takes (entriesFrom position items) (entriesFrom position twins) := by
  induction same generalizing position with
  | nil => exact .pure Renumbering.takes_nil
  | cons first _ induction =>
      exact .bind (worksAlike_entryFrom position first) fun entry =>
        .bind (induction (position + 1)) fun entries => .pure (Renumbering.takes_cons entry entries)

theorem worksAlike_attributesOf (same : numbers.Takes value twin) :
    numbers.WorksAlike numbers.Takes (attributesOf value) (attributesOf twin) := by
  unfold attributesOf
  rw [Value.truth_eq same]
  refine .ite (.pure Renumbering.takes_nil) ?_
  rcases (Value.takes_asMapping? same).option_cases with ⟨none, noneToo⟩ |
    ⟨entries, others, found, foundToo, inner⟩
  · rw [none, noneToo]
    refine .bind (.ofFault (Iteration.endsAlike_of same)) fun iteration => ?_
    refine .bind (Iteration.worksAlike_mapItems iteration false .pure) fun items => ?_
    exact .bind (worksAlike_entriesFrom (Renumbering.takes_iff_forall₂.mp items) 0) fun entries =>
      .pure (Entries.takes_merge Renumbering.takes_nil entries)
  · rw [found, foundToo]
    exact .pure inner

theorem worksAlike_makeElement {type form attributes others : Value} {children more : List Value}
    (types : numbers.Takes type form) (given : numbers.Takes attributes others)
    (inner : numbers.Takes children more) :
    numbers.WorksAlike numbers.Takes (makeElement type attributes children)
      (makeElement form others more) := by
  unfold makeElement
  rw [Element.isElementType_eq types]
  have failed : numbers.WorksAlike numbers.Takes
      (Work.fail (.fault (Element.typeFault type)) : Work Value)
      (Work.fail (.fault (Element.typeFault form))) :=
    .fail (Renumbering.takes_fault (Element.takes_typeFault types))
  refine .bind (.reserve numbers 1) fun fresh => .ite failed ?_
  refine .bind (worksAlike_attributesOf given) fun entries => .pure ?_
  exact Element.takes_toValue (Element.takes_mk (fresh 0 Nat.one_pos) types entries inner)

theorem takes_classify (same : numbers.Takes value twin) :
    numbers.Takes (Provider.classify value) (Provider.classify twin) := by
  rcases same with ⟨lacks, rfl⟩
  exact ⟨Registry.lacksProbe_classify lacks, (Registry.classify_renumbered numbers value).symm⟩

theorem worksAlike_makeSettings (request : SettingsRequest) :
    numbers.WorksAlike numbers.Takes (makeSettings request) (makeSettings request) := by
  have checked : numbers.EndsAlike Eq ((Settings.check request).mapError Fault.settings) _ :=
    .mapError_self _ fun _ => ⟨trivial, rfl⟩
  exact .ofFault (checked.map fun equal => ⟨trivial, congrArg Value.settings equal⟩)

end Script
end HtmlStream
