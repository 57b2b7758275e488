import HtmlStream.Element.Effects
import HtmlStream.Proofs.Component.Renumbering
import HtmlStream.Proofs.Element.Flattening
import HtmlStream.Serializer

/-!
Elements under other numbers: what they are made of, and how their effects are written.
-/
namespace HtmlStream

variable (numbers : Renumbering)

/-! ## Children -/

namespace Value

mutual
theorem leaves_renumbered (value : Value) :
    (value.renumbered numbers).leaves = Numbered.renumbered numbers value.leaves := by
  match value with
  | .list items | .tuple items => exact leavesOf_renumbered items
  | .null | .boolean _ | .integer _ | .float _ | .notANumber _ | .text _ | .markup _ | .mapping _
  | .element .. | .style _ | .marker .. | .fragment | .token _ | .provider .. | .settings _
  | .object .. | .safe .. | .routine _ | .component _ | .mappingType | .depthProbe => rfl

theorem leavesOf_renumbered (items : List Value) :
    leavesOf (renumberedAll numbers items) = Numbered.renumbered numbers (leavesOf items) := by
  match items with
  | [] => rfl
  | head :: tail =>
      rw [renumberedAll, leavesOf, leavesOf, leaves_renumbered head, leavesOf_renumbered tail]
      exact (List.map_append ..).symm
end

mutual
theorem lacksProbe_leaves (value : Value) (lacks : value.LacksProbe) :
    Numbered.LacksProbe value.leaves := by
  match value with
  | .list items | .tuple items => exact lacksProbe_leavesOf items lacks
  | .null | .boolean _ | .integer _ | .float _ | .notANumber _ | .text _ | .markup _ | .mapping _
  | .element .. | .style _ | .marker .. | .fragment | .token _ | .provider .. | .settings _
  | .object .. | .safe .. | .routine _ | .component _ | .mappingType =>
      exact List.forall_mem_singleton.mpr lacks
  | .depthProbe => exact lacks.elim

theorem lacksProbe_leavesOf (items : List Value) (lack : AllLackProbes items) :
    Numbered.LacksProbe (leavesOf items) := by
  match items with
  | [] => exact fun _ absent => (List.not_mem_nil absent).elim
  | head :: tail =>
      exact fun leaf member => (List.mem_append.mp member).elim
        (lacksProbe_leaves head lack.1 leaf) (lacksProbe_leavesOf tail lack.2 leaf)
end

theorem unsupportedChild_renumbered (child : Value) :
    unsupportedChild (child.renumbered numbers)
      = Numbered.renumbered numbers (unsupportedChild child) := by
  unfold unsupportedChild
  rw [isWritable_renumbered]
  split <;> rfl

theorem lacksProbe_unsupportedChild {child : Value} {failure : Failure}
    (given : unsupportedChild child = failure) (lacks : child.LacksProbe) :
    failure.LacksProbe := by
  subst given
  unfold unsupportedChild
  split
  · exact lacks
  · trivial

theorem written_cases (value : Value) :
    value.written = .ok value.toText ∨ value.written = .error .integerTooLong := by
  unfold written
  split
  · exact .inl rfl
  · exact .inr rfl

theorem childEffect_renumbered (child : Value) :
    (child.renumbered numbers).childEffect = Numbered.renumbered numbers child.childEffect := by
  cases child with
  | text content =>
      unfold renumbered childEffect
      dsimp only
      split <;> rfl
  | markup content | safe identity content =>
      unfold renumbered childEffect markupEffect
      dsimp only
      split <;> rfl
  | integer number =>
      unfold renumbered childEffect
      dsimp only
      rcases written_cases (.integer number) with shown | tooLong
      · rw [shown]
        rfl
      · rw [tooLong]
        rfl
  | routine reference =>
      rcases reference with ⟨kind, index, name⟩
      cases kind with
      | generator | asyncGenerator => rfl
      | coroutine =>
          exact congrArg Except.error (unsupportedChild_renumbered numbers (.routine _))
  | null | boolean | float | notANumber | element | style => rfl
  | list | tuple | mapping | marker | fragment | token | provider | settings | object | component
  | mappingType | depthProbe =>
      exact congrArg Except.error (unsupportedChild_renumbered numbers _)

theorem lacksProbe_childEffect {child : Value} (lacks : child.LacksProbe) :
    Numbered.LacksProbe child.childEffect := by
  cases child with
  | text content =>
      unfold childEffect
      dsimp only
      split
      · exact lacksProbe_none
      · exact lacksProbe_some trivial
  | markup content | safe identity content =>
      unfold childEffect markupEffect
      dsimp only
      split
      · exact lacksProbe_none
      · exact lacksProbe_some trivial
  | integer number =>
      unfold childEffect
      dsimp only
      have told := written_cases (.integer number)
      generalize written (.integer number) = shown at told ⊢
      rcases told with rfl | rfl
      · exact lacksProbe_ok (lacksProbe_some trivial)
      · exact lacksProbe_error trivial
  | routine reference =>
      rcases reference with ⟨kind, index, name⟩
      cases kind with
      | generator | asyncGenerator => exact lacksProbe_some trivial
      | coroutine => exact lacksProbe_unsupportedChild rfl lacks
  | null | boolean => exact lacksProbe_none
  | float | notANumber => exact lacksProbe_some trivial
  | element | style => exact lacksProbe_some lacks
  | list | tuple | mapping | marker | fragment | token | provider | settings | object | component
  | mappingType | depthProbe =>
      unfold childEffect
      dsimp only
      generalize given : unsupportedChild _ = failure
      exact lacksProbe_unsupportedChild given lacks

end Value

theorem flattenChildren_renumbered (children : List Value) :
    flattenChildren (renumbered numbers children) = renumbered numbers (flattenChildren children) := by
  rw [flattenChildren_eq_leavesOf, flattenChildren_eq_leavesOf, ← Value.renumberedAll_eq]
  exact Value.leavesOf_renumbered numbers children

theorem lacksProbe_flattenChildren {children : List Value} (lack : LacksProbe children) :
    LacksProbe (flattenChildren children) := by
  rw [flattenChildren_eq_leavesOf]
  exact Value.lacksProbe_leavesOf children ((Value.allLackProbes_iff children).mpr lack)

namespace Element

theorem childEffects_renumbered (children : List Value) :
    childEffects (renumbered numbers children) = renumbered numbers (childEffects children) := by
  induction children with
  | nil => rfl
  | cons child rest induction =>
      have cons : renumbered numbers (child :: rest)
          = child.renumbered numbers :: renumbered numbers rest := rfl
      rw [cons]
      unfold childEffects
      rw [Value.childEffect_renumbered, induction]
      rcases child.childEffect with failure | ⟨_ | effect⟩ <;> rfl

theorem lacksProbe_childEffects {children : List Value} (lack : LacksProbe children) :
    LacksProbe (childEffects children) := by
  induction children with
  | nil => exact fun _ absent => (List.not_mem_nil absent).elim
  | cons child rest induction =>
      rcases List.forall_mem_cons.mp lack with ⟨first, others⟩
      have told := Value.lacksProbe_childEffect first
      unfold childEffects
      cases found : child.childEffect with
      | error failure =>
          rw [found] at told
          exact List.forall_mem_singleton.mpr told
      | ok effect? =>
          rw [found] at told
          cases effect? with
          | none => exact induction others
          | some effect => exact List.forall_mem_cons.mpr ⟨told effect rfl, induction others⟩

instance : Numbered Element where
  renumbered numbers node :=
    { identity := numbers.identity node.identity
      type := renumbered numbers node.type
      attributes := renumbered numbers node.attributes
      children := renumbered numbers node.children }
  LacksProbe node := LacksProbe node.type ∧ LacksProbe node.attributes ∧ LacksProbe node.children

variable (node : Element)

theorem marker_renumbered (role : MarkerRole) :
    (renumbered numbers node).marker role = (node.marker role).renumbered numbers := by
  show _ = Value.marker role (node.type.renumbered numbers)
    (.mapping (Value.renumberedEntries numbers node.attributes))
    (.tuple (Value.renumberedAll numbers node.children))
  rw [Value.renumberedEntries_eq, Value.renumberedAll_eq]
  rfl

theorem lacksProbe_marker (lacks : LacksProbe node) (role : MarkerRole) :
    (node.marker role).LacksProbe :=
  ⟨lacks.1, (Value.entriesLackProbes_iff _).mpr lacks.2.1,
    (Value.allLackProbes_iff _).mpr lacks.2.2⟩

theorem hasClosing_renumbered (name : String) (children : List Value) :
    hasClosing name (renumbered numbers children) = hasClosing name children :=
  congrArg (!· || !Template.isVoid name) List.isEmpty_map

/-- The effects of an element with a given tag around those of its children. -/
theorem effects_of_tag {name : String} (named : node.type = .text name ∨ node.type = .markup name) :
    node.effects = .ok (node.marker .opening) :: childEffects (flattenChildren node.children)
      ++ if hasClosing name node.children then [.ok (node.marker .closing)] else [] := by
  unfold effects
  rcases named with equal | equal <;> rw [equal]

theorem effects_renumbered :
    (renumbered numbers node).effects = renumbered numbers node.effects := by
  have inner : childEffects (flattenChildren (renumbered numbers node).children)
      = renumbered numbers (childEffects (flattenChildren node.children)) := by
    rw [← childEffects_renumbered, ← flattenChildren_renumbered]
    rfl
  have tag {name : String} (named : node.type = .text name ∨ node.type = .markup name) :
      (renumbered numbers node).effects = renumbered numbers node.effects := by
    have renamed : (renumbered numbers node).type = .text name
        ∨ (renumbered numbers node).type = .markup name :=
      named.imp (congrArg (Value.renumbered numbers)) (congrArg (Value.renumbered numbers))
    rw [effects_of_tag _ renamed, effects_of_tag _ named, inner, marker_renumbered,
      marker_renumbered, show (renumbered numbers node).children
        = renumbered numbers node.children from rfl, hasClosing_renumbered]
    refine Eq.trans ?_ (List.map_append ..).symm
    congr 1
    split <;> rfl
  have other (bare : node.effects = childEffects (flattenChildren node.children))
      (bareThen : (renumbered numbers node).effects
        = childEffects (flattenChildren (renumbered numbers node).children)) :
      (renumbered numbers node).effects = renumbered numbers node.effects := by
    rw [bareThen, bare, inner]
  rcases node with ⟨identity, type, attributes, children⟩
  cases type with
  | text name => exact tag (.inl rfl)
  | markup name => exact tag (.inr rfl)
  | _ => exact other rfl rfl

theorem lacksProbe_effects (lacks : LacksProbe node) : LacksProbe node.effects := by
  have inner : LacksProbe (childEffects (flattenChildren node.children)) :=
    lacksProbe_childEffects (lacksProbe_flattenChildren lacks.2.2)
  have tag {name : String} (named : node.type = .text name ∨ node.type = .markup name) :
      LacksProbe node.effects := by
    rw [effects_of_tag _ named]
    intro effect member
    rcases List.mem_append.mp member with member | member
    · rcases List.mem_cons.mp member with rfl | member
      · exact lacksProbe_marker node lacks .opening
      · exact inner effect member
    · split at member
      · cases List.mem_singleton.mp member
        exact lacksProbe_marker node lacks .closing
      · exact (List.not_mem_nil member).elim
  rcases node with ⟨identity, type, attributes, children⟩
  cases type with
  | text name => exact tag (.inl rfl)
  | markup name => exact tag (.inr rfl)
  | _ => exact inner

end Element

/-! ## What is written -/

namespace Serializer

/-- What a value that knows its own markup is written as. -/
def ownMarkup? : Value → Option Value
  | .markup content => some (.markup content)
  | .safe _ content => some (.text content)
  | _ => none

theorem shown_eq (autoescape : Bool) (value : Value) :
    shown autoescape value = match ownMarkup? value with
      | some own => .ok own
      | none => value.written.map fun content =>
          .text (if autoescape then escapeHtml content else content) := by
  cases value <;> rfl

theorem text_renumbered (autoescape : Bool) (value : Value) :
    text autoescape (value.renumbered numbers) = text autoescape value := by
  have own : ownMarkup? (value.renumbered numbers) = ownMarkup? value := by
    cases value <;> rfl
  unfold text
  rw [shown_eq, shown_eq, own, Value.written_renumbered]

theorem attributeText_renumbered (autoescape : Bool) (key value : Value) :
    attributeText autoescape (key.renumbered numbers) (value.renumbered numbers)
      = attributeText autoescape key value := by
  have forChildren : isChildrenKey (key.renumbered numbers) = isChildrenKey key := by
    cases key <;> rfl
  have written := Value.written_renumbered numbers key
  unfold attributeText
  rw [forChildren]
  split
  · rfl
  · cases value with
    | boolean value => cases value <;> simp only [Value.renumbered, written]
    | null => rfl
    | _ =>
        exact congrArg₂ (fun (shown : Except Fault String) (content : Except Fault String) => do
          return " " ++ (← shown) ++ "=\"" ++ (← content) ++ "\"") written
          (text_renumbered numbers autoescape _)

theorem asMapping?_renumbered (value : Value) :
    (value.renumbered numbers).asMapping? = renumbered numbers value.asMapping? := by
  cases value with
  | mapping entries => exact congrArg some (Value.renumberedEntries_eq numbers entries)
  | component reference =>
      rcases reference with ⟨name, kind, hashable⟩
      cases hashable <;> rfl
  | _ => rfl

theorem attributesText_renumbered (autoescape : Bool) (attributes : Value) :
    attributesText autoescape (attributes.renumbered numbers)
      = attributesText autoescape attributes := by
  unfold attributesText
  rw [asMapping?_renumbered, Value.typeName_renumbered]
  cases attributes.asMapping? with
  | none => rfl
  | some entries =>
      have texts : (renumbered numbers entries).mapM
          (fun entry => attributeText autoescape entry.1 entry.2)
            = entries.mapM fun entry => attributeText autoescape entry.1 entry.2 := by
        refine (List.mapM_map ..).trans ?_
        congr 1
        funext entry
        exact attributeText_renumbered numbers autoescape entry.1 entry.2
      show (do return String.join (← (renumbered numbers entries).mapM
        fun entry : Value × Value => attributeText autoescape entry.1 entry.2)) = _
      rw [texts]

theorem openingTag_renumbered (autoescape : Bool) (type attributes : Value) :
    openingTag autoescape ⟨type.renumbered numbers, attributes.renumbered numbers⟩
      = openingTag autoescape ⟨type, attributes⟩ := by
  unfold openingTag
  dsimp only
  rw [attributesText_renumbered, Value.written_renumbered]

theorem closingTag_renumbered (type attributes : Value) :
    closingTag ⟨type.renumbered numbers, attributes.renumbered numbers⟩
      = closingTag ⟨type, attributes⟩ := by
  unfold closingTag
  dsimp only
  rw [Value.written_renumbered]

theorem resultText_renumbered (autoescape : Bool) (result : Value) :
    resultText autoescape (result.renumbered numbers) = resultText autoescape result := by
  cases result with
  | notANumber identity =>
      exact congrArg (fun written : Except Fault String => do
        text autoescape (.text (← written))) (Value.written_renumbered numbers (.notANumber identity))
  | _ => rfl

/-- With other numbers, a style is written where it is met first as well. -/
theorem styleBlock_renumbered (styles : StyleSet) (style : Style) :
    styleBlock (renumbered numbers styles) (renumbered numbers style)
      = ((styleBlock styles style).1, renumbered numbers (styleBlock styles style).2) := by
  have recorded : isRecorded (renumbered numbers styles) (.style (renumbered numbers style))
      = isRecorded styles (.style style) := by
    refine (List.any_map ..).trans ?_
    congr 1
    funext known
    exact Value.matchesItem_renumbered numbers known (.style style)
  unfold styleBlock record
  rw [recorded]
  cases isRecorded styles (.style style) <;> rfl

theorem lacksProbe_styleBlock {styles : StyleSet} (lack : LacksProbe styles) (style : Style) :
    LacksProbe (styleBlock styles style).2 := by
  unfold styleBlock record
  cases isRecorded styles (.style style) with
  | true => exact lack
  | false => exact List.forall_mem_cons.mpr ⟨trivial, lack⟩

end Serializer
end HtmlStream
