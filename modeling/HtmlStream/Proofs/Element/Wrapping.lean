import HtmlStream.Proofs.Component.PassThrough

/-!
Wrapping children. A child may stand in a collection of its own, in a fragment, or in a component that
only passes its children on. The effects of a tree with such wrappers are those of the tree without
them, once the wrappers are unfolded. The main statement is `Wraps.unfolds`.
-/
namespace HtmlStream

/-! ## Effects -/

theorem Value.leavesOf_singleton (child : Value) : leavesOf [child] = child.leaves :=
  List.append_nil child.leaves

namespace Element

/-- The effects of all leaves, with a failure for each that stands for nothing. A body that yields
them comes no further than to the first failure. -/
def effectsOf (leaves : List Value) : List (Except Failure Value) :=
  leaves.filterMap fun leaf =>
    match leaf.childEffect with
    | .ok effect? => effect?.map .ok
    | .error failure => some (.error failure)

/-- The effects of an element that is no component, those after a failure included. -/
def allEffects (node : Element) : List (Except Failure Value) :=
  let inner := effectsOf (Value.leavesOf node.children)
  match node.type with
  | .text name | .markup name =>
      .ok (node.marker .opening) :: inner
        ++ (if hasClosing name node.children then [.ok (node.marker .closing)] else [])
  | _ => inner

theorem effectsOf_append (first second : List Value) :
    effectsOf (first ++ second) = effectsOf first ++ effectsOf second :=
  List.filterMap_append ..

theorem yieldAll_append (leaves : List Value) (rest : List (Except Failure Value)) :
    Routine.yieldAll (childEffects leaves ++ rest) = Routine.yieldAll (effectsOf leaves ++ rest) := by
  induction leaves with
  | nil => rfl
  | cons leaf leaves induction =>
      unfold childEffects effectsOf
      rw [List.filterMap_cons]
      cases leaf.childEffect with
      | error failure => rfl
      | ok effect? =>
          cases effect? with
          | none => exact induction
          | some effect =>
              show Routine.yieldAll (.ok effect :: (childEffects leaves ++ rest))
                = Routine.yieldAll (.ok effect :: (effectsOf leaves ++ rest))
              unfold Routine.yieldAll
              rw [induction]

theorem body_eq_yieldAll (node : Element) (plain : node.type.isCallable = false) :
    node.body = .yieldAll node.allEffects := by
  have inner := yieldAll_append (Value.leavesOf node.children)
  unfold body effects allEffects
  rw [if_neg (Bool.eq_false_iff.mp plain), flattenChildren_eq_leavesOf]
  have bare := inner []
  rw [List.append_nil, List.append_nil] at bare
  have tag (rest : List (Except Failure Value)) :
      Routine.yieldAll (.ok (node.marker .opening) :: childEffects (Value.leavesOf node.children) ++ rest)
        = Routine.yieldAll (.ok (node.marker .opening) :: effectsOf (Value.leavesOf node.children)
            ++ rest) := by
    rw [List.cons_append, List.cons_append, Routine.yieldAll, Routine.yieldAll, inner]
  cases node.type with
  | text name | markup name => exact tag _
  | _ => exact bare

/-- What a leaf may stand for: an effect that is rendered without anything being asked for, or a
failure that nobody has raised. -/
def IsOfChild : Except Failure Value → Prop
  | .ok (.text _) | .ok (.markup _) | .ok (.element ..) | .ok (.style _) | .ok (.routine _) => True
  | .ok _ | .error (.raised ..) => False
  | .error _ => True

theorem isOfChild_unsupportedChild {child : Value} {failure : Failure}
    (given : child.unsupportedChild = failure) : IsOfChild (.error failure) := by
  subst given
  unfold Value.unsupportedChild
  split <;> trivial

theorem isOfChild_of_mem {leaves : List Value} {effect : Except Failure Value}
    (member : effect ∈ effectsOf leaves) : IsOfChild effect := by
  rcases List.mem_filterMap.mp member with ⟨leaf, _, found⟩
  cases leaf with
  | text content =>
      unfold Value.childEffect at found
      dsimp only at found
      split at found <;> cases found
      trivial
  | markup content | safe identity content =>
      unfold Value.childEffect Value.markupEffect at found
      dsimp only at found
      split at found <;> cases found
      trivial
  | integer number =>
      unfold Value.childEffect at found
      dsimp only at found
      cases shown : (Value.integer number).written with
      | ok content =>
          rw [shown] at found
          cases found
          trivial
      | error fault =>
          rw [shown] at found
          cases found
          trivial
  | routine reference =>
      rcases reference with ⟨kind, index, name⟩
      cases kind with
      | generator | asyncGenerator =>
          cases found
          trivial
      | coroutine =>
          unfold Value.childEffect at found
          dsimp only at found
          generalize given : Value.unsupportedChild _ = failure at found
          cases found
          exact isOfChild_unsupportedChild given
  | null | boolean => cases found
  | float | notANumber | element | style =>
      cases found
      trivial
  | _ =>
      unfold Value.childEffect at found
      dsimp only at found
      generalize given : Value.unsupportedChild _ = failure at found
      cases found
      exact isOfChild_unsupportedChild given

theorem effectsOf_renumbered (numbers : Renumbering) (leaves : List Value) :
    effectsOf (renumbered numbers leaves) = renumbered numbers (effectsOf leaves) := by
  induction leaves with
  | nil => rfl
  | cons leaf leaves induction =>
      have cons : renumbered numbers (leaf :: leaves)
          = leaf.renumbered numbers :: renumbered numbers leaves := rfl
      rw [cons]
      unfold effectsOf at induction ⊢
      rw [List.filterMap_cons, List.filterMap_cons, Value.childEffect_renumbered, induction]
      rcases leaf.childEffect with failure | ⟨_ | effect⟩ <;> rfl

theorem lacksProbe_effectsOf {leaves : List Value} (lack : LacksProbe leaves) :
    LacksProbe (effectsOf leaves) := by
  induction leaves with
  | nil => exact fun _ absent => (List.not_mem_nil absent).elim
  | cons leaf leaves induction =>
      rcases List.forall_mem_cons.mp lack with ⟨first, others⟩
      have told := Value.lacksProbe_childEffect first
      unfold effectsOf at induction ⊢
      rw [List.filterMap_cons]
      cases found : leaf.childEffect with
      | error failure =>
          rw [found] at told
          exact List.forall_mem_cons.mpr ⟨told, induction others⟩
      | ok effect? =>
          rw [found] at told
          cases effect? with
          | none => exact induction others
          | some effect => exact List.forall_mem_cons.mpr ⟨told effect rfl, induction others⟩

theorem isUniform_effectsOf_leaves : IsUniform fun child : Value => effectsOf child.leaves where
  renumbered numbers child := by
    rw [← effectsOf_renumbered, ← Value.leaves_renumbered]
    rfl
  lacksProbe child lacks := lacksProbe_effectsOf (Value.lacksProbe_leaves child lacks)

end Element

/-! ## Wrappers -/

mutual
/-- The second value is the first one with wrappers around children of literal tags and fragments.
Nothing else is different but numbers. -/
inductive Wraps (pairing : Pairing) (library : Library) : Value → Value → Prop
  | same {child twin : Value} (related : pairing.Relates child twin) :
      Wraps pairing library child twin
  | list {items others : List Value} (all : WrapsAll pairing library items others) :
      Wraps pairing library (.list items) (.list others)
  | tuple {items others : List Value} (all : WrapsAll pairing library items others) :
      Wraps pairing library (.tuple items) (.tuple others)
  | element {identity other : Nat} {type : Value} {attributes given : Entries}
      {children others : List Value} (tag : type.isTagType = true)
      (attributesRelated : pairing.Relates attributes given)
      (all : WrapsAll pairing library children others) :
      Wraps pairing library (.element identity type attributes children)
        (.element other type given others)
  | inList {child twin : Value} (inside : Wraps pairing library child twin) :
      Wraps pairing library child (.list [twin])
  | inTuple {child twin : Value} (inside : Wraps pairing library child twin) :
      Wraps pairing library child (.tuple [twin])
  | inFragment {child twin : Value} (identity : Nat) (attributes : Entries)
      (inside : Wraps pairing library child twin) :
      Wraps pairing library child (.element identity .fragment attributes [twin])
  | inComponent {child twin : Value} (identity : Nat) (name : String)
      (found : library.find? (Component.passThrough name).reference
        = some (Component.passThrough name))
      (inside : Wraps pairing library child twin) :
      Wraps pairing library child
        (.element identity (.component (Component.passThrough name).reference) [] [twin])

inductive WrapsAll (pairing : Pairing) (library : Library) : List Value → List Value → Prop
  | nil : WrapsAll pairing library [] []
  | cons {child twin : Value} {children others : List Value} (first : Wraps pairing library child twin)
      (rest : WrapsAll pairing library children others) :
      WrapsAll pairing library (child :: children) (twin :: others)
end

/-- The second effects are the first ones, once wrappers among them are unfolded to their own
effects. -/
inductive Unfolds (pairing : Pairing) (library : Library) :
    List (Except Failure Value) → List (Except Failure Value) → Prop
  | none : Unfolds pairing library [] []
  | fails {failure other : Failure} {rest others : List (Except Failure Value)}
      (ofChild : Element.IsOfChild (.error failure)) (related : pairing.Relates failure other) :
      Unfolds pairing library (.error failure :: rest) (.error other :: others)
  | same {effect twin : Value} {rest others : List (Except Failure Value)}
      (ofChild : Element.IsOfChild (.ok effect)) (related : pairing.Relates effect twin)
      (later : Unfolds pairing library rest others) :
      Unfolds pairing library (.ok effect :: rest) (.ok twin :: others)
  | marker {node twin : Element} {role : MarkerRole} {rest others : List (Except Failure Value)}
      (isBoundary : role ≠ .unspecified) (tag : node.type.isTagType = true)
      (type : twin.type = node.type) (attributes : pairing.Relates node.attributes twin.attributes)
      (later : Unfolds pairing library rest others) :
      Unfolds pairing library (.ok (node.marker role) :: rest) (.ok (twin.marker role) :: others)
  | element {node twin : Element} {rest others : List (Except Failure Value)}
      (tag : node.type.isTagType = true) (type : twin.type = node.type)
      (inside : Unfolds pairing library node.allEffects twin.allEffects)
      (later : Unfolds pairing library rest others) :
      Unfolds pairing library (.ok node.toValue :: rest) (.ok twin.toValue :: others)
  | fragment {twin : Element} {rest others : List (Except Failure Value)}
      (isFragment : twin.type = .fragment)
      (later : Unfolds pairing library rest (twin.allEffects ++ others)) :
      Unfolds pairing library rest (.ok twin.toValue :: others)
  | component {identity : Nat} {name : String} {children : List Value}
      {rest others : List (Except Failure Value)}
      (found : library.find? (Component.passThrough name).reference
        = some (Component.passThrough name))
      (later : Unfolds pairing library rest
        (Element.effectsOf (Value.leavesOf children) ++ others)) :
      Unfolds pairing library rest
        (.ok (.element identity (.component (Component.passThrough name).reference) [] children)
          :: others)

variable {pairing : Pairing} {library : Library}

namespace Unfolds

theorem extend {later : Pairing} (extend : pairing.Extends later)
    {effects others : List (Except Failure Value)} (unfolds : Unfolds pairing library effects others) :
    Unfolds later library effects others := by
  induction unfolds with
  | none => exact .none
  | fails ofChild related => exact .fails ofChild (extend.relates related)
  | same ofChild related _ induction => exact .same ofChild (extend.relates related) induction
  | marker isBoundary tag type attributes _ induction =>
      exact .marker isBoundary tag type (extend.relates attributes) induction
  | element tag type _ _ inside induction => exact .element tag type inside induction
  | fragment isFragment _ induction => exact .fragment isFragment induction
  | component found _ induction => exact .component found induction

/-- Effects that are the same but for their numbers. -/
theorem of_relates (inhabited : ∃ numbers, pairing.Allows numbers)
    {effects others : List (Except Failure Value)} (related : pairing.Relates effects others)
    (ofChildren : ∀ effect ∈ effects, Element.IsOfChild effect)
    {rest more : List (Except Failure Value)} (later : Unfolds pairing library rest more) :
    Unfolds pairing library (effects ++ rest) (others ++ more) := by
  rcases inhabited with ⟨numbers, allows⟩
  cases related.equal allows
  induction effects with
  | nil => exact later
  | cons effect effects induction =>
      rcases List.forall_mem_cons.mp ofChildren with ⟨ofChild, ofOthers⟩
      have rest : pairing.Relates effects (renumbered numbers effects) :=
        ⟨fun other member => related.lacks other (List.mem_cons_of_mem _ member),
          fun allows => (List.cons.inj (related.equal allows)).2⟩
      have first : pairing.Relates effect (renumbered numbers effect) :=
        ⟨related.lacks effect List.mem_cons_self, fun allows => (List.cons.inj (related.equal allows)).1⟩
      have onward := induction ofOthers rest
      cases effect with
      | ok effect =>
          exact .same ofChild ⟨first.lacks, fun allows => Except.ok.inj (first.equal allows)⟩ onward
      | error failure =>
          exact .fails ofChild ⟨first.lacks, fun allows => Except.error.inj (first.equal allows)⟩

/-- A tag and the same tag with wrappers around its children. -/
theorem allEffects {node twin : Element} (tag : node.type.isTagType = true)
    (type : twin.type = node.type) (attributes : pairing.Relates node.attributes twin.attributes)
    (empty : twin.children.isEmpty = node.children.isEmpty)
    (inner : ∀ {rest others}, Unfolds pairing library rest others →
      Unfolds pairing library (Element.effectsOf (Value.leavesOf node.children) ++ rest)
        (Element.effectsOf (Value.leavesOf twin.children) ++ others)) :
    Unfolds pairing library node.allEffects twin.allEffects := by
  have around (name : String) : Unfolds pairing library
      (.ok (node.marker .opening) :: Element.effectsOf (Value.leavesOf node.children)
        ++ (if Element.hasClosing name node.children then [.ok (node.marker .closing)] else []))
      (.ok (twin.marker .opening) :: Element.effectsOf (Value.leavesOf twin.children)
        ++ (if Element.hasClosing name twin.children then [.ok (twin.marker .closing)] else [])) := by
    have closes : Element.hasClosing name twin.children = Element.hasClosing name node.children := by
      unfold Element.hasClosing
      rw [empty]
    rw [closes]
    refine .marker (by decide) tag type attributes (inner ?_)
    split
    · exact .marker (by decide) tag type attributes .none
    · exact .none
  have bare := inner .none
  rw [List.append_nil, List.append_nil] at bare
  unfold Element.allEffects
  rw [type]
  cases node.type with
  | text name | markup name => exact around name
  | _ => exact bare

end Unfolds

/-! ## Unfolding wrappers -/

theorem WrapsAll.isEmpty_eq {children others : List Value}
    (all : WrapsAll pairing library children others) : others.isEmpty = children.isEmpty := by
  cases all <;> rfl

mutual
/-- What is inside wrappers has the effects that it has without them. -/
theorem Wraps.unfolds (inhabited : ∃ numbers, pairing.Allows numbers) {child twin : Value}
    (wraps : Wraps pairing library child twin) {rest others : List (Except Failure Value)}
    (later : Unfolds pairing library rest others) :
    Unfolds pairing library (Element.effectsOf child.leaves ++ rest)
      (Element.effectsOf twin.leaves ++ others) := by
  cases wraps with
  | same related =>
      exact .of_relates inhabited (.map Element.isUniform_effectsOf_leaves related)
        (fun _ => Element.isOfChild_of_mem) later
  | list all | tuple all => exact all.unfolds inhabited later
  | @element identity other type attributes given children twins tag attributesRelated all =>
      have inside : Unfolds pairing library (Element.mk identity type attributes children).allEffects
          (Element.mk other type given twins).allEffects :=
        .allEffects tag rfl attributesRelated all.isEmpty_eq (all.unfolds inhabited)
      have whole : Unfolds pairing library
          (.ok (Element.mk identity type attributes children).toValue :: rest)
          (.ok (Element.mk other type given twins).toValue :: others) :=
        .element tag rfl inside later
      exact whole
  | @inList _ twin inside | @inTuple _ twin inside =>
      rw [Value.leaves, Value.leavesOf_singleton twin]
      exact inside.unfolds inhabited later
  | @inFragment _ twin identity attributes inside =>
      have unwrapped := inside.unfolds inhabited later
      rw [← Value.leavesOf_singleton twin] at unwrapped
      have whole : Unfolds pairing library _
          (.ok (Element.mk identity .fragment attributes [twin]).toValue :: others) :=
        .fragment rfl unwrapped
      exact whole
  | @inComponent _ twin identity name found inside =>
      have unwrapped := inside.unfolds inhabited later
      rw [← Value.leavesOf_singleton twin] at unwrapped
      exact .component found unwrapped

theorem WrapsAll.unfolds (inhabited : ∃ numbers, pairing.Allows numbers) {children others : List Value}
    (all : WrapsAll pairing library children others) {rest more : List (Except Failure Value)}
    (later : Unfolds pairing library rest more) :
    Unfolds pairing library (Element.effectsOf (Value.leavesOf children) ++ rest)
      (Element.effectsOf (Value.leavesOf others) ++ more) := by
  cases all with
  | nil => exact later
  | cons first rest =>
      rw [Value.leavesOf, Value.leavesOf, Element.effectsOf_append, Element.effectsOf_append,
        List.append_assoc, List.append_assoc]
      exact first.unfolds inhabited (rest.unfolds inhabited later)
end

end HtmlStream
