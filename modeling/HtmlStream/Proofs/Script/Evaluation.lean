import HtmlStream.Proofs.Script.Renumbering
import HtmlStream.Script.Notation

/-!
Expressions and operations under other numbers. No expression that can be written down in a script
shows a number, so what it comes to is the same with other numbers for what its names are bound to.
The main statements are `Expression.worksAlike_evaluate`, `Operation.worksAlike_perform` and
`gives_expressionOf`.
-/
namespace HtmlStream

/-- A value without numbers, from which nobody learns how many frames there are. -/
def Value.ShowsNone (value : Value) : Prop :=
  (∀ numbers, renumbered numbers value = value) ∧ LacksProbe value

namespace Script

variable {numbers : Renumbering} {scope names : Scope}

/-! ## Names -/

namespace Scope

theorem takes_assign (same : numbers.Takes scope names) {value twin : Value}
    (values : numbers.Takes value twin) (name : String) :
    numbers.Takes (scope.assign name value) (names.assign name twin) := by
  refine Renumbering.takes_cons (Renumbering.takes_pair ⟨trivial, rfl⟩ values) ?_
  rcases same with ⟨lack, rfl⟩
  refine ⟨fun entry member => lack entry (List.mem_filter.mp member).1, Eq.symm ?_⟩
  exact List.filter_map ..

theorem takes_get? (same : numbers.Takes scope names) (name : String) :
    numbers.Takes (scope.get? name) (names.get? name) := by
  rcases same with ⟨lack, rfl⟩
  have found : (renumbered numbers scope).find? (fun entry => entry.1 == name)
      = (scope.find? fun entry => entry.1 == name).map (renumbered numbers) := List.find?_map ..
  unfold get?
  rw [found]
  cases there : scope.find? fun entry => entry.1 == name with
  | none => exact Renumbering.takes_none
  | some entry =>
      exact Renumbering.takes_some ⟨(lack entry (List.mem_of_find?_eq_some there)).2, rfl⟩

end Scope

/-! ## Expressions -/

mutual
/-- No constant in the expression shows a number. -/
def Expression.ShowsNone : Expression → Prop
  | .constant value => value.ShowsNone
  | .list items | .tuple items | .joined items => AllShowNone items
  | .mapping entries => EntriesShowNone entries
  | .nested item _ => item.ShowsNone
  | .style operand | .markup operand => operand.ShowsNone
  | .element type attributes children =>
      type.ShowsNone ∧ OptionShowsNone attributes ∧ AllShowNone children
  | .marker _ type attributes children =>
      type.ShowsNone ∧ OptionShowsNone attributes ∧ OptionShowsNone children
  | .call callee arguments => callee.ShowsNone ∧ ArgumentsShowNone arguments
  | .difference left right | .equality left right | .item left right | .each _ left right =>
      left.ShowsNone ∧ right.ShowsNone
  | .range operand | .provider operand => operand.ShowsNone
  | .metadata _ default => OptionShowsNone default
  | _ => True

def OptionShowsNone : Option Expression → Prop
  | some expression => expression.ShowsNone
  | none => True

def AllShowNone : List Expression → Prop
  | [] => True
  | head :: tail => head.ShowsNone ∧ AllShowNone tail

def EntriesShowNone : List (Expression × Expression) → Prop
  | [] => True
  | (key, value) :: rest => key.ShowsNone ∧ value.ShowsNone ∧ EntriesShowNone rest

def ArgumentsShowNone : List (String × Expression) → Prop
  | [] => True
  | (_, value) :: rest => value.ShowsNone ∧ ArgumentsShowNone rest

def InterpolationExpression.ShowsNone : InterpolationExpression → Prop
  | .mk value conversion specification =>
      value.ShowsNone ∧ conversion.ShowsNone ∧ specification.ShowsNone

def InterpolationsShowNone : List InterpolationExpression → Prop
  | [] => True
  | head :: tail => head.ShowsNone ∧ InterpolationsShowNone tail

def TemplateExpression.ShowsNone : TemplateExpression → Prop
  | .template _ interpolations => InterpolationsShowNone interpolations
  | .other operand => operand.ShowsNone
end

theorem takes_null : numbers.Takes Value.null .null :=
  ⟨trivial, rfl⟩

theorem takes_constant {value : Value} (plain : value.ShowsNone) : numbers.Takes value value :=
  ⟨plain.2, plain.1 numbers⟩

mutual
/-- With other numbers for what its names are bound to, an expression comes to the same. -/
theorem Expression.worksAlike_evaluate (expression : Expression) (plain : expression.ShowsNone)
    {scope names : Scope} (same : numbers.Takes scope names) :
    numbers.WorksAlike numbers.Takes (expression.evaluate scope) (expression.evaluate names) := by
  match expression with
  | .constant value => exact .pure (takes_constant plain)
  | .integerNumeral text =>
      exact .bind (.ofFault (.mapError_self _ fun _ => ⟨trivial, rfl⟩)) fun equal =>
        .pure ⟨trivial, congrArg Value.integer equal⟩
  | .floatNumeral text =>
      exact .bind (.ofFault (.mapError_self _ fun _ => ⟨trivial, rfl⟩)) fun equal =>
        equal ▸ worksAlike_makeFloat _
  | .named name =>
      unfold Expression.evaluate
      rcases (Scope.takes_get? same name).option_cases with ⟨none, noneToo⟩ |
        ⟨value, twin, found, foundToo, values⟩
      · rw [none, noneToo]
        exact .act ⟨trivial, rfl⟩
      · rw [found, foundToo]
        exact .pure values
  | .list items =>
      exact .bind (worksAlike_evaluateAll items plain same) fun items =>
        .pure (Renumbering.takes_list items)
  | .tuple items =>
      exact .bind (worksAlike_evaluateAll items plain same) fun items =>
        .pure (Renumbering.takes_tuple items)
  | .mapping entries =>
      exact .bind (worksAlike_evaluateEntries entries plain same) fun entries =>
        .ofFault (endsAlike_mappingOf entries)
  | .nested item depth =>
      exact .bind (item.worksAlike_evaluate plain same) fun item => .pure (takes_nest item depth)
  | .repeated text count =>
      exact .bind (.ofFault (endsAlike_repeatText text count)) fun equal =>
        .pure (Value.takes_text equal)
  | .safe content =>
      exact .bind (.reserve numbers 1) fun fresh =>
        .pure ⟨trivial, congrArg (Value.safe · content) (fresh 0 Nat.one_pos)⟩
  | .object name =>
      exact .bind (.reserve numbers 1) fun fresh =>
        .pure ⟨trivial, congrArg (Value.object · name) (fresh 0 Nat.one_pos)⟩
  | .newToken name => exact worksAlike_makeToken name
  | .style operand =>
      exact .bind (operand.worksAlike_evaluate plain same) worksAlike_makeStyle
  | .markup operand =>
      exact .bind (operand.worksAlike_evaluate plain same) worksAlike_makeMarkup
  | .element type attributes children =>
      exact .bind (type.worksAlike_evaluate plain.1 same) fun types =>
        .bind (worksAlike_evaluateOr attributes plain.2.1 takes_null same) fun given =>
          .bind (worksAlike_evaluateAll children plain.2.2 same) fun inner =>
            worksAlike_makeElement types given inner
  | .marker role type attributes children =>
      have entries : numbers.Takes (Value.mapping []) _ :=
        Renumbering.takes_mapping Renumbering.takes_nil
      have items : numbers.Takes (Value.tuple []) _ := Renumbering.takes_tuple Renumbering.takes_nil
      refine .bind (type.worksAlike_evaluate plain.1 same) fun types =>
        .bind (worksAlike_evaluateOr attributes plain.2.1 entries same) fun given =>
          .bind (worksAlike_evaluateOr children plain.2.2 items same) fun inner =>
            .pure ⟨⟨types.lacks, given.lacks, inner.lacks⟩, ?_⟩
      rw [← types.equal, ← given.equal, ← inner.equal]
      rfl
  | .call callee arguments =>
      exact .bind (callee.worksAlike_evaluate plain.1 same) fun callees =>
        .bind (worksAlike_evaluateArguments arguments plain.2 same) fun given =>
          .act ⟨⟨callees.lacks, given.lacks⟩, congrArg₂ Action.call callees.equal given.equal⟩
  | .joined parts =>
      exact .bind (worksAlike_evaluateAll parts plain same) fun parts =>
        .bind (.ofFault (.mapM_eq (Renumbering.takes_iff_forall₂.mp parts) Value.endsAlike_written))
          fun equal => .pure (Value.takes_text (congrArg String.join equal))
  | .difference left right =>
      exact .bind (left.worksAlike_evaluate plain.1 same) fun lefts =>
        .bind (right.worksAlike_evaluate plain.2 same) (worksAlike_makeDifference lefts)
  | .equality left right =>
      exact .bind (left.worksAlike_evaluate plain.1 same) fun lefts =>
        .bind (right.worksAlike_evaluate plain.2 same) fun rights =>
          .pure ⟨trivial, congrArg Value.boolean (Value.equals_eq lefts rights).symm⟩
  | .item container key =>
      exact .bind (container.worksAlike_evaluate plain.1 same) fun containers =>
        .bind (key.worksAlike_evaluate plain.2 same) fun keys =>
          .ofFault (endsAlike_lookUp containers keys)
  | .range bound =>
      exact .bind (bound.worksAlike_evaluate plain same) fun bounds =>
        .ofFault (endsAlike_rangeOf bounds)
  | .each name items body =>
      refine .bind (items.worksAlike_evaluate plain.1 same) fun given =>
        .bind (.ofFault (Iteration.endsAlike_of given)) fun iteration => ?_
      exact .bind (Iteration.worksAlike_mapItems iteration items.isTemporary fun item =>
        body.worksAlike_evaluate plain.2 (Scope.takes_assign same item name)) fun results =>
          .pure (Renumbering.takes_list results)
  | .contextField field => exact .act ⟨trivial, rfl⟩
  | .metadata key default =>
      exact .bind (worksAlike_evaluateOr default plain takes_null same) fun given =>
        .act ⟨given.lacks, congrArg (Action.readMeta key) given.equal⟩
  | .provider source =>
      exact .bind (source.worksAlike_evaluate plain same) fun sources =>
        .bind (.ofFault (.of_takes (takes_classify sources))) fun providers =>
          .pure ⟨providers.lacks, congrArg Provider.toValue providers.equal⟩
  | .settings request => exact worksAlike_makeSettings request

theorem worksAlike_evaluateOr (expression : Option Expression) (plain : OptionShowsNone expression)
    {default twin : Value} (defaults : numbers.Takes default twin) {scope names : Scope}
    (same : numbers.Takes scope names) :
    numbers.WorksAlike numbers.Takes (evaluateOr scope default expression)
      (evaluateOr names twin expression) := by
  match expression with
  | some expression => exact expression.worksAlike_evaluate plain same
  | none => exact .pure defaults

theorem worksAlike_evaluateAll (expressions : List Expression) (plain : AllShowNone expressions)
    {scope names : Scope} (same : numbers.Takes scope names) :
    numbers.WorksAlike numbers.Takes (evaluateAll scope expressions)
      (evaluateAll names expressions) := by
  match expressions with
  | [] => exact .pure Renumbering.takes_nil
  | head :: tail =>
      exact .bind (head.worksAlike_evaluate plain.1 same) fun first =>
        .bind (worksAlike_evaluateAll tail plain.2 same) fun rest =>
          .pure (Renumbering.takes_cons first rest)

theorem worksAlike_evaluateEntries (entries : List (Expression × Expression))
    (plain : EntriesShowNone entries) {scope names : Scope} (same : numbers.Takes scope names) :
    numbers.WorksAlike numbers.Takes (evaluateEntries scope entries)
      (evaluateEntries names entries) := by
  match entries with
  | [] => exact .pure Renumbering.takes_nil
  | (key, value) :: rest =>
      exact .bind (key.worksAlike_evaluate plain.1 same) fun keys =>
        .bind (value.worksAlike_evaluate plain.2.1 same) fun values =>
          .bind (worksAlike_evaluateEntries rest plain.2.2 same) fun others =>
            .pure (Renumbering.takes_cons (Renumbering.takes_pair keys values) others)

theorem worksAlike_evaluateArguments (given : List (String × Expression))
    (plain : ArgumentsShowNone given) {scope names : Scope} (same : numbers.Takes scope names) :
    numbers.WorksAlike numbers.Takes (evaluateArguments scope given)
      (evaluateArguments names given) := by
  match given with
  | [] => exact .pure Renumbering.takes_nil
  | (name, value) :: rest =>
      exact .bind (value.worksAlike_evaluate plain.1 same) fun values =>
        .bind (worksAlike_evaluateArguments rest plain.2 same) fun others => .pure
          (Renumbering.takes_cons (Renumbering.takes_pair (Value.takes_text rfl) values) others)

theorem InterpolationExpression.worksAlike_evaluate (interpolation : InterpolationExpression)
    (plain : interpolation.ShowsNone) {scope names : Scope} (same : numbers.Takes scope names) :
    numbers.WorksAlike numbers.Takes (interpolation.evaluate scope)
      (interpolation.evaluate names) := by
  match interpolation with
  | .mk value conversion specification =>
      exact .bind (value.worksAlike_evaluate plain.1 same) fun values =>
        .pure (Interpolation.takes_mk values (takes_constant plain.2.1) (takes_constant plain.2.2))

theorem worksAlike_evaluateInterpolations (interpolations : List InterpolationExpression)
    (plain : InterpolationsShowNone interpolations) {scope names : Scope}
    (same : numbers.Takes scope names) :
    numbers.WorksAlike numbers.Takes (evaluateInterpolations scope interpolations)
      (evaluateInterpolations names interpolations) := by
  match interpolations with
  | [] => exact .pure Renumbering.takes_nil
  | head :: tail =>
      exact .bind (head.worksAlike_evaluate plain.1 same) fun first =>
        .bind (worksAlike_evaluateInterpolations tail plain.2 same) fun rest =>
          .pure (Renumbering.takes_cons first rest)

theorem TemplateExpression.worksAlike_evaluate (operand : TemplateExpression)
    (plain : operand.ShowsNone) {scope names : Scope} (same : numbers.Takes scope names) :
    numbers.WorksAlike numbers.Takes (operand.evaluate scope) (operand.evaluate names) := by
  match operand with
  | .template strings interpolations =>
      exact .bind (worksAlike_evaluateInterpolations interpolations plain same) fun evaluated =>
        .pure ⟨evaluated.lacks,
          congrArg (fun inner => TemplateOperand.template ⟨strings, inner⟩) evaluated.equal⟩
  | .other operand =>
      exact .bind (operand.worksAlike_evaluate plain same) fun values =>
        .pure ⟨values.lacks, congrArg TemplateOperand.other values.equal⟩
end

/-! ## Operations -/

section Operations

variable {value twin : Value}

theorem worksAlike_yieldItems (name : String) {items twins : List Value}
    (same : List.Forall₂ numbers.Takes items twins) :
    numbers.WorksAlike numbers.Takes (yieldItems name items) (yieldItems name twins) := by
  induction same with
  | nil => exact .pure takes_null
  | cons first _ induction =>
      refine .bind (.suspend ⟨first.lacks, congrArg Suspension.effect first.equal⟩)
        fun {answer other} answers => ?_
      rcases answers with ⟨lacks, rfl⟩
      cases answer with
      | null => exact induction
      | _ => exact .fail ⟨trivial, rfl⟩

theorem iteratorName_eq (same : numbers.Takes value twin) :
    iteratorName twin = iteratorName value := by
  rcases same with ⟨_, rfl⟩
  cases value <;> rfl

theorem worksAlike_delegateTo (same : numbers.Takes value twin) :
    numbers.WorksAlike numbers.Takes (delegateTo value) (delegateTo twin) := by
  have held
      (holds : delegateTo value = (itemsOf? value).elim
        (Work.fail (.fault (.notIterable value.typeName))) (yieldItems (iteratorName value)))
      (holdsToo : delegateTo twin = (itemsOf? twin).elim
        (Work.fail (.fault (.notIterable twin.typeName))) (yieldItems (iteratorName twin))) :
      numbers.WorksAlike numbers.Takes (delegateTo value) (delegateTo twin) := by
    rw [holds, holdsToo, Value.typeName_eq same, iteratorName_eq same]
    rcases (takes_itemsOf? same).option_cases with ⟨none, noneToo⟩ |
      ⟨items, twins, found, foundToo, inner⟩
    · rw [none, noneToo]
      exact .fail ⟨trivial, rfl⟩
    · rw [found, foundToo]
      exact worksAlike_yieldItems _ (Renumbering.takes_iff_forall₂.mp inner)
  rcases same with ⟨lacks, rfl⟩
  cases value with
  | routine reference =>
      rcases reference with ⟨kind, index, name⟩
      cases kind with
      | generator =>
          have delegates : numbers.Takes (Suspension.delegate ⟨.generator, index, name⟩) _ :=
            ⟨trivial, rfl⟩
          exact .suspend delegates
      | coroutine | asyncGenerator => exact .fail ⟨trivial, rfl⟩
  | token token =>
      have yields : numbers.Takes (Suspension.effect (.token token)) _ := ⟨trivial, rfl⟩
      exact .suspend yields
  | element identity type attributes children =>
      have nodes : numbers.Takes (Element.mk identity type attributes children) _ :=
        Element.takes_mk rfl ⟨lacks.1, rfl⟩ (Renumbering.takes_entries lacks.2.1)
          (Renumbering.takes_items lacks.2.2)
      exact .suspend ⟨nodes.lacks, congrArg Suspension.iterate nodes.equal⟩
  | component reference =>
      rcases reference with ⟨name, kind, hashable⟩
      cases hashable <;> exact held rfl rfl
  | _ => exact held rfl rfl

theorem worksAlike_awaitValue (same : numbers.Takes value twin) :
    numbers.WorksAlike numbers.Takes (awaitValue value) (awaitValue twin) := by
  rcases same with ⟨lacks, rfl⟩
  cases value with
  | routine reference =>
      rcases reference with ⟨kind, index, name⟩
      cases kind with
      | coroutine =>
          have delegates : numbers.Takes (Suspension.delegate ⟨.coroutine, index, name⟩) _ :=
            ⟨trivial, rfl⟩
          exact .suspend delegates
      | generator | asyncGenerator => exact .fail ⟨trivial, rfl⟩
  | token token =>
      have waits : numbers.Takes (Suspension.wait (.value (.token token))) _ := ⟨trivial, rfl⟩
      exact .suspend waits
  | _ => exact .fail ⟨trivial, rfl⟩

end Operations

/-- No constant in the operation shows a number. -/
def Operation.ShowsNone : Operation → Prop
  | .yield operand | .delegate operand | .request operand | .log operand | .writeMeta _ operand
  | .await operand | .awaitForeign operand => operand.ShowsNone
  | .register token provider => token.ShowsNone ∧ provider.ShowsNone
  | .sleep | .waitForever => True

theorem Operation.worksAlike_perform (kind : RoutineKind) (operation : Operation)
    (plain : operation.ShowsNone) (same : numbers.Takes scope names) :
    numbers.WorksAlike numbers.Takes (operation.perform kind scope)
      (operation.perform kind names) := by
  cases operation with
  | yield effect =>
      exact .bind (effect.worksAlike_evaluate plain same) fun effects =>
        .suspend ⟨effects.lacks, congrArg Suspension.effect effects.equal⟩
  | delegate target =>
      exact .bind (target.worksAlike_evaluate plain same) worksAlike_delegateTo
  | request token =>
      refine .bind (token.worksAlike_evaluate plain same) fun tokens => ?_
      cases kind with
      | generator => exact worksAlike_delegateTo tokens
      | coroutine => exact worksAlike_awaitValue tokens
      | asyncGenerator => exact .suspend ⟨tokens.lacks, congrArg Suspension.effect tokens.equal⟩
  | log value =>
      exact .bind (value.worksAlike_evaluate plain same) fun values =>
        .act ⟨values.lacks, congrArg Action.log values.equal⟩
  | register token provider =>
      exact .bind (token.worksAlike_evaluate plain.1 same) fun tokens =>
        .bind (provider.worksAlike_evaluate plain.2 same) fun providers =>
          .act ⟨⟨tokens.lacks, providers.lacks⟩,
            congrArg₂ Action.register tokens.equal providers.equal⟩
  | writeMeta key value =>
      exact .bind (value.worksAlike_evaluate plain same) fun values =>
        .act ⟨values.lacks, congrArg (Action.writeMeta key) values.equal⟩
  | sleep => exact .suspend ⟨trivial, rfl⟩
  | await coroutine =>
      exact .bind (coroutine.worksAlike_evaluate plain same) worksAlike_awaitValue
  | awaitForeign value =>
      exact .bind (value.worksAlike_evaluate plain same) fun values =>
        .suspend ⟨values.lacks, congrArg (fun value => Suspension.wait (.value value)) values.equal⟩
  | waitForever => exact .suspend ⟨trivial, rfl⟩

theorem worksAlike_awaitTask (task : RoutineReference) :
    numbers.WorksAlike numbers.Takes (awaitTask task) (awaitTask (renumbered numbers task)) :=
  .bind (.suspend ⟨trivial, rfl⟩) fun _ => .act ⟨trivial, rfl⟩

/-! ## Expressions that are read -/

/-- Whatever is read is of a kind. -/
def Gives {α : Type} (kind : α → Prop) (reading : Reading α) : Prop :=
  ∀ result, reading = .ok result → kind result

namespace Gives

variable {α β : Type} {kind : α → Prop} {later : β → Prop}

theorem ok {result : α} (given : kind result) : Gives kind (.ok result) := by
  rintro _ ⟨⟩
  exact given

theorem mismatch (expected : String) : Gives kind (Document.mismatch expected) := nofun

theorem any (reading : Reading α) : Gives (fun _ => True) reading := fun _ _ => trivial

theorem bind {first : Reading α} {next : α → Reading β} (given : Gives kind first)
    (rest : ∀ result, kind result → Gives later (next result)) : Gives later (first >>= next) := by
  cases first with
  | ok result => exact rest result (given result rfl)
  | error fault => exact nofun

theorem map {reading : Reading α} {make : α → β} (given : Gives kind reading)
    (kept : ∀ result, kind result → later (make result)) :
    Gives later (reading.map make) := by
  cases reading with
  | ok result => exact .ok (kept result (given result rfl))
  | error fault => exact nofun

end Gives

theorem sizeOf_items_lt {document : Document} {name : String} {items : List Document}
    (found : document.field? name = some (.list items)) : sizeOf items < sizeOf document := by
  have smaller := Document.sizeOf_lt_of_field? found
  simp only [Document.list.sizeOf_spec] at smaller
  omega

theorem gives_literalOf (document : Document) : Gives Value.ShowsNone (literalOf document) := by
  cases document with
  | null | boolean | integer | text => exact .ok ⟨fun _ => rfl, trivial⟩
  | list | record => exact .mismatch _

mutual
theorem gives_expressionOf (document : Document) :
    Gives Expression.ShowsNone (expressionOf document) := by
  unfold expressionOf
  split
  · exact .ok ⟨fun _ => rfl, trivial⟩
  · exact .ok ⟨fun _ => rfl, trivial⟩
  · exact .ok ⟨fun _ => rfl, trivial⟩
  · exact .ok ⟨fun _ => rfl, trivial⟩
  · rename_i items
    exact .bind (gives_expressionsOf items) fun _ plain => .ok plain
  · rename_i name operand
    exact gives_operatorOf name operand
  · exact .mismatch _
termination_by (sizeOf document, 0)

theorem gives_expressionsOf (documents : List Document) :
    Gives AllShowNone (expressionsOf documents) := by
  unfold expressionsOf
  split
  · exact .ok trivial
  · rename_i head tail
    exact .bind (gives_expressionOf head) fun _ first =>
      .bind (gives_expressionsOf tail) fun _ rest => .ok ⟨first, rest⟩
termination_by (sizeOf documents, 0)

theorem gives_operatorOf (name : String) (operand : Document) :
    Gives Expression.ShowsNone (operatorOf name operand) := by
  unfold operatorOf
  split
  · exact .bind (.any _) fun _ _ => .ok trivial
  · exact .bind (.any _) fun _ _ => .ok trivial
  · exact .bind (.any _) fun _ _ => .ok trivial
  · exact .bind (.any _) fun _ _ => .ok ⟨fun _ => rfl, trivial⟩
  · exact .bind (.any _) fun _ _ => .ok trivial
  · exact .bind (.any _) fun _ _ => .ok trivial
  · exact .ok ⟨fun _ => rfl, trivial⟩
  · exact .ok ⟨fun _ => rfl, trivial⟩
  · exact .bind (.any _) fun _ _ => .ok trivial
  · exact .bind (.any _) fun _ _ => .bind (.any _) fun _ _ => .ok trivial
  · exact .bind (.any _) fun _ _ => .ok trivial
  · exact .bind (gives_templateOf operand) fun _ plain => .ok plain
  · exact .bind (gives_templateOf operand) fun _ plain => .ok plain
  · exact .bind (gives_expressionOf operand) fun _ plain => .ok plain
  · exact .bind (gives_expressionOf operand) fun _ plain => .ok plain
  · split
    · exact gives_listOperatorOf name _
    · exact .mismatch _
termination_by (sizeOf operand, 2)

theorem gives_listOperatorOf (name : String) (operands : List Document) :
    Gives Expression.ShowsNone (listOperatorOf name operands) := by
  unfold listOperatorOf
  split
  · exact .bind (gives_expressionsOf operands) fun _ plain => .ok plain
  · exact .bind (gives_expressionsOf operands) fun _ plain => .ok plain
  · exact .bind (gives_entriesOf operands) fun _ plain => .ok plain
  · exact .bind (.any _) fun _ _ => .bind (.any _) fun _ _ => .ok trivial
  · exact .bind (gives_expressionOf _) fun _ plain => .bind (.any _) fun _ _ => .ok plain
  · exact .bind (gives_expressionOf _) fun _ left =>
      .bind (gives_expressionOf _) fun _ right => .ok ⟨left, right⟩
  · exact .bind (gives_expressionOf _) fun _ left =>
      .bind (gives_expressionOf _) fun _ right => .ok ⟨left, right⟩
  · exact .bind (gives_expressionOf _) fun _ left =>
      .bind (gives_expressionOf _) fun _ right => .ok ⟨left, right⟩
  · exact .bind (.any _) fun _ _ => .bind (gives_expressionOf _) fun _ left =>
      .bind (gives_expressionOf _) fun _ right => .ok ⟨left, right⟩
  · exact .bind (gives_expressionOf _) fun _ callee => .ok ⟨callee, trivial⟩
  · exact .bind (gives_expressionOf _) fun _ callee =>
      .bind (gives_argumentsOf _) fun _ given => .ok ⟨callee, given⟩
  · exact .bind (.any _) fun _ _ => .ok trivial
  · exact .bind (.any _) fun _ _ => .bind (gives_expressionOf _) fun _ plain => .ok plain
  · exact .bind (gives_expressionOf _) fun _ type => .ok ⟨type, trivial, trivial⟩
  · exact .bind (gives_expressionOf _) fun _ type => .bind (gives_expressionOf _) fun _ given =>
      .bind (gives_expressionsOf _) fun _ inner => .ok ⟨type, given, inner⟩
  · exact gives_markerOf _ _
termination_by (sizeOf operands, 1)

theorem gives_markerOf (name : String) (operands : List Document) :
    Gives Expression.ShowsNone (markerOf name operands) := by
  unfold markerOf
  split
  · dsimp only
    split
    · exact .bind (gives_expressionOf _) fun _ type => .ok ⟨type, trivial, trivial⟩
    · exact .bind (gives_expressionOf _) fun _ type => .bind (gives_expressionOf _) fun _ given =>
        .ok ⟨type, given, trivial⟩
    · exact .bind (gives_expressionOf _) fun _ type => .bind (gives_expressionOf _) fun _ given =>
        .bind (gives_expressionOf _) fun _ inner => .ok ⟨type, given, inner⟩
    · exact .mismatch _
  · exact .mismatch _
termination_by (sizeOf operands, 0)

theorem gives_entriesOf (documents : List Document) :
    Gives EntriesShowNone (entriesOf documents) := by
  unfold entriesOf
  split
  · exact .ok trivial
  · exact .bind (gives_expressionOf _) fun _ key => .bind (gives_expressionOf _) fun _ value =>
      .bind (gives_entriesOf _) fun _ rest => .ok ⟨key, value, rest⟩
  · exact .mismatch _
termination_by (sizeOf documents, 0)

theorem gives_argumentsOf (fields : List (String × Document)) :
    Gives ArgumentsShowNone (argumentsOf fields) := by
  unfold argumentsOf
  split
  · exact .ok trivial
  · exact .bind (gives_expressionOf _) fun _ value =>
      .bind (gives_argumentsOf _) fun _ rest => .ok ⟨value, rest⟩
termination_by (sizeOf fields, 0)

theorem gives_templateOf (document : Document) :
    Gives TemplateExpression.ShowsNone (templateOf document) := by
  unfold templateOf
  split
  · rename_i strings interpolations given found
    have smaller := sizeOf_items_lt found
    exact .bind (.any _) fun _ _ => .bind (.any _) fun _ _ =>
      .bind (gives_interpolationsOf _) fun _ plain => .ok plain
  · exact .bind (.any _) fun _ _ => .bind (.any _) fun _ _ => .ok trivial
  · exact .bind (gives_expressionOf _) fun _ plain => .ok plain
termination_by (sizeOf document, 1)

theorem gives_interpolationsOf (documents : List Document) :
    Gives InterpolationsShowNone (interpolationsOf documents) := by
  unfold interpolationsOf
  split
  · exact .ok trivial
  · exact .bind (gives_interpolationOf _) fun _ first =>
      .bind (gives_interpolationsOf _) fun _ rest => .ok ⟨first, rest⟩
termination_by (sizeOf documents, 0)

theorem gives_interpolationOf (document : Document) :
    Gives InterpolationExpression.ShowsNone (interpolationOf document) := by
  unfold interpolationOf
  split
  · rename_i value found
    have smaller := Document.sizeOf_lt_of_field? found
    exact .bind (gives_expressionOf _) fun _ value => .bind (gives_literalOf _) fun _ conversion =>
      .bind (gives_literalOf _) fun _ specification => .ok ⟨value, conversion, specification⟩
  · exact .bind (gives_expressionOf _) fun _ value =>
      .ok ⟨value, ⟨fun _ => rfl, trivial⟩, ⟨fun _ => rfl, trivial⟩⟩
termination_by (sizeOf document, 1)
end

end Script
end HtmlStream
