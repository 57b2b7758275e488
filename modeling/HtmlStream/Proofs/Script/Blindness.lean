import HtmlStream.Proofs.Routine.Blindness
import HtmlStream.Proofs.Script.Evaluation
import HtmlStream.Script.Declaration

/-!
Scripted components cannot tell numbers. Nothing that can be written down in a script shows the
number of a body or of an object, so a component does the same with other numbers for what it
receives. The main statements are `DeclaredBody.renumbers_bind` and `Program.isBlind_declare`.
-/
namespace HtmlStream

namespace Script

variable {numbers : Renumbering} {scope names : Scope}

/-! ## Pieces -/

/-- Two pieces ended in the same way with different numbers. -/
inductive CompletesAlike (numbers : Renumbering) : Completion → Completion → Prop
  | proceed : CompletesAlike numbers .proceed .proceed
  | give {value twin : Value} (same : numbers.Takes value twin) :
      CompletesAlike numbers (.give value) (.give twin)

structure ResultsAlike (numbers : Renumbering) (progress other : PieceResult) : Prop where
  scope : numbers.Takes progress.scope other.scope
  result : numbers.EndsAlike (CompletesAlike numbers) progress.result other.result

/-- What follows two pieces goes on alike. -/
def FollowsAlike (numbers : Renumbering) (rest other : PieceResult → Routine) : Prop :=
  ∀ progress twin, ResultsAlike numbers progress twin →
    (rest progress).Renumbers numbers (other twin)

namespace Piece

/-- Two pieces do the same with different numbers. -/
def RunsAlike (numbers : Renumbering) (piece twin : Piece) : Prop :=
  ∀ scope names, numbers.Takes scope names → ∀ rest other, FollowsAlike numbers rest other →
    (piece scope rest).Renumbers numbers (twin names other)

variable {piece twin body likeness cleanup further : Piece}

theorem runsAlike_ofWork {work other : Scope → Work Completion}
    (same : ∀ {scope names}, numbers.Takes scope names →
      numbers.WorksAlike (CompletesAlike numbers) (work scope) (other names)) :
    RunsAlike numbers (ofWork work) (ofWork other) :=
  fun _ _ scopes _ _ onwards => same scopes _ _ fun _ _ ends => onwards _ _ ⟨scopes, ends⟩

theorem runsAlike_binding (name : Option String) {work other : Scope → Work Value}
    (same : ∀ {scope names}, numbers.Takes scope names →
      numbers.WorksAlike numbers.Takes (work scope) (other names)) :
    RunsAlike numbers (binding name work) (binding name other) := by
  intro scope names scopes rest onward onwards
  refine same scopes _ _ fun result reply ends => ?_
  cases ends with
  | error failed => exact onwards _ _ ⟨scopes, .error failed⟩
  | ok values =>
      refine onwards _ _ ⟨?_, .ok .proceed⟩
      cases name with
      | none => exact scopes
      | some name => exact Scope.takes_assign scopes values name

theorem runsAlike_followedBy (first : RunsAlike numbers piece twin)
    (second : RunsAlike numbers body likeness) :
    RunsAlike numbers (piece.followedBy body) (twin.followedBy likeness) := by
  intro scope names scopes rest onward onwards
  refine first scope names scopes _ _ fun progress other same => ?_
  rcases progress with ⟨after, result⟩
  rcases other with ⟨afterToo, reply⟩
  rcases same with ⟨scopes, ends⟩
  cases ends with
  | error failed => exact onwards _ _ ⟨scopes, .error failed⟩
  | ok completes => cases completes with
    | proceed => exact second after afterToo scopes rest onward onwards
    | give values => exact onwards _ _ ⟨scopes, .ok (.give values)⟩

theorem runsAlike_nothing : RunsAlike numbers nothing nothing :=
  fun _ _ scopes _ _ onwards => onwards _ _ ⟨scopes, .ok .proceed⟩

theorem runsAlike_forEach (name : String) (bodies : RunsAlike numbers body likeness)
    {items twins : List (Work Value)}
    (same : List.Forall₂ (numbers.WorksAlike numbers.Takes) items twins) :
    RunsAlike numbers (forEach name body items) (forEach name likeness twins) := by
  induction same with
  | nil => exact runsAlike_nothing
  | cons first _ induction =>
      intro scope names scopes rest onward onwards
      refine first _ _ fun result reply ends => ?_
      cases ends with
      | error failed => exact onwards _ _ ⟨scopes, .error failed⟩
      | ok values =>
          have assigned := Scope.takes_assign scopes values name
          exact runsAlike_followedBy bodies induction _ _ assigned _ _ onwards

theorem runsAlike_forEachAdvanced (name : String) (bodies : RunsAlike numbers body likeness)
    (index items : Nat) :
    RunsAlike numbers (forEachAdvanced name body index items)
      (forEachAdvanced name likeness (numbers.routine index) items) := by
  induction items with
  | zero => exact runsAlike_nothing
  | succ items induction =>
      intro scope names scopes rest onward onwards
      refine .advance fun advanced lacks => ?_
      cases advanced with
      | item value =>
          exact runsAlike_followedBy bodies induction _ _
            (Scope.takes_assign scopes ⟨lacks, rfl⟩ name) _ _ onwards
      | ended => exact onwards _ _ ⟨scopes, .ok .proceed⟩
      | failed failure => exact onwards _ _ ⟨scopes, .error ⟨lacks, rfl⟩⟩

theorem runsAlike_discarding (index : Nat) (same : RunsAlike numbers piece twin) :
    RunsAlike numbers (piece.discarding index) (twin.discarding (numbers.routine index)) := by
  intro scope names scopes rest onward onwards
  refine same scope names scopes _ _ fun progress other ended => ?_
  have discards : numbers.Takes (Action.discard index) (.discard (numbers.routine index)) :=
    ⟨trivial, rfl⟩
  have closing : (Routine.act (.discard index) fun _ => rest progress).Renumbers numbers
      (.act (.discard (numbers.routine index)) fun _ => onward other) :=
    Renumbering.WorksAlike.act discards _ _ fun _ _ _ => onwards progress other ended
  rcases progress with ⟨after, result⟩
  rcases other with ⟨afterToo, reply⟩
  rcases ended with ⟨scopes, ends⟩
  cases ends with
  | error failed => exact closing
  | ok completes => cases completes with
    | proceed => exact onwards _ _ ⟨scopes, .ok .proceed⟩
    | give values => exact closing

theorem runsAlike_loop (name : String) (temporary : Bool) {items others : Scope → Work Value}
    (same : ∀ {scope names}, numbers.Takes scope names →
      numbers.WorksAlike numbers.Takes (items scope) (others names))
    (bodies : RunsAlike numbers body likeness) :
    RunsAlike numbers (loop name temporary items body) (loop name temporary others likeness) := by
  intro scope names scopes rest onward onwards
  refine same scopes _ _ fun result reply ends => ?_
  cases ends with
  | error failed => exact onwards _ _ ⟨scopes, .error failed⟩
  | @ok value twin values =>
      have iterations := Iteration.endsAlike_of values
      dsimp only
      generalize Iteration.of value = iteration at iterations ⊢
      generalize Iteration.of twin = other at iterations ⊢
      cases iterations with
      | error failed => exact onwards _ _ ⟨scopes, .error (Renumbering.takes_fault failed)⟩
      | ok goes => cases goes with
        | collection items =>
            exact runsAlike_forEach name bodies items scope names scopes rest onward onwards
        | generator index =>
            have whole := runsAlike_forEachAdvanced name bodies index iterationLimit
            dsimp only
            split
            · exact runsAlike_discarding index whole scope names scopes rest onward onwards
            · exact whole scope names scopes rest onward onwards

/-! ### Handlers and cleanup -/

theorem takes_toValue {failure twin : Failure} (same : numbers.Takes failure twin) :
    numbers.Takes failure.toValue twin.toValue := by
  rcases same with ⟨_, rfl⟩
  have kind : (renumbered numbers failure).kind = failure.kind :=
    Failure.kind_renumbered numbers failure
  have message : (renumbered numbers failure).message .plain = failure.message .plain :=
    Failure.message_renumbered numbers .plain failure
  unfold Failure.toValue
  rw [kind, message]
  exact ⟨⟨trivial, trivial, trivial⟩, rfl⟩

/-- Handlers for failures of the same name. -/
def HandlesAlike (numbers : Renumbering) (handler twin : String × Piece) : Prop :=
  handler.1 = twin.1 ∧ RunsAlike numbers handler.2 twin.2

theorem handlerFor?_cases {failure other : Failure} (same : numbers.Takes failure other)
    {handlers twins : List (String × Piece)}
    (handles : List.Forall₂ (HandlesAlike numbers) handlers twins) :
    (handlerFor? failure handlers = none ∧ handlerFor? other twins = none) ∨
      ∃ handler twin, handlerFor? failure handlers = some handler ∧
        handlerFor? other twins = some twin ∧ RunsAlike numbers handler twin := by
  induction handles with
  | nil => exact .inl ⟨rfl, rfl⟩
  | @cons handler twin _ _ first _ induction =>
      have handled : other.isHandledBy twin.1 = failure.isHandledBy handler.1 := by
        have kinds : other.kind = failure.kind :=
          same.equal ▸ Failure.kind_renumbered numbers failure
        unfold Failure.isHandledBy
        rw [kinds, first.1]
      unfold handlerFor?
      rw [handled]
      cases failure.isHandledBy handler.1 with
      | true => exact .inr ⟨_, _, rfl, rfl, first.2⟩
      | false => exact induction

theorem followsAlike_goOnClosing {rest other : PieceResult → Routine}
    (onwards : FollowsAlike numbers rest other) :
    FollowsAlike numbers (goOnClosing rest) (goOnClosing other) := by
  intro progress twin same
  rcases progress with ⟨after, result⟩
  rcases twin with ⟨afterToo, reply⟩
  rcases same with ⟨scopes, ends⟩
  cases ends with
  | ok _ => exact onwards _ _ ⟨scopes, .error ⟨trivial, rfl⟩⟩
  | error failed => exact onwards _ _ ⟨scopes, .error failed⟩

theorem runsAlike_handledBy (bodies : RunsAlike numbers body likeness)
    {handlers twins : List (String × Piece)}
    (handles : List.Forall₂ (HandlesAlike numbers) handlers twins) :
    RunsAlike numbers (body.handledBy handlers) (likeness.handledBy twins) := by
  intro scope names scopes rest onward onwards
  refine bodies scope names scopes _ _ fun progress other same => ?_
  rcases progress with ⟨after, result⟩
  rcases other with ⟨afterToo, reply⟩
  rcases same with ⟨scopes, ends⟩
  cases ends with
  | ok completes => exact onwards _ _ ⟨scopes, .ok completes⟩
  | @error failure _ failed =>
      dsimp only
      rcases handlerFor?_cases failed handles with ⟨none, noneToo⟩ |
        ⟨handler, twin, found, foundToo, runs⟩
      · rw [none, noneToo]
        exact onwards _ _ ⟨scopes, .error failed⟩
      · rw [found, foundToo]
        have assigned := Scope.takes_assign scopes (takes_toValue failed) failureName
        rcases failed with ⟨_, rfl⟩
        cases failure with
        | exit => exact runs _ _ assigned _ _ (followsAlike_goOnClosing onwards)
        | raised | fault | engine => exact runs _ _ assigned _ _ onwards

theorem exits_iff {result reply : Except Failure Completion}
    (ends : numbers.EndsAlike (CompletesAlike numbers) result reply) :
    result = .error .exit ↔ reply = .error .exit := by
  cases ends with
  | ok completes => exact iff_of_false nofun nofun
  | @error failure _ failed =>
      rcases failed with ⟨_, rfl⟩
      cases failure with
      | exit => exact iff_of_true rfl rfl
      | raised | fault | engine => exact iff_of_false nofun nofun

theorem runsAlike_cleanedUpBy (bodies : RunsAlike numbers body likeness)
    (cleanups : RunsAlike numbers cleanup further) :
    RunsAlike numbers (body.cleanedUpBy cleanup) (likeness.cleanedUpBy further) := by
  intro scope names scopes rest onward onwards
  refine bodies scope names scopes _ _ fun progress other same => ?_
  have exits := exits_iff same.result
  split
  · rename_i exited
    rw [exits.mp exited]
    exact cleanups _ _ same.scope _ _ (followsAlike_goOnClosing onwards)
  · rename_i stays
    split
    · rename_i exited
      exact (stays (exits.mpr exited)).elim
    · refine cleanups _ _ same.scope _ _ fun cleaned twin ended => ?_
      rcases cleaned with ⟨after, result⟩
      rcases twin with ⟨afterToo, reply⟩
      rcases ended with ⟨scopes, ends⟩
      cases ends with
      | error failed => exact onwards _ _ ⟨scopes, .error failed⟩
      | ok completes => cases completes with
        -- The cleanup goes on, so what the body came to stands.
        | proceed => exact onwards _ _ ⟨scopes, same.result⟩
        | give values => exact onwards _ _ ⟨scopes, .ok (.give values)⟩

/-! ### Whole bodies -/

theorem generator?_renumbered (numbers : Renumbering) (value : Value) :
    (renumbered numbers value).generator? = value.generator?.map numbers.routine := by
  cases value with
  | routine reference =>
      rcases reference with ⟨kind, index, name⟩
      cases kind <;> rfl
  | _ => rfl

theorem generators_renumbered (numbers : Renumbering) (scope : Scope) :
    (renumbered numbers scope).filterMap (fun entry => entry.2.generator?)
      = (scope.filterMap fun entry => entry.2.generator?).map numbers.routine := by
  refine (List.filterMap_map ..).trans (Eq.trans ?_ (List.map_filterMap ..).symm)
  congr 1
  funext entry
  exact generator?_renumbered numbers entry.2

theorem ownGenerators_renumbered (numbers : Renumbering) (received scope : Scope) :
    ownGenerators (renumbered numbers received) (renumbered numbers scope)
      = (ownGenerators received scope).map numbers.routine := by
  unfold ownGenerators
  dsimp only
  rw [generators_renumbered, generators_renumbered, ← List.map_reverse, List.filter_map]
  congr 1
  congr 1
  funext index
  have foreign (indices : List Nat) :
      (indices.map numbers.routine).contains (numbers.routine index) = indices.contains index := by
    rw [Bool.eq_iff_iff, List.contains_iff_mem, List.contains_iff_mem]
    exact List.mem_map_of_injective numbers.routine.injective
  exact congrArg (!·) (foreign _)

theorem renumbers_finishing {received before : Scope} (given : numbers.Takes received before)
    (same : numbers.Takes scope names) {held twin : Value} (holds : numbers.Takes held twin)
    {result reply : Reply} (results : numbers.Takes result reply) :
    (finishing received scope held result).Renumbers numbers
      (finishing before names twin reply) := by
  rcases given with ⟨_, rfl⟩
  rcases same with ⟨_, rfl⟩
  rcases results with ⟨lacks, rfl⟩
  unfold finishing
  rw [ownGenerators_renumbered]
  cases ownGenerators received scope with
  | nil => exact .finish lacks
  | cons index rest =>
      have releases : numbers.Takes (Action.release (index :: rest) held) _ :=
        ⟨holds.lacks, congrArg (Action.release ((index :: rest).map numbers.routine)) holds.equal⟩
      exact Renumbering.WorksAlike.act releases _ _ fun _ _ _ => .finish lacks

theorem renumbers_toRoutine (kind : RoutineKind) (bodies : RunsAlike numbers body likeness)
    {received before : Scope} (given : numbers.Takes received before) :
    (body.toRoutine kind received).Renumbers numbers (likeness.toRoutine kind before) := by
  have null : numbers.Takes (Except.ok .null : Reply) (.ok .null) := ⟨trivial, rfl⟩
  refine bodies received before given _ _ fun progress other same => ?_
  rcases progress with ⟨after, result⟩
  rcases other with ⟨afterToo, reply⟩
  rcases same with ⟨scopes, ends⟩
  cases ends with
  | ok completes => cases completes with
    | proceed => exact renumbers_finishing given scopes takes_null null
    | give values =>
        cases kind with
        | asyncGenerator => exact renumbers_finishing given scopes takes_null null
        | generator | coroutine =>
            exact renumbers_finishing given scopes values
              ⟨values.lacks, congrArg Except.ok values.equal⟩
  | @error failure _ failed =>
      rcases failed with ⟨lacks, rfl⟩
      cases failure with
      | exit => exact renumbers_finishing given scopes takes_null ⟨trivial, rfl⟩
      | raised | fault | engine => exact .finish lacks

end Piece

/-! ## Statements -/

mutual
/-- No constant in the statement shows a number. -/
def Statement.ShowsNone : Statement → Prop
  | .operation operation _ => operation.ShowsNone
  | .assign _ value => value.ShowsNone
  | .branch condition yes no =>
      condition.ShowsNone ∧ StatementsShowNone yes ∧ StatementsShowNone no
  | .loop _ items body => items.ShowsNone ∧ StatementsShowNone body
  | .give result => result.ShowsNone
  | .fail _ _ => True
  | .guarded body handlers cleanup =>
      StatementsShowNone body ∧ HandlersShowNone handlers ∧ StatementsShowNone cleanup
  | .task body _ => StatementsShowNone body

def StatementsShowNone : List Statement → Prop
  | [] => True
  | head :: tail => head.ShowsNone ∧ StatementsShowNone tail

def HandlersShowNone : List (String × List Statement) → Prop
  | [] => True
  | (_, body) :: rest => StatementsShowNone body ∧ HandlersShowNone rest
end

mutual
theorem Statement.runsAlike_piece (numbers : Renumbering) (kind : RoutineKind)
    (statement : Statement) (plain : statement.ShowsNone) :
    Piece.RunsAlike numbers (statement.piece kind) (statement.piece kind) := by
  match statement with
  | .operation operation name =>
      exact Piece.runsAlike_binding name fun same => operation.worksAlike_perform kind plain same
  | .assign name value =>
      exact Piece.runsAlike_binding (some name) fun same => value.worksAlike_evaluate plain same
  | .branch condition yes no =>
      intro scope names scopes rest onward onwards
      refine condition.worksAlike_evaluate plain.1 scopes _ _ fun result reply ends => ?_
      cases ends with
      | error failed => exact onwards _ _ ⟨scopes, .error failed⟩
      | ok values =>
          dsimp only
          rw [Value.truth_eq values]
          split
          · exact runsAlike_pieceOfAll numbers kind yes plain.2.1 scope names scopes rest onward
              onwards
          · exact runsAlike_pieceOfAll numbers kind no plain.2.2 scope names scopes rest onward
              onwards
  | .loop name items body =>
      exact Piece.runsAlike_loop name items.isTemporary
        (fun same => items.worksAlike_evaluate plain.1 same)
        (runsAlike_pieceOfAll numbers kind body plain.2)
  | .give result =>
      exact Piece.runsAlike_ofWork fun same =>
        .bind (result.worksAlike_evaluate plain same) fun values => .pure (.give values)
  | .fail failureKind message => exact Piece.runsAlike_ofWork fun _ => .fail ⟨trivial, rfl⟩
  | .guarded body handlers cleanup =>
      exact Piece.runsAlike_cleanedUpBy
        (Piece.runsAlike_handledBy (runsAlike_pieceOfAll numbers kind body plain.1)
          (handlesAlike_piecesOfHandlers numbers kind handlers plain.2.1))
        (runsAlike_pieceOfAll numbers kind cleanup plain.2.2)
  | .task body name =>
      refine Piece.runsAlike_binding name fun same => .bind (.start
        (Piece.renumbers_toRoutine .coroutine (runsAlike_pieceOfAll numbers .coroutine body plain)
          same)) fun {task _} tasks => ?_
      rcases tasks with ⟨_, rfl⟩
      exact worksAlike_awaitTask task

theorem runsAlike_pieceOfAll (numbers : Renumbering) (kind : RoutineKind)
    (statements : List Statement) (plain : StatementsShowNone statements) :
    Piece.RunsAlike numbers (pieceOfAll kind statements) (pieceOfAll kind statements) := by
  match statements with
  | [] => exact Piece.runsAlike_nothing
  | head :: tail =>
      exact Piece.runsAlike_followedBy (head.runsAlike_piece numbers kind plain.1)
        (runsAlike_pieceOfAll numbers kind tail plain.2)

theorem handlesAlike_piecesOfHandlers (numbers : Renumbering) (kind : RoutineKind)
    (handlers : List (String × List Statement)) (plain : HandlersShowNone handlers) :
    List.Forall₂ (Piece.HandlesAlike numbers) (piecesOfHandlers kind handlers)
      (piecesOfHandlers kind handlers) := by
  match handlers with
  | [] => exact .nil
  | (name, body) :: rest =>
      exact .cons ⟨rfl, runsAlike_pieceOfAll numbers kind body plain.1⟩
        (handlesAlike_piecesOfHandlers numbers kind rest plain.2)
end

/-! ## Bodies of components -/

/-- No constant in the body shows a number. -/
def DeclaredBody.ShowsNone : DeclaredBody → Prop
  | .expression result => result.ShowsNone
  | .statements _ body => StatementsShowNone body

theorem DeclaredBody.renumbers_bind {body : DeclaredBody} (plain : body.ShowsNone)
    {bindings twin : Bindings} (same : numbers.Takes bindings twin) :
    (body.bind bindings).Renumbers numbers (body.bind twin) := by
  cases body with
  | expression result => exact (result.worksAlike_evaluate plain same).toRoutine
  | statements kind statements =>
      exact Piece.renumbers_toRoutine kind (runsAlike_pieceOfAll numbers kind statements plain) same

end Script

/-- A component of a scripted body whose defaults are known cannot tell numbers. -/
theorem Component.isBlind_of_declared {base : Pairing} {component : Component}
    {body : Script.DeclaredBody} (declared : component.body = body.bind) (plain : body.ShowsNone)
    (known : base.Relates component.signature component.signature) : component.IsBlind base where
  signature := known
  body numbers _ bindings lacks := by
    rw [declared]
    exact body.renumbers_bind plain ⟨lacks, rfl⟩

namespace Script

/-! ## Bodies that are read -/

theorem gives_entryOf (document : Document) :
    Gives (fun entry => entry.1.ShowsNone ∧ entry.2.ShowsNone) (entryOf document) := by
  unfold entryOf
  split
  · exact .bind (gives_expressionOf _) fun _ first =>
      .bind (gives_expressionOf _) fun _ second => .ok ⟨first, second⟩
  · exact .mismatch _

theorem gives_operationOf? {name : String} {operand : Document} {reading : Reading Operation}
    (found : operationOf? name operand = some reading) : Gives Operation.ShowsNone reading := by
  unfold operationOf? at found
  dsimp only at found
  split at found <;> cases found
  · exact (gives_expressionOf operand).map fun _ => id
  · exact (gives_expressionOf operand).map fun _ => id
  · exact (gives_expressionOf operand).map fun _ => id
  · exact (gives_expressionOf operand).map fun _ => id
  · exact (gives_expressionOf operand).map fun _ => id
  · exact (gives_expressionOf operand).map fun _ => id
  · exact .ok trivial
  · exact .ok trivial
  · exact (gives_entryOf operand).map fun _ => id
  · exact (gives_expressionOf _).map fun _ => id

theorem gives_operationIn? {fields : List (String × Document)} {reading : Reading Operation}
    (found : operationIn? fields = some reading) : Gives Operation.ShowsNone reading := by
  induction fields with
  | nil => cases found
  | cons field rest induction =>
      unfold operationIn? at found
      split at found
      · rename_i operation named
        cases found
        exact gives_operationOf? named
      · exact induction found

theorem gives_plainStatementOf (document : Document) :
    Gives Statement.ShowsNone (plainStatementOf document) := by
  unfold plainStatementOf
  refine .bind (.any _) fun fields _ => ?_
  split
  · rename_i operation found
    exact .bind (gives_operationIn? found) fun _ plain => .bind (.any _) fun _ _ => .ok plain
  · split
    · exact .bind (gives_expressionOf _) fun _ plain => .ok plain
    · exact .bind (gives_expressionOf _) fun _ plain => .ok plain
    · exact .bind (.any _) fun _ _ => .bind (.any _) fun _ _ => .ok trivial
    · exact .mismatch _

mutual
theorem gives_statementOf (document : Document) :
    Gives Statement.ShowsNone (statementOf document) := by
  unfold statementOf
  split
  · exact .bind (gives_expressionOf _) fun _ condition =>
      .bind (gives_statementsIn document "then") fun _ yes =>
        .bind (gives_statementsIn document "else") fun _ no => .ok ⟨condition, yes, no⟩
  · exact .bind (gives_expressionOf _) fun _ items =>
      .bind (gives_statementsIn document "do") fun _ body => .ok ⟨items, body⟩
  · split
    · exact .bind (gives_statementsIn document "try") fun _ body =>
        .bind (gives_handlersIn document "except") fun _ handlers =>
          .bind (gives_statementsIn document "finally") fun _ cleanup =>
            .ok ⟨body, handlers, cleanup⟩
    · split
      · exact .bind (gives_statementsIn document "task") fun _ body =>
          .bind (.any _) fun _ _ => .ok body
      · exact gives_plainStatementOf document
termination_by (sizeOf document, 1)

theorem gives_statementsIn (document : Document) (name : String) :
    Gives StatementsShowNone (statementsIn document name) := by
  unfold statementsIn
  split
  · rename_i documents found
    have smaller := sizeOf_items_lt found
    exact gives_statementsOf documents
  · exact .ok trivial
  · exact .ok trivial
  · exact .mismatch _
termination_by (sizeOf document, 0)

theorem gives_statementsOf (documents : List Document) :
    Gives StatementsShowNone (statementsOf documents) := by
  unfold statementsOf
  split
  · exact .ok trivial
  · exact .bind (gives_statementOf _) fun _ first =>
      .bind (gives_statementsOf _) fun _ rest => .ok ⟨first, rest⟩
termination_by (sizeOf documents, 0)

theorem gives_handlersIn (document : Document) (name : String) :
    Gives HandlersShowNone (handlersIn document name) := by
  unfold handlersIn
  split
  · rename_i documents found
    have smaller := sizeOf_items_lt found
    exact gives_handlersOf documents
  · exact .ok trivial
  · exact .ok trivial
  · exact .mismatch _
termination_by (sizeOf document, 0)

theorem gives_handlersOf (documents : List Document) :
    Gives HandlersShowNone (handlersOf documents) := by
  unfold handlersOf
  split
  · exact .ok trivial
  · exact .bind (gives_statementsOf _) fun _ body =>
      .bind (gives_handlersOf _) fun _ rest => .ok ⟨body, rest⟩
  · exact .mismatch _
termination_by (sizeOf documents, 0)
end

theorem gives_declaredBodyOf (document : Document) :
    Gives DeclaredBody.ShowsNone (declaredBodyOf document) := by
  unfold declaredBodyOf
  refine .bind (.any _) fun kind _ => ?_
  split
  · exact .bind (gives_expressionOf _) fun _ plain => .ok plain
  · exact .bind (.any _) fun _ _ =>
      .bind (gives_statementsIn document "body") fun _ plain => .ok plain

/-- Nothing that is written down in a component shows a number. -/
theorem gives_declarationOf (name : String) (document : Document) :
    Gives (fun declaration => declaration.body.ShowsNone) (declarationOf name document) := by
  unfold declarationOf
  exact .bind (.any _) fun _ _ => .bind (.any _) fun _ _ => .bind (.any _) fun _ _ =>
    .bind (.any _) fun _ _ => .bind (.any _) fun _ _ =>
      .bind (gives_declaredBodyOf document) fun _ plain => .ok plain

/-! ## Components -/

theorem Program.library_makeParameters (parameters : List ParameterDeclaration)
    (program : Program) :
    (makeParameters parameters program).2.library = program.library := by
  induction parameters generalizing program with
  | nil => rfl
  | cons parameter rest induction =>
      rcases parameter with ⟨name, default⟩
      cases default with
      | none => exact induction program
      | some default =>
          have kept : (program.evaluate default).2.library = program.library := rfl
          unfold makeParameters
          generalize program.evaluate default = evaluated at kept ⊢
          rcases evaluated with ⟨failure | value, after⟩
          · exact kept
          · exact (induction after).trans kept

/-- A declaration adds its component, or nothing if a default fails. -/
theorem Program.library_declare (declaration : Declaration) (program : Program) :
    (program.declare declaration).2.library = program.library ∨
      ∃ component : Component, component.body = declaration.body.bind ∧
        (program.declare declaration).2.library = component :: program.library := by
  have first := library_makeParameters declaration.positionalOnly program
  have second := library_makeParameters declaration.positional
    (makeParameters declaration.positionalOnly program).2
  have third := library_makeParameters declaration.keywordOnly
    (makeParameters declaration.positional (makeParameters declaration.positionalOnly program).2).2
  have kept := third.trans (second.trans first)
  unfold declare
  dsimp only
  split
  · exact .inr ⟨_, rfl, congrArg (_ :: ·) kept⟩
  · exact .inl kept
  · exact .inl kept
  · exact .inl kept

/-- A component that is read and declared cannot tell numbers any more than those before it, if the
defaults of its parameters are known. -/
theorem Program.isBlind_declare {base : Pairing} {program : Program} {name : String}
    {document : Document} {declaration : Declaration}
    (read : declarationOf name document = .ok declaration) (blind : program.library.IsBlind base)
    (known : ∀ component ∈ (program.declare declaration).2.library,
      base.Relates component.signature component.signature) :
    (program.declare declaration).2.library.IsBlind base := by
  have plain := gives_declarationOf name document declaration read
  rcases library_declare declaration program with same | ⟨component, declared, added⟩
  · rw [same]
    exact blind
  · rw [added] at known ⊢
    rcases List.forall_mem_cons.mp known with ⟨first, _⟩
    exact List.forall_mem_cons.mpr ⟨Component.isBlind_of_declared declared plain first, blind⟩

end Script
end HtmlStream
