import HtmlStream.Failure.Message
import HtmlStream.Script.Expression

/-!
Statements of scripted components, and the routines that run them.

What a body has assigned stays assigned when a statement fails, so handlers see it. A piece of a
script therefore hands on the names with whatever it came to, a failure included.
-/
namespace HtmlStream.Script

inductive Operation where
  | yield (effect : Expression)
  /-- Hand over to an element, a generator, a token or the items of a collection. -/
  | delegate (target : Expression)
  /-- Ask for a token in the way of the component's kind. -/
  | request (token : Expression)
  | log (value : Expression)
  | register (token provider : Expression)
  | writeMeta (key : String) (value : Expression)
  /-- Let the event loop turn once. -/
  | sleep
  | await (coroutine : Expression)
  /-- Wait for an object that hands a value to the event loop. -/
  | awaitForeign (value : Expression)
  | waitForever

inductive Statement where
  | operation (operation : Operation) (name : Option String)
  | assign (name : String) (value : Expression)
  | branch (condition : Expression) (yes no : List Statement)
  | loop (name : String) (items : Expression) (body : List Statement)
  | give (result : Expression)
  | fail (kind : FailureKind) (message : Option String)
  | guarded (body : List Statement) (handlers : List (String × List Statement))
      (cleanup : List Statement)
  /-- Run statements as a task of their own and wait for it. -/
  | task (body : List Statement) (name : Option String)

/-! ## Operations -/

/-- Yield the items of a collection. A collection takes no answers. -/
def yieldItems (iteratorName : String) : List Value → Work Value
  | [] => pure .null
  | item :: rest => do
      match ← Work.yield item with
      | .null => yieldItems iteratorName rest
      | _ => Work.fail (.fault (.takesNoAnswer iteratorName))

/-- What hands out the items of a collection, by its name. -/
def iteratorName : Value → String
  | .list _ => "list_iterator"
  | .tuple _ => "tuple_iterator"
  | .text content =>
      if content.toList.all fun character => character.toNat < 128 then "str_ascii_iterator"
      else "str_iterator"
  | .markup _ => "str_iterator"
  | _ => "dict_keyiterator"

/-- Hand over to a value; the result is what it ends with. -/
def delegateTo (target : Value) : Work Value :=
  match target with
  | .routine reference =>
      match reference.kind with
      | .generator => Work.suspend (.delegate reference)
      | .coroutine => Work.fail (.fault .coroutineInGenerator)
      | .asyncGenerator => Work.fail (.fault (.notIterable target.typeName))
  | .token _ => Work.yield target
  | .element identity type attributes children =>
      Work.suspend (.iterate ⟨identity, type, attributes, children⟩)
  | other =>
      match itemsOf? other with
      | some items => yieldItems (iteratorName other) items
      | none => Work.fail (.fault (.notIterable other.typeName))

def awaitValue (target : Value) : Work Value :=
  match target with
  | .routine reference =>
      match reference.kind with
      | .coroutine => Work.suspend (.delegate reference)
      | _ => Work.fail (.fault (.cannotAwait target.typeName))
  | .token _ => Work.wait (.value target)
  | other => Work.fail (.fault (.cannotAwait other.typeName))

def Operation.perform (kind : RoutineKind) (scope : Scope) : Operation → Work Value
  | .yield effect => do Work.yield (← effect.evaluate scope)
  | .delegate target => do delegateTo (← target.evaluate scope)
  | .request token => do
      let token ← token.evaluate scope
      match kind with
      | .generator => delegateTo token
      | .coroutine => awaitValue token
      | .asyncGenerator => Work.yield token
  | .log value => do Work.act (.log (← value.evaluate scope))
  | .register token provider => do
      let token ← token.evaluate scope
      Work.act (.register token (← provider.evaluate scope))
  | .writeMeta key value => do Work.act (.writeMeta key (← value.evaluate scope))
  | .sleep => Work.wait (.value .null)
  | .await coroutine => do awaitValue (← coroutine.evaluate scope)
  | .awaitForeign value => do Work.wait (.value (← value.evaluate scope))
  | .waitForever => Work.wait .forever

/-- Wait for a task; its result, or its failure, is the answer. -/
def awaitTask (task : RoutineReference) : Work Value := do
  let _ ← Work.wait (.task task.index)
  Work.act (.outcome task.index)

/-! ## Statements -/

/-- How a piece of a script ended, if it did not fail: it goes on, or the body returns. -/
inductive Completion where
  | proceed
  | give (value : Value)

/-- The names after a piece of a script, and what it came to. -/
structure PieceResult where
  scope : Scope
  result : Except Failure Completion

/-- A piece of a script: given the names, and what follows, the routine of both together. -/
def Piece : Type := Scope → (PieceResult → Routine) → Routine

namespace Piece

def ofWork (work : Scope → Work Completion) : Piece :=
  fun scope rest => work scope fun result => rest ⟨scope, result⟩

/-- A piece that binds what it evaluates to a name, if there is one. -/
def binding (name : Option String) (work : Scope → Work Value) : Piece :=
  fun scope rest => work scope fun
    | .ok value =>
        rest ⟨match name with
          | some name => scope.assign name value
          | none => scope, .ok .proceed⟩
    | .error failure => rest ⟨scope, .error failure⟩

/-- Go on with another piece, unless the first one ends the body. -/
def followedBy (first second : Piece) : Piece :=
  fun scope rest => first scope fun progress =>
    match progress.result with
    | .ok .proceed => second progress.scope rest
    | _ => rest progress

def nothing : Piece :=
  fun scope rest => rest ⟨scope, .ok .proceed⟩

/-- Run one piece for each item, with the name bound to it. -/
def forEach (name : String) (body : Piece) : List (Work Value) → Piece
  | [] => nothing
  | item :: items => fun scope rest => item fun
      | .ok value => body.followedBy (forEach name body items) (scope.assign name value) rest
      | .error failure => rest ⟨scope, .error failure⟩

/-- Run one piece for each item of a generator, at most `items` times. -/
def forEachAdvanced (name : String) (body : Piece) (index : Nat) : (items : Nat) → Piece
  | 0 => nothing
  | items + 1 => fun scope rest => .advance index fun
      | .item value =>
          body.followedBy (forEachAdvanced name body index items) (scope.assign name value) rest
      | .ended => rest ⟨scope, .ok .proceed⟩
      | .failed failure => rest ⟨scope, .error failure⟩

/-- Close a generator unless a piece comes to its end. -/
def discarding (index : Nat) (piece : Piece) : Piece :=
  fun scope rest => piece scope fun progress =>
    match progress.result with
    | .ok .proceed => rest progress
    | _ => .act (.discard index) fun _ => rest progress

/-- A loop through what its items are evaluated to. A generator that is `temporary` is closed if the
loop is left before its end. -/
def loop (name : String) (temporary : Bool) (items : Scope → Work Value) (body : Piece) : Piece :=
  fun scope rest => items scope fun
    | .error failure => rest ⟨scope, .error failure⟩
    | .ok value =>
        match Iteration.of value with
        | .error fault => rest ⟨scope, .error (.fault fault)⟩
        | .ok (.collection items) => forEach name body items scope rest
        | .ok (.generator index) =>
            let whole := forEachAdvanced name body index iterationLimit
            if temporary then whole.discarding index scope rest else whole scope rest

/-- The name under which a handler finds the failure. -/
def failureName : String := "exc"

/-- The first handler that takes a failure. -/
def handlerFor? (failure : Failure) : List (String × Piece) → Option Piece
  | [] => none
  | (name, body) :: rest => if failure.isHandledBy name then some body else handlerFor? failure rest

/-- What a close of the body comes to after it was handled or cleaned up: it goes on, unless that
failed. -/
def goOnClosing (rest : PieceResult → Routine) (progress : PieceResult) : Routine :=
  match progress.result with
  | .ok _ => rest ⟨progress.scope, .error .exit⟩
  | .error _ => rest progress

/-- Give a failure of the body to a handler. A handler cannot stop the body from being closed. -/
def handledBy (body : Piece) (handlers : List (String × Piece)) : Piece :=
  fun scope rest => body scope fun progress =>
    match progress.result with
    | .error failure =>
        match handlerFor? failure handlers with
        | none => rest progress
        | some handler =>
            let scope := progress.scope.assign failureName failure.toValue
            match failure with
            | .exit => handler scope (goOnClosing rest)
            | _ => handler scope rest
    | _ => rest progress

/-- Run the cleanup however the body ends. Unless the cleanup itself ends the body, what the body
came to stands; a cleanup cannot stop the body from being closed either. -/
def cleanedUpBy (body cleanup : Piece) : Piece :=
  fun scope rest => body scope fun progress =>
    match progress.result with
    | .error .exit => cleanup progress.scope (goOnClosing rest)
    | _ => cleanup progress.scope fun cleaned =>
        match cleaned.result with
        | .ok .proceed => rest ⟨cleaned.scope, progress.result⟩
        | _ => rest cleaned

/-- The generators that a body has made its own: those under its names that it did not receive, in
the order in which they were assigned. -/
def ownGenerators (received scope : Scope) : List Nat :=
  let foreign := received.filterMap fun entry => entry.2.generator?
  (scope.filterMap fun entry => entry.2.generator?).reverse.filter fun index =>
    !foreign.contains index

/-- The end of a body, which lets go of its own generators. -/
def finishing (received scope : Scope) (held : Value) (result : Reply) : Routine :=
  match ownGenerators received scope with
  | [] => .finish result
  | generators => .act (.release generators held) fun _ => .finish result

/-- The routine of a whole body. A body that runs off its end, or that is no place to give a
result, returns nothing. A failure holds on to the names of the body, a close does not. -/
def toRoutine (kind : RoutineKind) (body : Piece) (received : Scope) : Routine :=
  body received fun progress =>
    match progress.result with
    | .error .exit => finishing received progress.scope .null (.error .exit)
    | .error failure => .finish (.error failure)
    | .ok .proceed => finishing received progress.scope .null (.ok .null)
    | .ok (.give value) =>
        let result := match kind with
          | .asyncGenerator => .null
          | _ => value
        finishing received progress.scope result (.ok result)

end Piece

mutual
def Statement.piece (kind : RoutineKind) : Statement → Piece
  | .operation operation name => .binding name fun scope => operation.perform kind scope
  | .assign name value => .binding (some name) fun scope => value.evaluate scope
  | .branch condition yes no => fun scope rest => condition.evaluate scope fun
      | .ok value =>
          if value.truth then pieceOfAll kind yes scope rest else pieceOfAll kind no scope rest
      | .error failure => rest ⟨scope, .error failure⟩
  | .loop name items body =>
      .loop name items.isTemporary (fun scope => items.evaluate scope) (pieceOfAll kind body)
  | .give result => .ofWork fun scope => do return .give (← result.evaluate scope)
  | .fail failureKind message => .ofWork fun _ => Work.fail (.raised failureKind message)
  | .guarded body handlers cleanup =>
      ((pieceOfAll kind body).handledBy (piecesOfHandlers kind handlers)).cleanedUpBy
        (pieceOfAll kind cleanup)
  | .task body name => .binding name fun scope => do
      awaitTask (← Work.start ((pieceOfAll .coroutine body).toRoutine .coroutine scope))

def pieceOfAll (kind : RoutineKind) : List Statement → Piece
  | [] => .nothing
  | head :: tail => (head.piece kind).followedBy (pieceOfAll kind tail)

def piecesOfHandlers (kind : RoutineKind) :
    List (String × List Statement) → List (String × Piece)
  | [] => []
  | (name, body) :: rest => (name, pieceOfAll kind body) :: piecesOfHandlers kind rest
end

/-- The body of a component that runs statements. -/
def bodyOfStatements (kind : RoutineKind) (statements : List Statement) (bindings : Bindings) :
    Routine :=
  (pieceOfAll kind statements).toRoutine kind bindings

/-- The body of a component that gives the value of an expression. -/
def bodyOfExpression (expression : Expression) (bindings : Bindings) : Routine :=
  (expression.evaluate bindings).toRoutine

end HtmlStream.Script
