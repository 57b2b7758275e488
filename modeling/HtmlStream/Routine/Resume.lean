import HtmlStream.Element.Effects
import HtmlStream.Session

/-!
Advancing bodies. A body runs until it is suspended or ends; what it asks for meanwhile is carried
out on the session. A body that has handed over to another one is advanced by advancing that one.

Bodies may call and hand over to bodies that do the same, so every call takes one from the number
of calls that may still be nested; a call beyond the limit fails.
-/
namespace HtmlStream

inductive Progress where
  | produced (effect : Value)
  | waiting (pending : Pending)
  | returned (value : Value)
  | raised (failure : Failure)

namespace Progress

def ofReply : Reply → Progress
  | .ok value => .returned value
  | .error failure => .raised failure

end Progress

/-- How to advance a body from within another one. -/
abbrev Resumption := Nat → Reply → Session → Progress × Session

def callLimit : Nat := 1000

namespace Session

/-! ## Carrying out actions -/

/-- Call a component with arguments. A plain function is run to its end, other components give a
body that has not started. -/
def callComponent (library : Library) (resume : Resumption) (reference : ComponentReference)
    (arguments : Entries) (session : Session) : Reply × Session :=
  match library.find? reference with
  | none => (.error (.fault (.undefinedName reference.name)), session)
  | some component =>
      let receiver := if reference.hashable then none else some (.component reference)
      match component.signature.bind reference.name receiver arguments with
      | .error fault => (.error (.fault fault), session)
      | .ok bindings =>
          match component.reference.kind with
          | some kind =>
              let (body, session) :=
                session.addRoutine kind reference.name (component.body bindings)
              (.ok (.routine body), session)
          | none =>
              let (body, session) :=
                session.addRoutine .generator reference.name (component.body bindings)
              match resume body.index (.ok .null) session with
              | (.returned value, session) => (.ok value, session)
              | (.raised failure, session) => (.error failure, session)
              | (_, session) => (.ok .null, session)

def mappingOf (arguments : Entries) : Reply :=
  match Signature.namedArguments arguments with
  | .ok _ => .ok (.mapping arguments)
  | .error fault => .error (.fault fault)

def call (library : Library) (resume : Resumption) (callee : Value) (arguments : Entries)
    (session : Session) : Reply × Session :=
  match callee with
  | .component reference => callComponent library resume reference arguments session
  | .mappingType => (mappingOf arguments, session)
  | .depthProbe => (.ok (.integer session.liveFrames), session)
  | other => (.error (.fault (.notCallable other.typeName)), session)

/-- The signature of something callable, if it has one. -/
def signature? (library : Library) : Value → Option Signature
  | .component reference => (library.find? reference).map Component.signature
  | .depthProbe => some ⟨[], [], [], none⟩
  | _ => none

/-- Close a body: one that has not started is finished; one that is suspended has to end when the
exit is raised in it. -/
def close (resume : Resumption) (index : Nat) (session : Session) : Option Failure × Session :=
  match session.routine? index with
  | none => (none, session)
  | some object =>
      match object.state with
      | .unstarted _ => (none, session.setState index (.finished (.ok .null)))
      | .finished _ => (none, session)
      | .running => (some (.fault (.alreadyRunning object.kind)), session)
      | .suspended _ | .waiting .. | .delegating .. =>
          match resume index (.error .exit) session with
          | (.returned _, session) | (.raised .exit, session) => (none, session)
          | (.raised failure, session) => (some failure, session)
          | (_, session) => (some (.fault .exitIgnored), session)

/-- Close the generators that nothing holds any more; whatever that comes to is ignored. -/
def release (resume : Resumption) (generators : List Nat) (result : Value) (session : Session) :
    Session :=
  generators.foldl (fun session index =>
    if result.holds index || session.holds index then session
    else (close resume index session).2) session

/-- Call a component for an element. The result has to be a body that yields effects; a coroutine
is closed before it is refused. -/
def expand (library : Library) (resume : Resumption) (component : Value) (attributes : Entries)
    (children : List Value) (session : Session) : Reply × Session :=
  let arguments :=
    Component.argumentsFor (signature? library component) attributes children
  match call library resume component arguments session with
  | (.error failure, session) => (.error failure, session)
  | (.ok result, session) =>
      let refused := Failure.engine (.invalidComponent component result)
      match result with
      | .routine reference =>
          match reference.kind with
          | .generator | .asyncGenerator => (.ok result, session)
          | .coroutine =>
              match close resume reference.index session with
              | (some failure, session) => (.error failure, session)
              | (none, session) => (.error refused, session)
      | _ => (.error refused, session)

def outcome (index : Nat) (session : Session) : Reply :=
  match session.routine? index with
  | some ⟨_, .finished outcome⟩ => outcome
  | _ => .ok .null

def carryOut (library : Library) (resume : Resumption) (action : Action) (session : Session) :
    Reply × Session :=
  match action with
  | .log value =>
      match value.recordFault? with
      | none => (.ok .null, session.record (.logged value))
      | some fault => (.error (.fault fault), session)
  | .lookup name => (session.lookup name, session)
  | .call callee arguments => call library resume callee arguments session
  | .expand component attributes children =>
      expand library resume component attributes children session
  | .readContext field => session.readContext field
  | .readMeta key default => session.readMeta key default
  | .writeMeta key value => session.writeMeta key value
  | .register token provider => session.register token provider
  | .discard index => (.ok .null, (close resume index session).2)
  | .release generators result => (.ok .null, release resume generators result session)
  | .outcome index => (outcome index session, session)

/-! ## Running -/

/-- A body ends. An async generator signals its own end by a failure, so it must not raise that
one. -/
def endBody (index : Nat) (kind : RoutineKind) (result : Reply) (session : Session) :
    Progress × Session :=
  let result : Reply := match kind, result with
    | .asyncGenerator, .error (.raised .endOfAsyncIteration _) =>
        .error (.fault .endOfIterationEscaped)
    | _, result => result
  (.ofReply result, session.setState index (.finished result))

def isAwaited (session : Session) (target : RoutineReference) : Bool :=
  target.kind == .coroutine && match session.routine? target.index with
    | some ⟨_, .suspended _⟩ | some ⟨_, .waiting _ _⟩ | some ⟨_, .delegating _ _⟩ => true
    | _ => false

/-- What advancing a generator came to, as the body sees it that advanced it. -/
def advancedBy : Progress → Advanced
  | .produced value => .item value
  | .raised failure => .failed failure
  | .returned _ | .waiting _ => .ended

/-- Run a body until it is suspended or ends. -/
def run (library : Library) (resume : Resumption) (index : Nat) (kind : RoutineKind) :
    Routine → Session → Progress × Session
  | .finish result, session => endBody index kind result session
  | .reserve count next, session =>
      run library resume index kind (next session.nextIdentity)
        { session with nextIdentity := session.nextIdentity + count }
  | .act action next, session =>
      let (reply, session) := carryOut library resume action session
      run library resume index kind (next reply) session
  | .advance target next, session =>
      let (progress, session) := resume target (.ok .null) session
      run library resume index kind (next (advancedBy progress)) session
  | .start body next, session =>
      let (task, session) := session.startTask body
      run library resume index kind (next task) session
  | .suspend (.effect value) next, session =>
      (.produced value, session.setState index (.suspended next))
  | .suspend (.wait pending) next, session =>
      (.waiting pending, session.setState index (.waiting pending next))
  | .suspend (.delegate target) next, session =>
      if session.isAwaited target then
        run library resume index kind (next (.error (.fault .coroutineAwaitedTwice))) session
      else
        match resume target.index (.ok .null) session with
        | (.returned value, session) => run library resume index kind (next (.ok value)) session
        | (.raised failure, session) =>
            run library resume index kind (next (.error failure)) session
        | (progress, session) =>
            (progress, session.setState index (.delegating target.index next))
  | .suspend (.iterate node) next, session =>
      let (target, session) := session.addRoutine .generator "element" node.body
      match resume target.index (.ok .null) session with
      | (.returned value, session) => run library resume index kind (next (.ok value)) session
      | (.raised failure, session) => run library resume index kind (next (.error failure)) session
      | (progress, session) =>
          (progress, session.setState index (.delegating target.index next))

/-- Advance the body that has taken over from another one, and go on with that one if it ends. -/
def advanceTarget (library : Library) (resume : Resumption) (index : Nat) (kind : RoutineKind)
    (target : Nat) (next : Reply → Routine) (reply : Reply) (session : Session) :
    Progress × Session :=
  match resume target reply session with
  | (.returned value, session) => run library resume index kind (next (.ok value)) session
  | (.raised failure, session) => run library resume index kind (next (.error failure)) session
  | (progress, session) => (progress, session.setState index (.delegating target next))

/-- Answer a body that has handed over. An exit closes the other body first and is then raised in
this one, or in its place whatever the closing raised. -/
def resumeDelegating (library : Library) (resume : Resumption) (index : Nat) (kind : RoutineKind)
    (target : Nat) (next : Reply → Routine) (reply : Reply) (session : Session) :
    Progress × Session :=
  match reply with
  | .error .exit =>
      match close resume target session with
      | (none, session) => run library resume index kind (next (.error .exit)) session
      | (some failure, session) =>
          run library resume index kind (next (.error failure)) session
  | reply => advanceTarget library resume index kind target next reply session

/-- Answer a body that has ended: a generator has nothing more to give, a coroutine gives its
result only once. -/
def resumeFinished (kind : RoutineKind) (reply : Reply) : Progress :=
  match kind, reply with
  | .coroutine, _ => .raised (.fault .coroutineReused)
  | _, .ok _ => .returned .null
  | _, .error failure => .raised failure

/-- Start a body. There is no place in it yet where an answer could go or a failure be raised. -/
def startBody (library : Library) (resume : Resumption) (index : Nat) (kind : RoutineKind)
    (body : Routine) (reply : Reply) (session : Session) : Progress × Session :=
  match reply with
  | .ok .null => run library resume index kind body (session.setState index .running)
  | .ok _ => (.raised (.fault (.answerBeforeStart kind)), session)
  | .error failure =>
      (.raised failure, session.setState index (.finished (.error failure)))

def resumeObject (library : Library) (resume : Resumption) (index : Nat) (object : RoutineObject)
    (reply : Reply) (session : Session) : Progress × Session :=
  match object.state with
  | .unstarted body => startBody library resume index object.kind body reply session
  | .suspended next | .waiting _ next =>
      run library resume index object.kind (next reply) (session.setState index .running)
  | .delegating target next =>
      resumeDelegating library resume index object.kind target next reply
        (session.setState index .running)
  | .running => (.raised (.fault (.alreadyRunning object.kind)), session)
  | .finished _ => (resumeFinished object.kind reply, session)

/-- Advance a body with an answer, where `calls` more calls may be nested. -/
def resumeWithin (library : Library) : (calls : Nat) → Resumption
  | 0 => fun _ _ session => (.raised (.fault .callsTooDeep), session)
  | calls + 1 => fun index reply session =>
      match session.routine? index with
      | none => (.returned .null, session)
      | some object =>
          resumeObject library (resumeWithin library calls) index object reply session

def resume (library : Library) : Resumption :=
  resumeWithin library callLimit

def closeRoutine (library : Library) (index : Nat) (session : Session) :
    Option Failure × Session :=
  close (resume library) index session

/-- Do a piece of work outside of all bodies. -/
def perform (library : Library) (work : Routine) (session : Session) : Reply × Session :=
  let (body, session) := session.addRoutine .generator "" work
  match resume library body.index (.ok .null) session with
  | (.returned value, session) => (.ok value, session)
  | (.raised failure, session) => (.error failure, session)
  | (_, session) => (.ok .null, session)

end Session
end HtmlStream
