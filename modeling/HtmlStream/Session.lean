import HtmlStream.Component.Library
import HtmlStream.Context.Registry
import HtmlStream.Context.RenderContext
import HtmlStream.EventLoop.Basic
import HtmlStream.Value.Holding

/-!
Sessions: everything that lives longer than one step of one body. Bodies are kept in a table and
referred to by number, since several holders may share one and advance it in turn.
-/
namespace HtmlStream

/-- How far a body got. -/
inductive RoutineState where
  | unstarted (body : Routine)
  | suspended (next : Reply → Routine)
  | waiting (pending : Pending) (next : Reply → Routine)
  /-- Suspended while the body with number `target` takes over. -/
  | delegating (target : Nat) (next : Reply → Routine)
  | running
  | finished (outcome : Reply)

structure RoutineObject where
  kind : RoutineKind
  state : RoutineState

/-- Who wrote a diagnostic record. -/
inductive LogSource where
  | route
  | renderer
  deriving DecidableEq

inductive Event where
  /-- A body logged a value. -/
  | logged (value : Value)
  /-- A diagnostic record of the engine. -/
  | diagnostic (source : LogSource) (message : String)
  /-- A chunk reached the consumer. -/
  | chunk (bytes : List UInt8)

structure Session where
  /-- The next identity that is free. -/
  nextIdentity : Nat
  routines : Array RoutineObject
  /-- What happened, last event first. -/
  events : List Event
  contexts : Array RenderContext
  /-- The number of the current render context. -/
  current : Option Nat
  /-- The registry of the route that is being configured and rendered. -/
  registry : Registry
  /-- What bodies have registered with it so far, last registration first. -/
  registrations : List (Token × Provider)
  /-- What global names stand for, last definition first. -/
  names : Bindings
  /-- The number of live frames of the render that is being advanced. -/
  liveFrames : Nat
  loop : EventLoop

namespace Session

def empty : Session where
  nextIdentity := 0
  routines := #[]
  events := []
  contexts := #[]
  current := none
  registry := []
  registrations := []
  names := []
  liveFrames := 0
  loop := .empty

def record (session : Session) (event : Event) : Session :=
  { session with events := event :: session.events }

def diagnose (session : Session) (source : LogSource) (message : String) : Session :=
  session.record (.diagnostic source message)

def define (session : Session) (name : String) (value : Value) : Session :=
  { session with names := (name, value) :: session.names }

def lookup (session : Session) (name : String) : Reply :=
  match session.names.find? fun entry => entry.1 == name with
  | some entry => .ok entry.2
  | none => .error (.fault (.undefinedName name))

/-! ## Bodies -/

def routine? (session : Session) (index : Nat) : Option RoutineObject :=
  session.routines[index]?

def setState (session : Session) (index : Nat) (state : RoutineState) : Session :=
  { session with
    routines := session.routines.modify index fun object => { object with state } }

/-- Put a body that has not started into the table. -/
def addRoutine (session : Session) (kind : RoutineKind) (name : String) (body : Routine) :
    RoutineReference × Session :=
  (⟨kind, session.routines.size, name⟩,
    { session with routines := session.routines.push ⟨kind, .unstarted body⟩ })

def hasEnded (session : Session) (index : Nat) : Bool :=
  match session.routine? index with
  | some ⟨_, .finished _⟩ => true
  | _ => false

/-- Whether a wait is over as soon as it is looked at. -/
def isOver (session : Session) : Pending → Bool
  | .value _ => true
  | .forever => false
  | .task index => session.hasEnded index

/-- Whether a body is in the middle of a wait, which nobody else may take over. -/
def isWaiting (session : Session) (index : Nat) : Bool :=
  match session.routine? index with
  | some ⟨_, .waiting ..⟩ | some ⟨_, .delegating ..⟩ | some ⟨_, .running⟩ => true
  | _ => false

/-- Whether something that outlives all bodies holds the body with number `index`. -/
def holds (session : Session) (index : Nat) : Bool :=
  let within (bindings : Bindings) := bindings.any fun entry => entry.2.holds index
  within session.names || session.contexts.any (fun context => within context.metadata)
    || session.registry.any fun entry => entry.2.source.holds index

/-! ## The event loop -/

def withLoop (session : Session) (change : EventLoop → EventLoop) : Session :=
  { session with loop := change session.loop }

def schedule (session : Session) (step : DueStep) : Session :=
  session.withLoop fun loop => loop.schedule step

/-- Make a task of a body. It goes on in the render context that is current now. -/
def startTask (session : Session) (body : Routine) : RoutineReference × Session :=
  let (task, session) := session.addRoutine .coroutine "task" body
  let worker : Worker := .task task.index
  (task, session.withLoop fun loop =>
    (loop.setContext worker session.current).schedule (.resume worker (.ok .null)))

/-! ## Render contexts -/

def context? (session : Session) (index : Nat) : Option RenderContext :=
  session.contexts[index]?

def currentContext? (session : Session) : Option RenderContext :=
  session.current.bind session.context?

def addContext (session : Session) (context : RenderContext) : Nat × Session :=
  (session.contexts.size, { session with contexts := session.contexts.push context })

def modifyContext (session : Session) (index : Nat) (change : RenderContext → RenderContext) :
    Session :=
  { session with contexts := session.contexts.modify index change }

/-- Make a context inside the current one and make it current. The result is its number and what
was current before. -/
def enterContext (session : Session) (routeName : Option String) (maxDepth : Int)
    (given : Option Bindings) : (Nat × Option Nat) × Session :=
  let (index, entered) :=
    session.addContext (.inside session.currentContext? routeName maxDepth given)
  ((index, session.current), { entered with current := some index })

/-- Make current what was current when a context was entered. -/
def leaveContext (session : Session) (outer : Option Nat) : Session :=
  { session with current := outer }

def withContext (session : Session) (use : Nat → RenderContext → Reply × Session) :
    Reply × Session :=
  match session.current with
  | none => (.error (.fault .noRenderContext), session)
  | some index =>
      match session.context? index with
      | none => (.error (.fault .noRenderContext), session)
      | some context => use index context

def readContext (session : Session) (field : ContextField) : Reply × Session :=
  session.withContext fun _ context =>
    (.ok (match field with
      | .routeName => match context.routeName with
          | some name => .text name
          | none => .null
      | .maxDepth => .integer context.maxDepth
      | .stylesEmitted => .integer context.stylesEmitted
      | .contextStack => .list (context.contextStack.map .text)), session)

def readMeta (session : Session) (key : String) (default : Value) : Reply × Session :=
  session.withContext fun _ context => (.ok (context.getMeta key default), session)

def writeMeta (session : Session) (key : String) (value : Value) : Reply × Session :=
  session.withContext fun index _ =>
    (.ok .null, session.modifyContext index fun context => context.setMeta key value)

/-! ## The registry -/

/-- Add an entry to the registry. -/
def enroll (session : Session) (entry : Token × Provider) : Session :=
  { session with
    registry := session.registry.insert entry.1 entry.2
    registrations := entry :: session.registrations }

def register (session : Session) (key source : Value) : Reply × Session :=
  match Registry.entryFor key source with
  | .ok entry => (.ok .null, session.enroll entry)
  | .error fault => (.error (.fault fault), session)

end Session
end HtmlStream
