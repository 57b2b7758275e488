import HtmlStream.Proofs.Routine.Handover
import HtmlStream.Proofs.Routine.Reading

/-!
What bodies cannot tell apart. Nobody reads the log, and bodies may be known to read only certain
fields of their render context, so two sessions that agree on everything else are advanced in step.
The main statement is `after_resume`, for any relation of that kind which the writes of bodies keep;
a property of single sessions is such a relation on the diagonal.
-/
namespace HtmlStream

namespace Session

/-- Two sessions that agree on everything but the log. -/
def AgreesWith (left right : Session) : Prop :=
  ∃ events, right = { left with events }

theorem AgreesWith.refl (session : Session) : session.AgreesWith session :=
  ⟨session.events, rfl⟩

theorem AgreesWith.symm {left right : Session} (agree : left.AgreesWith right) :
    right.AgreesWith left := by
  rcases agree with ⟨events, rfl⟩
  exact ⟨left.events, rfl⟩

/-- A relation of sessions that agree on everything that bodies read, and whose bodies read only
certain fields of their render contexts. It is kept by whatever such a body writes. -/
structure Congruence (fields : ContextField → Prop) (alike : Session → Session → Prop) : Prop where
  agrees : ∀ {left right}, alike left right →
    ∃ events contexts, right = { left with events, contexts }
  contexts : ∀ {left right}, alike left right → left.ContextsLookAlike fields right
  readsOnly : ∀ {left right}, alike left right → left.ReadsOnly fields
  record : ∀ {left right}, alike left right → ∀ event, alike (left.record event) (right.record event)
  withIdentity : ∀ {left right}, alike left right → ∀ nextIdentity,
    alike { left with nextIdentity } { right with nextIdentity }
  withRoutines : ∀ {left right}, alike left right → ∀ routines,
    ReadsOnly fields { left with routines } →
      alike { left with routines } { right with routines }
  enroll : ∀ {left right}, alike left right → ∀ entry, alike (left.enroll entry) (right.enroll entry)
  withLoop : ∀ {left right}, alike left right → ∀ change,
    alike (left.withLoop change) (right.withLoop change)
  withMeta : ∀ {left right}, alike left right → ∀ index key value,
    alike (left.modifyContext index (·.setMeta key value))
      (right.modifyContext index (·.setMeta key value))

/-- Two results are equal and come with related sessions. -/
def After {α : Type} (alike : Session → Session → Prop) (left right : α × Session) : Prop :=
  left.1 = right.1 ∧ alike left.2 right.2

variable {α : Type} {fields : ContextField → Prop} {alike : Session → Session → Prop}
  {left right : Session}

theorem After.exists {left right : α × Session} (after : After alike left right) :
    ∃ value leftAfter rightAfter, left = (value, leftAfter) ∧ right = (value, rightAfter) ∧
      alike leftAfter rightAfter := by
  rcases left with ⟨value, leftAfter⟩
  rcases right with ⟨other, rightAfter⟩
  rcases after with ⟨rfl, same⟩
  exact ⟨value, leftAfter, rightAfter, rfl, rfl, same⟩

namespace Congruence

variable (congruence : Congruence fields alike)

include congruence

/-- Whatever is read of a session, apart from its log and its render contexts, is the same for
both. -/
theorem read_eq (same : alike left right) (read : Session → α)
    (blind : ∀ session events contexts,
      read { session with events, contexts } = read session) :
    read right = read left := by
  rcases congruence.agrees same with ⟨events, contexts, rfl⟩
  exact blind left events contexts

theorem setState (same : alike left right) (index : Nat) {state : RoutineState}
    (readsOnly : state.ReadsOnly fields) :
    alike (left.setState index state) (right.setState index state) := by
  have table := (congruence.readsOnly same).setState index readsOnly
  unfold Session.setState at table ⊢
  rw [congruence.read_eq same Session.routines fun _ _ _ => rfl]
  exact congruence.withRoutines same _ table

theorem addRoutine (same : alike left right) (kind : RoutineKind) (name : String)
    {body : Routine} (readsOnly : body.ReadsOnly fields) :
    After alike (left.addRoutine kind name body) (right.addRoutine kind name body) := by
  have table := (congruence.readsOnly same).addRoutine kind name readsOnly
  unfold Session.addRoutine at table ⊢
  rw [congruence.read_eq same Session.routines fun _ _ _ => rfl]
  exact ⟨rfl, congruence.withRoutines same _ table⟩

theorem startTask (same : alike left right) {body : Routine} (readsOnly : body.ReadsOnly fields) :
    After alike (left.startTask body) (right.startTask body) := by
  rcases (congruence.addRoutine same .coroutine "task" readsOnly).exists with
    ⟨task, leftAfter, rightAfter, onLeft, onRight, sameAfter⟩
  have current := congruence.read_eq sameAfter Session.current fun _ _ _ => rfl
  unfold Session.startTask
  rw [onLeft, onRight]
  dsimp only
  rw [current]
  refine ⟨rfl, ?_⟩
  dsimp only
  exact congruence.withLoop sameAfter _

theorem withContext (same : alike left right)
    {onLeft onRight : Nat → RenderContext → Reply × Session}
    (after : ∀ index {context other : RenderContext}, context.LooksLike fields other →
      After alike (onLeft index context) (onRight index other)) :
    After alike (left.withContext onLeft) (right.withContext onRight) := by
  unfold Session.withContext
  rw [congruence.read_eq same Session.current fun _ _ _ => rfl]
  split
  · exact ⟨rfl, same⟩
  · next index _ =>
      have look := congruence.contexts same index
      generalize left.context? index = context?, right.context? index = other? at look
      cases look with
      | none => exact ⟨rfl, same⟩
      | some looks => exact after index looks

/-- A field of the render context that may be read is the same for both. -/
theorem readContext (same : alike left right) {field : ContextField} (shown : fields field) :
    After alike (left.readContext field) (right.readContext field) := by
  refine congruence.withContext same fun index context other looks => ⟨?_, same⟩
  cases field with
  | routeName => rw [looks.routeName shown]
  | maxDepth => rw [looks.maxDepth shown]
  | stylesEmitted => rw [looks.stylesEmitted shown]
  | contextStack => rw [looks.contextStack shown]

theorem holds_eq (same : alike left right) (index : Nat) :
    right.holds index = left.holds index := by
  have metadata := (congruence.contexts same).metadata_eq
  have held (contexts : Array RenderContext) :
      (contexts.any fun context => context.metadata.any fun entry => entry.2.holds index)
        = (contexts.map RenderContext.metadata).any
            fun bindings => bindings.any fun entry => entry.2.holds index := by
    rw [Array.any_map]
    rfl
  unfold holds
  dsimp only
  rw [held, held, metadata, congruence.read_eq same names fun _ _ _ => rfl,
    congruence.read_eq same registry fun _ _ _ => rfl]

theorem register (same : alike left right) (key source : Value) :
    After alike (left.register key source) (right.register key source) := by
  unfold Session.register
  split
  · exact ⟨rfl, congruence.enroll same _⟩
  · exact ⟨rfl, same⟩

end Congruence

/-- A way to advance bodies that cannot tell related sessions apart. -/
def Respects (alike : Session → Session → Prop) (resume : Resumption) : Prop :=
  ∀ index reply {left right}, alike left right →
    After alike (resume index reply left) (resume index reply right)

/-! ## Actions -/

section Actions

variable {library : Library} {resume : Resumption} (readable : library.ReadsOnly fields)
  (congruence : Congruence fields alike) (respects : Respects alike resume)

include congruence respects

theorem after_close (same : alike left right) (index : Nat) :
    After alike (close resume index left) (close resume index right) := by
  unfold close
  rw [congruence.read_eq same (routine? · index) fun _ _ _ => rfl]
  split
  · exact ⟨rfl, same⟩
  · next object _ =>
      have exited := respects index (.error .exit) same
      cases object.state with
      | unstarted body => exact ⟨rfl, congruence.setState same index trivial⟩
      | running | finished => exact ⟨rfl, same⟩
      | suspended | waiting | delegating =>
          rcases exited.exists with ⟨progress, leftAfter, rightAfter, onLeft, onRight, sameAfter⟩
          dsimp only
          rw [onLeft, onRight]
          cases progress with
          | raised failure => cases failure <;> exact ⟨rfl, sameAfter⟩
          | _ => exact ⟨rfl, sameAfter⟩

theorem alike_release (same : alike left right) (generators : List Nat) (result : Value) :
    alike (release resume generators result left) (release resume generators result right) := by
  induction generators generalizing left right with
  | nil => exact same
  | cons index rest induction =>
      simp only [release, List.foldl_cons] at induction ⊢
      rw [congruence.holds_eq same index]
      split
      · exact induction same
      · exact induction (after_close congruence respects same index).2

theorem after_runToEnd (same : alike left right) (name : String) {body : Routine}
    (readsOnly : body.ReadsOnly fields) :
    After alike (runToEnd resume name body left) (runToEnd resume name body right) := by
  rcases (congruence.addRoutine same .generator name readsOnly).exists with
    ⟨made, leftAdded, rightAdded, addedLeft, addedRight, sameAdded⟩
  rcases (respects made.index (.ok .null) sameAdded).exists with
    ⟨progress, leftAfter, rightAfter, onLeft, onRight, sameAfter⟩
  unfold runToEnd
  rw [addedLeft, addedRight]
  dsimp only
  rw [onLeft, onRight]
  cases progress <;> exact ⟨rfl, sameAfter⟩

include readable

theorem after_callComponent (same : alike left right) (reference : ComponentReference)
    (arguments : Entries) :
    After alike (callComponent library resume reference arguments left)
      (callComponent library resume reference arguments right) := by
  cases found : library.find? reference with
  | none =>
      unfold callComponent
      rw [found]
      exact ⟨rfl, same⟩
  | some component =>
      have bodyReadsOnly := readable component (List.mem_of_find?_eq_some found)
      rw [callComponent_of_find? found, callComponent_of_find? found]
      split
      · exact ⟨rfl, same⟩
      · next bindings _ =>
          split
          · next kind _ =>
              rcases (congruence.addRoutine same kind reference.name
                (bodyReadsOnly bindings)).exists with
                ⟨body, leftAfter, rightAfter, onLeft, onRight, sameAfter⟩
              rw [onLeft, onRight]
              exact ⟨rfl, sameAfter⟩
          · exact after_runToEnd congruence respects same reference.name (bodyReadsOnly bindings)

theorem after_call (same : alike left right) (callee : Value) (arguments : Entries) :
    After alike (call library resume callee arguments left)
      (call library resume callee arguments right) := by
  cases callee with
  | component reference =>
      exact after_callComponent readable congruence respects same reference arguments
  | depthProbe =>
      have answered : (Except.ok (.integer right.liveFrames) : Reply)
          = .ok (.integer left.liveFrames) := by
        rw [congruence.read_eq same liveFrames fun _ _ _ => rfl]
      exact ⟨answered.symm, same⟩
  | _ => exact ⟨rfl, same⟩

theorem after_expand (same : alike left right) (component : Value) (attributes : Entries)
    (children : List Value) :
    After alike (expand library resume component attributes children left)
      (expand library resume component attributes children right) := by
  unfold expand
  rcases (after_call readable congruence respects same component
    (Component.argumentsFor (signature? library component) attributes children)).exists with
    ⟨reply, leftAfter, rightAfter, onLeft, onRight, sameAfter⟩
  dsimp only
  rw [onLeft, onRight]
  cases reply with
  | error failure => exact ⟨rfl, sameAfter⟩
  | ok result =>
      cases result with
      | routine reference =>
          dsimp only
          cases reference.kind with
          | generator | asyncGenerator => exact ⟨rfl, sameAfter⟩
          | coroutine =>
              rcases (after_close congruence respects sameAfter reference.index).exists with
                ⟨closing, leftClosed, rightClosed, onLeft, onRight, sameClosed⟩
              rw [onLeft, onRight]
              cases closing <;> exact ⟨rfl, sameClosed⟩
      | _ => exact ⟨rfl, sameAfter⟩

theorem after_carryOut (same : alike left right) {action : Action}
    (actionReadsOnly : action.ReadsOnly fields) :
    After alike (carryOut library resume action left) (carryOut library resume action right) := by
  cases action with
  | log value =>
      unfold carryOut
      dsimp only
      split
      · exact ⟨rfl, congruence.record same _⟩
      · exact ⟨rfl, same⟩
  | lookup name =>
      exact ⟨(congruence.read_eq same (lookup · name) fun _ _ _ => rfl).symm, same⟩
  | call callee arguments => exact after_call readable congruence respects same callee arguments
  | expand component attributes children =>
      exact after_expand readable congruence respects same component attributes children
  | readContext field => exact congruence.readContext same actionReadsOnly
  | readMeta key default =>
      refine congruence.withContext same fun _ _ _ looks => ⟨?_, same⟩
      unfold RenderContext.getMeta
      rw [looks.metadata]
  | writeMeta key value =>
      exact congruence.withContext same fun _ _ _ _ => ⟨rfl, congruence.withMeta same _ key value⟩
  | register token provider => exact congruence.register same token provider
  | discard index => exact ⟨rfl, (after_close congruence respects same index).2⟩
  | release generators result =>
      exact ⟨rfl, alike_release congruence respects same generators result⟩
  | outcome index =>
      exact ⟨(congruence.read_eq same (outcome index) fun _ _ _ => rfl).symm, same⟩

/-! ## Running -/

omit readable in
/-- A body that has handed over stays where it is, or goes on with what the other one came to. -/
theorem after_advanceTarget (same : alike left right) (index : Nat) (kind : RoutineKind)
    (target : Nat) {next : Reply → Routine} (readsOnly : ∀ reply, (next reply).ReadsOnly fields)
    (reply : Reply)
    (goesOn : ∀ answer leftAfter rightAfter, alike leftAfter rightAfter →
      After alike (run library resume index kind (next answer) leftAfter)
        (run library resume index kind (next answer) rightAfter)) :
    After alike (advanceTarget library resume index kind target next reply left)
      (advanceTarget library resume index kind target next reply right) := by
  rcases (respects target reply same).exists with
    ⟨progress, leftAfter, rightAfter, onLeft, onRight, sameAfter⟩
  unfold advanceTarget
  rw [onLeft, onRight]
  cases progress with
  | returned value | raised failure => exact goesOn _ leftAfter rightAfter sameAfter
  | produced effect | waiting pending =>
      exact ⟨rfl, congruence.setState sameAfter index readsOnly⟩

/-- Two runs of one body. The induction is on what the body still has to do. -/
theorem after_run (same : alike left right) (index : Nat) (kind : RoutineKind)
    {routine : Routine} (readsOnly : routine.ReadsOnly fields) :
    After alike (run library resume index kind routine left)
      (run library resume index kind routine right) := by
  induction routine generalizing left right with
  | finish result => exact ⟨rfl, congruence.setState same index trivial⟩
  | reserve count next induction =>
      unfold run
      rw [congruence.read_eq same nextIdentity fun _ _ _ => rfl]
      exact induction _ (congruence.withIdentity same _) (readsOnly _)
  | act action next induction =>
      rcases (after_carryOut readable congruence respects same readsOnly.1).exists with
        ⟨reply, leftAfter, rightAfter, onLeft, onRight, sameAfter⟩
      unfold run
      rw [onLeft, onRight]
      exact induction reply sameAfter (readsOnly.2 reply)
  | advance target next induction =>
      rcases (respects target (.ok .null) same).exists with
        ⟨progress, leftAfter, rightAfter, onLeft, onRight, sameAfter⟩
      unfold run
      rw [onLeft, onRight]
      exact induction _ sameAfter (readsOnly _)
  | start body next _ induction =>
      rcases (congruence.startTask same readsOnly.1).exists with
        ⟨task, leftAfter, rightAfter, onLeft, onRight, sameAfter⟩
      unfold run
      rw [onLeft, onRight]
      exact induction task sameAfter (readsOnly.2 task)
  | suspend suspension next induction =>
      cases suspension with
      | effect value | wait pending => exact ⟨rfl, congruence.setState same index readsOnly⟩
      | delegate target =>
          rw [run_delegate, run_delegate,
            congruence.read_eq same (isAwaited · target) fun _ _ _ => rfl]
          split
          · exact induction _ same (readsOnly _)
          · exact after_advanceTarget congruence respects same index kind target.index readsOnly
              (.ok .null) fun answer _ _ sameAfter =>
                induction answer sameAfter (readsOnly answer)
      | iterate node =>
          rcases (congruence.addRoutine same .generator "element" node.readsOnly_body).exists with
            ⟨target, leftOpened, rightOpened, onLeft, onRight, sameOpened⟩
          rw [run_iterate, run_iterate, onLeft, onRight]
          exact after_advanceTarget congruence respects sameOpened index kind target.index readsOnly
            (.ok .null) fun answer _ _ sameAfter => induction answer sameAfter (readsOnly answer)

theorem after_resumeDelegating (same : alike left right) (index : Nat) (kind : RoutineKind)
    (target : Nat) {next : Reply → Routine} (readsOnly : ∀ reply, (next reply).ReadsOnly fields)
    (reply : Reply) :
    After alike (resumeDelegating library resume index kind target next reply left)
      (resumeDelegating library resume index kind target next reply right) := by
  have goesOn (answer : Reply) (leftAfter rightAfter : Session)
      (sameAfter : alike leftAfter rightAfter) :
      After alike (run library resume index kind (next answer) leftAfter)
        (run library resume index kind (next answer) rightAfter) :=
    after_run readable congruence respects sameAfter index kind (readsOnly answer)
  have advanced :=
    after_advanceTarget congruence respects same index kind target readsOnly reply goesOn
  cases reply with
  | ok answer => exact advanced
  | error failure =>
      cases failure with
      | exit =>
          rcases (after_close congruence respects same target).exists with
            ⟨closing, leftAfter, rightAfter, onLeft, onRight, sameAfter⟩
          unfold resumeDelegating
          dsimp only
          rw [onLeft, onRight]
          cases closing <;> exact goesOn _ leftAfter rightAfter sameAfter
      | _ => exact advanced

theorem after_resumeObject (same : alike left right) (index : Nat) {object : RoutineObject}
    (readsOnly : object.state.ReadsOnly fields) (reply : Reply) :
    After alike (resumeObject library resume index object reply left)
      (resumeObject library resume index object reply right) := by
  have running := congruence.setState same index
    (show RoutineState.ReadsOnly fields .running from trivial)
  unfold resumeObject
  generalize object.state = state at readsOnly
  cases state with
  | unstarted body =>
      dsimp only
      unfold startBody
      split
      · exact after_run readable congruence respects running index object.kind readsOnly
      · exact ⟨rfl, same⟩
      · exact ⟨rfl, congruence.setState same index trivial⟩
  | suspended next | waiting _ next =>
      exact after_run readable congruence respects running index object.kind
        (readsOnly reply)
  | delegating target next =>
      exact after_resumeDelegating readable congruence respects running index object.kind target
        readsOnly reply
  | running | finished => exact ⟨rfl, same⟩

end Actions

/-- The induction is on how many more calls may be nested. -/
theorem respects_resumeWithin {library : Library} (readable : library.ReadsOnly fields)
    (congruence : Congruence fields alike) (calls : Nat) :
    Respects alike (resumeWithin library calls) := by
  induction calls with
  | zero => exact fun _ _ _ _ same => ⟨rfl, same⟩
  | succ calls induction =>
      intro index reply left right same
      have readsOnly := congruence.readsOnly same index
      unfold resumeWithin
      rw [congruence.read_eq same (routine? · index) fun _ _ _ => rfl]
      split
      · exact ⟨rfl, same⟩
      · next object found =>
          exact after_resumeObject readable congruence induction same index
            (readsOnly object found) reply

/-- Related sessions are advanced in step. -/
theorem after_resume {library : Library} (readable : library.ReadsOnly fields)
    (congruence : Congruence fields alike) : Respects alike (resume library) :=
  respects_resumeWithin readable congruence callLimit

theorem after_closeRoutine {library : Library} (readable : library.ReadsOnly fields)
    (congruence : Congruence fields alike) (same : alike left right) (index : Nat) :
    After alike (left.closeRoutine library index) (right.closeRoutine library index) :=
  after_close congruence (after_resume readable congruence) same index

/-! ## Properties of single sessions -/

/-- Nothing that bodies write has a part in a property of sessions. -/
structure KeptByBodies (property : Session → Prop) : Prop where
  blind : ∀ {session}, property session → ∀ nextIdentity routines events loop,
    property { session with nextIdentity, routines, events, loop }
  enroll : ∀ {session}, property session → ∀ entry, property (session.enroll entry)
  withMeta : ∀ {session}, property session → ∀ index key value,
    property (session.modifyContext index (·.setMeta key value))

/-- Two sessions are one and the same, which has a property. -/
def Diagonal (property : Session → Prop) (left right : Session) : Prop :=
  left = right ∧ property left

namespace KeptByBodies

variable {property : Session → Prop} (kept : KeptByBodies property) {session : Session}

include kept

theorem congruence : Congruence (fun _ => True) (Diagonal property) where
  agrees same := ⟨_, _, same.1.symm⟩
  contexts same := contextsLookAlike_of_eq (congrArg contexts same.1)
  readsOnly _ := readsOnly_of_all (fun _ => trivial) _
  record same _ := ⟨congrArg (record · _) same.1, kept.blind same.2 ..⟩
  withIdentity same _ := ⟨by rw [same.1], kept.blind same.2 ..⟩
  withRoutines same _ _ := ⟨by rw [same.1], kept.blind same.2 ..⟩
  enroll same entry := ⟨by rw [same.1], kept.enroll same.2 entry⟩
  withLoop same _ := ⟨by rw [same.1], kept.blind same.2 ..⟩
  withMeta same index key value := ⟨by rw [same.1], kept.withMeta same.2 index key value⟩

theorem addRoutine (holds : property session) (kind : RoutineKind) (name : String)
    (body : Routine) : property (session.addRoutine kind name body).2 :=
  kept.blind holds ..

theorem diagnose (holds : property session) (source : LogSource) (message : String) :
    property (session.diagnose source message) :=
  kept.blind holds ..

variable (library : Library)

theorem resume (holds : property session) (index : Nat) (reply : Reply) :
    property (session.resume library index reply).2 :=
  let readable := library.readsOnly_of_all fun _ => trivial
  (after_resume readable kept.congruence index reply ⟨rfl, holds⟩).2.2

theorem call (holds : property session) (callee : Value) (arguments : Entries) :
    property (session.call library (Session.resume library) callee arguments).2 :=
  let readable := library.readsOnly_of_all fun _ => trivial
  (after_call readable kept.congruence (after_resume readable kept.congruence) ⟨rfl, holds⟩
    callee arguments).2.2

theorem closeRoutine (holds : property session) (index : Nat) :
    property (session.closeRoutine library index).2 :=
  let readable := library.readsOnly_of_all fun _ => trivial
  (after_closeRoutine readable kept.congruence ⟨rfl, holds⟩ index).2.2

end KeptByBodies
end Session
end HtmlStream
