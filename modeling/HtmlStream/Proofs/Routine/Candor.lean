import HtmlStream.Element.Effects
import HtmlStream.Proofs.Routine.Handover

/-!
Which failures come out of bodies. A report is an error that the engine raises itself and that has a
context stack; two of its causes never get one. A body that raises no other reports of its own, as
long as none is raised in it, comes to no others together with everything that it calls, closes and
hands over to. The main statement is `keepsCandor_resume`.
-/
namespace HtmlStream

/-! ## Failures -/

namespace EngineError

/-- Errors with a context stack that the engine raises itself. -/
def IsReport : EngineError → Prop
  | .missingContext .. | .contextCycle .. | .depthExceeded .. => True
  | .runtime (.stated ..) _ => False
  | .runtime .. => True
  | _ => False

/-- Reports that are raised where the context stack is not at hand. -/
inductive IsBlank : EngineError → Prop
  | unsupportedChild (child : Value) : IsBlank (.runtime (.unsupportedChild child) [])
  | unknownWait (pending : Value) : IsBlank (.runtime (.unknownWait pending) [])

end EngineError

/-- A failure that is no report, or else a blank one. -/
def Failure.IsPlain : Failure → Prop
  | .engine error => error.IsReport → error.IsBlank
  | _ => True

/-- A reply that raises nothing but plain failures. -/
def Reply.IsPlain : Reply → Prop
  | .ok _ => True
  | .error failure => failure.IsPlain

def Advanced.IsPlain : Advanced → Prop
  | .failed failure => failure.IsPlain
  | .item _ | .ended => True

def Progress.IsPlain : Progress → Prop
  | .raised failure => failure.IsPlain
  | .produced _ | .waiting _ | .returned _ => True

theorem Failure.isPlain_of_fault {α β : Type} {result : Except Fault α} {next : α → β}
    {failure : Failure} (failed : (result.mapError .fault).map next = .error failure) :
    failure.IsPlain := by
  cases result <;> cases failed
  trivial

theorem Value.isPlain_unsupportedChild (child : Value) : (unsupportedChild child).IsPlain := by
  unfold unsupportedChild
  split
  · exact fun _ => .unsupportedChild child
  · trivial

theorem Value.isPlain_childEffect {child : Value} {failure : Failure}
    (failed : child.childEffect = .error failure) : failure.IsPlain := by
  unfold childEffect at failed
  split at failed
  case h_6 => exact Failure.isPlain_of_fault failed
  case h_11 =>
    split at failed
    case h_3 =>
      cases failed
      exact isPlain_unsupportedChild _
    all_goals cases failed
  case h_12 =>
    cases failed
    exact isPlain_unsupportedChild _
  all_goals cases failed

/-! ## Bodies -/

namespace Routine

/-- Whatever a body is answered, it raises nothing but plain failures, as long as no others are
raised in it. -/
def IsCandid : Routine → Prop
  | .finish result => Reply.IsPlain result
  | .reserve _ next => ∀ first, (next first).IsCandid
  | .act _ next => ∀ reply, Reply.IsPlain reply → (next reply).IsCandid
  | .advance _ next => ∀ advanced, advanced.IsPlain → (next advanced).IsCandid
  | .start body next => body.IsCandid ∧ ∀ task, (next task).IsCandid
  | .suspend _ next => ∀ reply, Reply.IsPlain reply → (next reply).IsCandid

theorem isCandid_yieldAll {effects : List (Except Failure Value)}
    (plain : ∀ failure, .error failure ∈ effects → failure.IsPlain) :
    (yieldAll effects).IsCandid := by
  induction effects with
  | nil => trivial
  | cons effect rest induction =>
      have later := induction fun failure member => plain failure (List.mem_cons_of_mem _ member)
      cases effect with
      | error failure => exact plain failure List.mem_cons_self
      | ok value =>
          intro reply given
          cases reply with
          | ok answer => exact later
          | error failure => exact given

end Routine

theorem Element.isPlain_childEffects {children : List Value} {failure : Failure}
    (member : .error failure ∈ childEffects children) : failure.IsPlain := by
  induction children with
  | nil => cases member
  | cons child rest induction =>
      rw [childEffects] at member
      cases effect : child.childEffect with
      | error other =>
          simp [effect] at member
          subst member
          exact Value.isPlain_childEffect effect
      | ok effect? =>
          cases effect? <;> simp [effect] at member <;> exact induction member

theorem Element.isPlain_effects {node : Element} {failure : Failure}
    (member : .error failure ∈ node.effects) : failure.IsPlain := by
  unfold effects at member
  split at member
  all_goals simp at member
  all_goals exact isPlain_childEffects member

/-- What an element does when it is driven is candid. -/
theorem Element.isCandid_body (node : Element) : node.body.IsCandid := by
  unfold body
  split
  · intro reply given
    cases reply with
    | ok result => exact Routine.isCandid_yieldAll (by simp)
    | error failure => exact given
  · exact Routine.isCandid_yieldAll fun failure => isPlain_effects

namespace RoutineState

/-- What a body still has to do is candid, and so is its outcome. -/
def IsCandid : RoutineState → Prop
  | .unstarted body => body.IsCandid
  | .suspended next | .waiting _ next | .delegating _ next =>
      ∀ reply, Reply.IsPlain reply → (next reply).IsCandid
  | .running => True
  | .finished outcome => Reply.IsPlain outcome

end RoutineState

/-- The components of a library have candid bodies. -/
def Library.IsCandid (library : Library) : Prop :=
  ∀ component ∈ library, ∀ bindings, (component.body bindings).IsCandid

/-! ## The event loop -/

namespace EventLoop

/-- The answers that are due raise nothing but plain failures. -/
def IsPlain (loop : EventLoop) : Prop :=
  ∀ worker reply, .resume worker reply ∈ loop.due → Reply.IsPlain reply

namespace IsPlain

variable {loop : EventLoop} (plain : loop.IsPlain)

include plain

theorem schedule {step : DueStep}
    (answer : ∀ worker reply, step = .resume worker reply → Reply.IsPlain reply) :
    (loop.schedule step).IsPlain := by
  intro worker reply member
  cases List.mem_append.mp member with
  | inl earlier => exact plain worker reply earlier
  | inr last => exact answer worker reply (List.mem_singleton.mp last).symm

theorem resume (worker : Worker) {reply : Reply} (answer : Reply.IsPlain reply) :
    (loop.schedule (.resume worker reply)).IsPlain := by
  apply plain.schedule
  rintro _ _ ⟨⟩
  exact answer

theorem wake (ended : Nat) : (loop.wake ended).IsPlain := by
  intro worker reply member
  cases List.mem_append.mp member with
  | inl earlier => exact plain worker reply earlier
  | inr woken =>
      obtain ⟨⟨waiting, awaited⟩, _, step⟩ := List.mem_filterMap.mp woken
      unfold stepAfter at step
      split at step
      all_goals simp at step
      obtain ⟨_, _, rfl⟩ := step
      trivial

theorem tell (worker : Worker) : (loop.tell worker).IsPlain := by
  have ended : (loop.endWait worker).IsPlain := plain
  unfold EventLoop.tell
  split
  · exact ended.resume worker trivial
  · exact ended.resume worker trivial
  · exact plain

/-- The induction is on how many workers may pass the cancellation on. -/
theorem cancelThrough (links : Nat) (worker : Worker) : (loop.cancelThrough links worker).IsPlain := by
  induction links generalizing loop worker with
  | zero => exact plain
  | succ links induction =>
      have ended : (loop.endWait worker).IsPlain := plain
      unfold EventLoop.cancelThrough
      split
      · intro other reply member
        obtain ⟨step, due, cancelled⟩ := List.mem_map.mp member
        cases step with
        | tell => cases cancelled
        | resume taker answer =>
            cases cancelled
            split
            · trivial
            · exact plain _ _ due
      · split
        · exact induction plain _
        · next count _ _ =>
            dsimp only
            generalize List.range count = renders
            have told : ((loop.endWait worker).beginWait worker (.renders count true)).IsPlain :=
              plain
            generalize (loop.endWait worker).beginWait worker _ = between at told
            induction renders generalizing between with
            | nil => exact told
            | cons render rest later => exact later _ (induction told _)
        · exact ended.resume worker trivial
        · exact plain

theorem cancel (worker : Worker) : (loop.cancel worker).IsPlain :=
  plain.cancelThrough _ worker

end IsPlain

end EventLoop

/-! ## Sessions -/

namespace Session

/-- All bodies of a session are candid, and so are the answers that are due. -/
structure IsCandid (session : Session) : Prop where
  routines : ∀ index object, session.routine? index = some object → object.state.IsCandid
  due : session.loop.IsPlain

namespace IsCandid

variable {session after : Session}

/-- Nothing else of a session matters. -/
theorem of_eq (candid : session.IsCandid) (routines : after.routines = session.routines)
    (due : after.loop.due = session.loop.due) : after.IsCandid where
  routines index object found := by
    rw [routine?, routines] at found
    exact candid.routines index object found
  due worker reply member := by
    rw [due] at member
    exact candid.due worker reply member

theorem setState (candid : session.IsCandid) (index : Nat) {state : RoutineState}
    (stateIsCandid : state.IsCandid) : (session.setState index state).IsCandid where
  routines other object found := by
    unfold routine? Session.setState at found
    rw [Array.getElem?_modify] at found
    split at found
    · obtain ⟨before, _, rfl⟩ := Option.map_eq_some_iff.mp found
      exact stateIsCandid
    · exact candid.routines other object found
  due := candid.due

theorem addRoutine (candid : session.IsCandid) (kind : RoutineKind) (name : String)
    {body : Routine} (bodyIsCandid : body.IsCandid) :
    (session.addRoutine kind name body).2.IsCandid where
  routines index object found := by
    unfold routine? Session.addRoutine at found
    rw [Array.getElem?_push] at found
    split at found
    · cases found
      exact bodyIsCandid
    · exact candid.routines index object found
  due := candid.due

theorem withLoop (candid : session.IsCandid) {change : EventLoop → EventLoop}
    (plain : (change session.loop).IsPlain) : (session.withLoop change).IsCandid where
  routines := candid.routines
  due := plain

theorem schedule (candid : session.IsCandid) {worker : Worker} {reply : Reply}
    (plain : Reply.IsPlain reply) : (session.schedule (.resume worker reply)).IsCandid :=
  candid.withLoop (candid.due.resume worker plain)

theorem startTask (candid : session.IsCandid) {body : Routine} (bodyIsCandid : body.IsCandid) :
    (session.startTask body).2.IsCandid := by
  have added := candid.addRoutine .coroutine "task" bodyIsCandid
  have placed : ((session.addRoutine .coroutine "task" body).2.withLoop fun loop =>
      loop.setContext (.task session.routines.size) session.current).IsCandid :=
    added.of_eq rfl rfl
  have answer : Reply.IsPlain (.ok .null) := trivial
  exact placed.schedule answer

end IsCandid

/-- Something is over with a reply, and the session is candid. -/
def Candidly (result : Reply × Session) : Prop :=
  Reply.IsPlain result.1 ∧ result.2.IsCandid

/-- A body has got further with something plain, and the session is candid. -/
def Plainly (advanced : Progress × Session) : Prop :=
  advanced.1.IsPlain ∧ advanced.2.IsCandid

/-- A way to advance bodies by which only plain failures come out of candid bodies. -/
def KeepsCandor (resume : Resumption) : Prop :=
  ∀ index {reply} {session : Session}, Reply.IsPlain reply → session.IsCandid →
    Plainly (resume index reply session)

/-! ## Actions -/

section Actions

theorem isPlain_lookup (session : Session) (name : String) :
    Reply.IsPlain (session.lookup name) := by
  unfold lookup
  split <;> trivial

variable {library : Library} {resume : Resumption} {session : Session}
  (candidLibrary : library.IsCandid) (keeps : KeepsCandor resume) (candid : session.IsCandid)

include candid

theorem candidly_withContext {use : Nat → RenderContext → Reply × Session}
    (used : ∀ index context, Candidly (use index context)) :
    Candidly (session.withContext use) := by
  unfold withContext
  split
  · exact ⟨trivial, candid⟩
  · split
    · exact ⟨trivial, candid⟩
    · exact used _ _

theorem candidly_register (key source : Value) : Candidly (session.register key source) := by
  unfold register
  split
  · exact ⟨trivial, candid.of_eq rfl rfl⟩
  · exact ⟨trivial, candid⟩

theorem isPlain_outcome (index : Nat) : Reply.IsPlain (outcome index session) := by
  unfold outcome
  split
  · next found => exact candid.routines index _ found
  · trivial

include keeps

theorem candid_close (index : Nat) :
    (∀ failure, (close resume index session).1 = some failure → failure.IsPlain) ∧
      (close resume index session).2.IsCandid := by
  have exit : Reply.IsPlain (.error .exit) := trivial
  obtain ⟨plain, after⟩ := keeps index exit candid
  unfold close
  split
  · simpa using candid
  · next object found =>
      cases object.state with
      | unstarted body => exact ⟨nofun, candid.setState index trivial⟩
      | finished outcome => simpa using candid
      | running => exact ⟨fun failure equal => by cases equal; trivial, candid⟩
      | suspended | waiting | delegating =>
          dsimp only
          generalize resume index (.error .exit) session = advanced at plain after
          rcases advanced with ⟨progress, later⟩
          cases progress with
          | returned value => exact ⟨nofun, after⟩
          | raised failure =>
              cases failure with
              | exit => exact ⟨nofun, after⟩
              | _ => exact ⟨fun failure equal => by cases equal; exact plain, after⟩
          | produced | waiting => exact ⟨fun failure equal => by cases equal; trivial, after⟩

theorem candid_release (generators : List Nat) (result : Value) :
    (release resume generators result session).IsCandid := by
  induction generators generalizing session with
  | nil => exact candid
  | cons index rest induction =>
      simp only [release, List.foldl_cons] at induction ⊢
      split
      · exact induction candid
      · exact induction (candid_close keeps candid index).2

theorem candidly_runToEnd (name : String) {body : Routine} (candidBody : body.IsCandid) :
    Candidly (runToEnd resume name body session) := by
  have start : Reply.IsPlain (.ok .null) := trivial
  have added := candid.addRoutine .generator name candidBody
  unfold runToEnd
  generalize session.addRoutine .generator name body = made at added ⊢
  rcases made with ⟨made, between⟩
  obtain ⟨plain, after⟩ := keeps made.index start added
  dsimp only at plain after ⊢
  generalize resume made.index (.ok .null) between = advanced at plain after ⊢
  rcases advanced with ⟨progress, later⟩
  cases progress with
  | raised failure => exact ⟨plain, after⟩
  | _ => exact ⟨trivial, after⟩

include candidLibrary

theorem candidly_callComponent (reference : ComponentReference) (arguments : Entries) :
    Candidly (callComponent library resume reference arguments session) := by
  cases found : library.find? reference with
  | none =>
      unfold callComponent
      rw [found]
      exact ⟨trivial, candid⟩
  | some component =>
      have body := candidLibrary component (List.mem_of_find?_eq_some found)
      rw [callComponent_of_find? found]
      split
      · exact ⟨trivial, candid⟩
      · next bindings _ =>
          split
          · next kind _ =>
              exact ⟨trivial, candid.addRoutine kind reference.name (body bindings)⟩
          · exact candidly_runToEnd keeps candid reference.name (body bindings)

theorem candidly_call (callee : Value) (arguments : Entries) :
    Candidly (call library resume callee arguments session) := by
  unfold call
  split
  · exact candidly_callComponent candidLibrary keeps candid _ arguments
  · unfold mappingOf
    split <;> exact ⟨trivial, candid⟩
  all_goals exact ⟨trivial, candid⟩

theorem candidly_expand (component : Value) (attributes : Entries) (children : List Value) :
    Candidly (expand library resume component attributes children session) := by
  have called := candidly_call candidLibrary keeps candid component
    (Component.argumentsFor (signature? library component) attributes children)
  unfold expand
  dsimp only
  generalize call library resume component _ session = result at called
  rcases result with ⟨reply, after⟩
  obtain ⟨plain, candid⟩ := called
  cases reply with
  | error failure => exact ⟨plain, candid⟩
  | ok result =>
      have refused : Reply.IsPlain (.error (.engine (.invalidComponent component result))) := nofun
      cases result with
      | routine reference =>
          dsimp only
          cases reference.kind with
          | generator | asyncGenerator => exact ⟨trivial, candid⟩
          | coroutine =>
              obtain ⟨plain, closed⟩ := candid_close keeps candid reference.index
              dsimp only
              generalize close resume reference.index after = closing at plain closed
              rcases closing with ⟨failure?, later⟩
              cases failure? with
              | none => exact ⟨refused, closed⟩
              | some failure => exact ⟨plain failure rfl, closed⟩
      | _ => exact ⟨refused, candid⟩

theorem candidly_carryOut (action : Action) :
    Candidly (carryOut library resume action session) := by
  cases action with
  | log value =>
      unfold carryOut
      dsimp only
      split
      · exact ⟨trivial, candid.of_eq rfl rfl⟩
      · exact ⟨trivial, candid⟩
  | lookup name => exact ⟨session.isPlain_lookup name, candid⟩
  | call callee arguments => exact candidly_call candidLibrary keeps candid callee arguments
  | expand component attributes children =>
      exact candidly_expand candidLibrary keeps candid component attributes children
  | readContext field => exact candidly_withContext candid fun _ _ => ⟨trivial, candid⟩
  | readMeta key default => exact candidly_withContext candid fun _ _ => ⟨trivial, candid⟩
  | writeMeta key value =>
      exact candidly_withContext candid fun _ _ => ⟨trivial, candid.of_eq rfl rfl⟩
  | register token provider => exact candidly_register candid token provider
  | discard index => exact ⟨trivial, (candid_close keeps candid index).2⟩
  | release generators result => exact ⟨trivial, candid_release keeps candid generators result⟩
  | outcome index => exact ⟨isPlain_outcome candid index, candid⟩

/-! ## Running -/

omit candidLibrary keeps in
theorem plainly_endBody (index : Nat) (kind : RoutineKind) {result : Reply}
    (plain : Reply.IsPlain result) :
    Plainly (endBody index kind result session) := by
  unfold endBody
  dsimp only
  split
  · exact ⟨trivial, candid.setState index trivial⟩
  · refine ⟨?_, candid.setState index plain⟩
    cases result with
    | ok value => trivial
    | error failure => exact plain

omit candidLibrary in
/-- A body that has handed over stays where it is, or goes on with what the other one came to. -/
theorem plainly_advanceTarget (index : Nat) (kind : RoutineKind) (target : Nat)
    {next : Reply → Routine} (candidNext : ∀ reply, Reply.IsPlain reply → (next reply).IsCandid)
    {reply : Reply} (plain : Reply.IsPlain reply)
    (goesOn : ∀ answer, Reply.IsPlain answer → ∀ after : Session, after.IsCandid →
      Plainly (run library resume index kind (next answer) after)) :
    Plainly (advanceTarget library resume index kind target next reply session) := by
  obtain ⟨plain, after⟩ := keeps target plain candid
  unfold advanceTarget
  generalize resume target reply session = advanced at plain after
  rcases advanced with ⟨progress, later⟩
  cases progress with
  | returned value => exact goesOn (.ok value) trivial later after
  | raised failure => exact goesOn (.error failure) plain later after
  | produced effect | waiting pending => exact ⟨trivial, after.setState index candidNext⟩

/-- A candid body runs. The induction is on what it still has to do. -/
theorem plainly_run (index : Nat) (kind : RoutineKind) {routine : Routine}
    (candidRoutine : routine.IsCandid) :
    Plainly (run library resume index kind routine session) := by
  induction routine generalizing session with
  | finish result => exact plainly_endBody candid index kind candidRoutine
  | reserve count next induction =>
      exact induction _ (candid.of_eq rfl rfl) (candidRoutine _)
  | act action next induction =>
      obtain ⟨plain, after⟩ := candidly_carryOut candidLibrary keeps candid action
      exact induction _ after (candidRoutine _ plain)
  | advance target next induction =>
      have start : Reply.IsPlain (.ok .null) := trivial
      obtain ⟨plain, after⟩ := keeps target start candid
      refine induction _ after (candidRoutine _ ?_)
      generalize (resume target (.ok .null) session).1 = progress at plain
      cases progress with
      | raised failure => exact plain
      | _ => trivial
  | start body next _ induction =>
      exact induction _ (candid.startTask candidRoutine.1) (candidRoutine.2 _)
  | suspend suspension next induction =>
      cases suspension with
      | effect value | wait pending => exact ⟨trivial, candid.setState index candidRoutine⟩
      | delegate target =>
          rw [run_delegate]
          split
          · exact induction _ candid (candidRoutine _ trivial)
          · exact plainly_advanceTarget keeps candid index kind target.index candidRoutine trivial
              fun answer plain _ after => induction answer after (candidRoutine answer plain)
      | iterate node =>
          have opened := candid.addRoutine .generator "element" node.isCandid_body
          rw [run_iterate]
          exact plainly_advanceTarget keeps opened index kind _ candidRoutine trivial
            fun answer plain _ after => induction answer after (candidRoutine answer plain)

theorem plainly_resumeDelegating (index : Nat) (kind : RoutineKind) (target : Nat)
    {next : Reply → Routine} (candidNext : ∀ reply, Reply.IsPlain reply → (next reply).IsCandid)
    {reply : Reply} (plain : Reply.IsPlain reply) :
    Plainly (resumeDelegating library resume index kind target next reply session) := by
  have goesOn (answer : Reply) (plain : answer.IsPlain) (after : Session)
      (candidAfter : after.IsCandid) :
      Plainly (run library resume index kind (next answer) after) :=
    plainly_run candidLibrary keeps candidAfter index kind (candidNext answer plain)
  unfold resumeDelegating
  split
  · obtain ⟨plain, closed⟩ := candid_close keeps candid target
    generalize close resume target session = closing at plain closed
    rcases closing with ⟨failure?, later⟩
    cases failure? with
    | none => exact goesOn (.error .exit) trivial later closed
    | some failure => exact goesOn (.error failure) (plain failure rfl) later closed
  · exact plainly_advanceTarget keeps candid index kind target candidNext plain goesOn

omit candidLibrary keeps candid in
theorem isPlain_resumeFinished (kind : RoutineKind) {reply : Reply}
    (plain : Reply.IsPlain reply) : (resumeFinished kind reply).IsPlain := by
  unfold resumeFinished
  split
  · trivial
  · trivial
  · exact plain

theorem plainly_resumeObject (index : Nat) {object : RoutineObject}
    (candidObject : object.state.IsCandid) {reply : Reply} (plain : Reply.IsPlain reply) :
    Plainly (resumeObject library resume index object reply session) := by
  have running : (session.setState index .running).IsCandid := candid.setState index trivial
  unfold resumeObject
  generalize object.state = state at candidObject
  cases state with
  | unstarted body =>
      dsimp only
      unfold startBody
      split
      · exact plainly_run candidLibrary keeps running index object.kind candidObject
      · exact ⟨trivial, candid⟩
      · exact ⟨plain, candid.setState index plain⟩
  | suspended next | waiting _ next =>
      exact plainly_run candidLibrary keeps running index object.kind (candidObject reply plain)
  | delegating target next =>
      exact plainly_resumeDelegating candidLibrary keeps running index object.kind target
        candidObject plain
  | running => exact ⟨trivial, candid⟩
  | finished outcome => exact ⟨isPlain_resumeFinished object.kind plain, candid⟩

end Actions

/-- The induction is on how many more calls may be nested. -/
theorem keepsCandor_resumeWithin {library : Library} (candidLibrary : library.IsCandid)
    (calls : Nat) : KeepsCandor (resumeWithin library calls) := by
  induction calls with
  | zero => exact fun _ _ _ _ candid => ⟨trivial, candid⟩
  | succ calls induction =>
      intro index reply session plain candid
      unfold resumeWithin
      split
      · exact ⟨trivial, candid⟩
      · next object found =>
          exact plainly_resumeObject candidLibrary induction candid index
            (candid.routines index object found) plain

/-- Whatever candid bodies are advanced with, only plain failures come out of them. -/
theorem keepsCandor_resume {library : Library} (candidLibrary : library.IsCandid) :
    KeepsCandor (resume library) :=
  keepsCandor_resumeWithin candidLibrary callLimit

end Session
end HtmlStream
