import HtmlStream.Proofs.Element.Renumbering
import HtmlStream.Proofs.Routine.Remaining
import HtmlStream.Routine.Resume
import HtmlStream.Routine.Work

/-!
Bodies under other numbers. Two sessions may give different numbers to the bodies and objects that
they have in common, so bodies are compared up to a renumbering. Work that is put together from
pieces that are alike under a renumbering is alike under it.
-/
namespace HtmlStream

/-! ## Bodies -/

namespace Pending

def renumbered (numbers : Renumbering) : Pending → Pending
  | .value awaited => .value (awaited.renumbered numbers)
  | .forever => .forever
  | .task index => .task (numbers.routine index)

def LacksProbe : Pending → Prop
  | .value awaited => awaited.LacksProbe
  | _ => True

instance : Numbered Pending := ⟨renumbered, LacksProbe⟩

end Pending

namespace Suspension

def renumbered (numbers : Renumbering) : Suspension → Suspension
  | .effect value => .effect (value.renumbered numbers)
  | .wait pending => .wait (pending.renumbered numbers)
  | .delegate target => .delegate (Numbered.renumbered numbers target)
  | .iterate node => .iterate (Numbered.renumbered numbers node)

def LacksProbe : Suspension → Prop
  | .effect value => value.LacksProbe
  | .wait pending => pending.LacksProbe
  | .delegate _ => True
  | .iterate node => Numbered.LacksProbe node

instance : Numbered Suspension := ⟨renumbered, LacksProbe⟩

end Suspension

namespace Action

def renumbered (numbers : Renumbering) : Action → Action
  | .log value => .log (value.renumbered numbers)
  | .lookup name => .lookup name
  | .call callee arguments =>
      .call (callee.renumbered numbers) (Numbered.renumbered numbers arguments)
  | .expand component attributes children =>
      .expand (component.renumbered numbers) (Numbered.renumbered numbers attributes)
        (Numbered.renumbered numbers children)
  | .readContext field => .readContext field
  | .readMeta key default => .readMeta key (default.renumbered numbers)
  | .writeMeta key value => .writeMeta key (value.renumbered numbers)
  | .register token provider => .register (token.renumbered numbers) (provider.renumbered numbers)
  | .discard index => .discard (numbers.routine index)
  | .release generators result =>
      .release (generators.map numbers.routine) (result.renumbered numbers)
  | .outcome index => .outcome (numbers.routine index)

def LacksProbe : Action → Prop
  | .log value | .writeMeta _ value | .readMeta _ value | .release _ value => value.LacksProbe
  | .call callee arguments => callee.LacksProbe ∧ Numbered.LacksProbe arguments
  | .expand component attributes children =>
      component.LacksProbe ∧ Numbered.LacksProbe attributes ∧ Numbered.LacksProbe children
  | .register token provider => token.LacksProbe ∧ provider.LacksProbe
  | _ => True

instance : Numbered Action := ⟨renumbered, LacksProbe⟩

end Action

namespace Advanced

def renumbered (numbers : Renumbering) : Advanced → Advanced
  | .item value => .item (value.renumbered numbers)
  | .ended => .ended
  | .failed failure => .failed (failure.renumbered numbers)

def LacksProbe : Advanced → Prop
  | .item value => value.LacksProbe
  | .ended => True
  | .failed failure => failure.LacksProbe

instance : Numbered Advanced := ⟨renumbered, LacksProbe⟩

end Advanced

namespace Progress

def renumbered (numbers : Renumbering) : Progress → Progress
  | .produced effect => .produced (effect.renumbered numbers)
  | .waiting pending => .waiting (pending.renumbered numbers)
  | .returned value => .returned (value.renumbered numbers)
  | .raised failure => .raised (failure.renumbered numbers)

def LacksProbe : Progress → Prop
  | .produced value | .returned value => value.LacksProbe
  | .waiting pending => pending.LacksProbe
  | .raised failure => failure.LacksProbe

instance : Numbered Progress := ⟨renumbered, LacksProbe⟩

end Progress

namespace Routine

/-- Two bodies do the same with different numbers, and neither asks for the number of live
frames. -/
inductive Renumbers (numbers : Renumbering) : Routine → Routine → Prop
  | finish {result : Reply} (lacks : LacksProbe result) :
      Renumbers numbers (.finish result) (.finish (renumbered numbers result))
  | reserve {count : Nat} {next other : Nat → Routine}
      (rest : ∀ first started, (∀ offset < count,
        numbers.identity (first + offset) = started + offset) →
          Renumbers numbers (next first) (other started)) :
      Renumbers numbers (.reserve count next) (.reserve count other)
  | act {action : Action} {next other : Reply → Routine} (lacks : LacksProbe action)
      (rest : ∀ reply, LacksProbe reply →
        Renumbers numbers (next reply) (other (renumbered numbers reply))) :
      Renumbers numbers (.act action next) (.act (renumbered numbers action) other)
  | advance {index : Nat} {next other : Advanced → Routine}
      (rest : ∀ advanced, LacksProbe advanced →
        Renumbers numbers (next advanced) (other (renumbered numbers advanced))) :
      Renumbers numbers (.advance index next) (.advance (numbers.routine index) other)
  | start {body twin : Routine} {next other : RoutineReference → Routine}
      (begun : Renumbers numbers body twin)
      (rest : ∀ task, Renumbers numbers (next task) (other (renumbered numbers task))) :
      Renumbers numbers (.start body next) (.start twin other)
  | suspend {suspension : Suspension} {next other : Reply → Routine} (lacks : LacksProbe suspension)
      (rest : ∀ reply, LacksProbe reply →
        Renumbers numbers (next reply) (other (renumbered numbers reply))) :
      Renumbers numbers (.suspend suspension next) (.suspend (renumbered numbers suspension) other)

/-- What two bodies do once they are answered is the same with different numbers. -/
def ContinuesAs (numbers : Renumbering) (next other : Reply → Routine) : Prop :=
  ∀ reply, LacksProbe reply →
    Renumbers numbers (next reply) (other (renumbered numbers reply))

theorem renumbers_yieldAll (numbers : Renumbering) {effects : List (Except Failure Value)}
    (lack : LacksProbe effects) :
    Renumbers numbers (yieldAll effects) (yieldAll (renumbered numbers effects)) := by
  induction effects with
  | nil => exact @Renumbers.finish numbers (.ok .null) trivial
  | cons effect rest induction =>
      rcases List.forall_mem_cons.mp lack with ⟨first, others⟩
      cases effect with
      | error failure => exact @Renumbers.finish numbers (.error failure) first
      | ok value =>
          refine @Renumbers.suspend numbers (.effect value) _ _ first fun reply lacks => ?_
          cases reply with
          | ok answer => exact induction others
          | error failure => exact @Renumbers.finish numbers (.error failure) lacks

end Routine

theorem Element.renumbers_body (numbers : Renumbering) (node : Element) (lacks : LacksProbe node) :
    Routine.Renumbers numbers node.body (renumbered numbers node).body := by
  have callable : (renumbered numbers node).type.isCallable = node.type.isCallable :=
    Value.isCallable_renumbered numbers node.type
  unfold body
  rw [callable, effects_renumbered]
  split
  · refine @Routine.Renumbers.act numbers (.expand node.type node.attributes node.children) _ _ lacks
      fun reply lacks => ?_
    cases reply with
    | error failure => exact @Routine.Renumbers.finish numbers (.error failure) lacks
    | ok result =>
        exact @Routine.renumbers_yieldAll numbers [.ok result] (List.forall_mem_singleton.mpr lacks)
  · exact Routine.renumbers_yieldAll numbers (lacksProbe_effects node lacks)

/-! ## The event loop -/

namespace Worker

def renumbered (numbers : Renumbering) : Worker → Worker
  | .task index => .task (numbers.routine index)
  | other => other

theorem renumbered_inj (numbers : Renumbering) (left right : Worker) :
    left.renumbered numbers = right.renumbered numbers ↔ left = right := by
  cases left <;> cases right <;> simp [renumbered]

theorem beq_renumbered (numbers : Renumbering) (left right : Worker) :
    (left.renumbered numbers == right.renumbered numbers) = (left == right) := by
  rw [Bool.eq_iff_iff, beq_iff_eq, beq_iff_eq, renumbered_inj]

end Worker

def Awaited.renumbered (numbers : Renumbering) : Awaited → Awaited
  | .task index => .task (numbers.routine index)
  | .beside ended => .beside (ended.map numbers.routine)
  | other => other

namespace DueStep

def renumbered (numbers : Renumbering) : DueStep → DueStep
  | .resume worker reply =>
      .resume (worker.renumbered numbers) (Numbered.renumbered numbers reply)
  | .tell worker => .tell (worker.renumbered numbers)

def LacksProbe : DueStep → Prop
  | .resume _ reply => Numbered.LacksProbe reply
  | .tell _ => True

instance : Numbered DueStep := ⟨renumbered, LacksProbe⟩

end DueStep

instance : Numbered EventLoop where
  renumbered numbers loop :=
    { due := renumbered numbers loop.due
      waits := loop.waits.map fun wait => (wait.1.renumbered numbers, wait.2.renumbered numbers)
      contexts := loop.contexts.map fun entry => (entry.1.renumbered numbers, entry.2) }
  LacksProbe loop := LacksProbe loop.due

namespace EventLoop

variable (numbers : Renumbering)

theorem schedule_renumbered (loop : EventLoop) (step : DueStep) :
    (renumbered numbers loop).schedule (renumbered numbers step)
      = renumbered numbers (loop.schedule step) := by
  have due : renumbered numbers (loop.due ++ [step])
      = renumbered numbers loop.due ++ [renumbered numbers step] := List.map_append ..
  exact congrArg (EventLoop.mk · _ _) due.symm

theorem setContext_renumbered (loop : EventLoop) (worker : Worker) (context : Option Nat) :
    (renumbered numbers loop).setContext (worker.renumbered numbers) context
      = renumbered numbers (loop.setContext worker context) := by
  have others : (renumbered numbers loop).contexts.filter
      (fun entry => entry.1 != worker.renumbered numbers)
        = (loop.contexts.filter fun entry => entry.1 != worker).map
          fun entry => (entry.1.renumbered numbers, entry.2) := by
    refine (List.filter_map ..).trans ?_
    congr 1
    congr 1
    funext entry
    exact congrArg (!·) (Worker.beq_renumbered numbers entry.1 worker)
  unfold setContext
  rw [others]
  rfl

end EventLoop

/-! ## What is taken to what -/

namespace Renumbering

variable {α β γ δ : Type} {numbers : Renumbering}

/-- One thing is the other with different numbers, and nothing in it tells the number of live
frames. -/
structure Takes [Numbered α] (numbers : Renumbering) (left right : α) : Prop where
  lacks : LacksProbe left
  equal : renumbered numbers left = right

theorem takes_nil [Numbered α] : numbers.Takes ([] : List α) [] :=
  ⟨nofun, rfl⟩

theorem takes_cons [Numbered α] {head twin : α} {tail others : List α}
    (first : numbers.Takes head twin) (rest : numbers.Takes tail others) :
    numbers.Takes (head :: tail) (twin :: others) :=
  ⟨List.forall_mem_cons.mpr ⟨first.lacks, rest.lacks⟩,
    congrArg₂ List.cons first.equal rest.equal⟩

theorem takes_pair [Numbered α] [Numbered β] {left twin : α} {right other : β}
    (first : numbers.Takes left twin) (second : numbers.Takes right other) :
    numbers.Takes (left, right) (twin, other) :=
  ⟨⟨first.lacks, second.lacks⟩, congrArg₂ Prod.mk first.equal second.equal⟩

theorem Takes.fst [Numbered α] [Numbered β] {left twin : α × β} (same : numbers.Takes left twin) :
    numbers.Takes left.1 twin.1 :=
  ⟨same.lacks.1, congrArg Prod.fst same.equal⟩

theorem Takes.snd [Numbered α] [Numbered β] {left twin : α × β} (same : numbers.Takes left twin) :
    numbers.Takes left.2 twin.2 :=
  ⟨same.lacks.2, congrArg Prod.snd same.equal⟩

theorem takes_none [Numbered α] : numbers.Takes (none : Option α) none :=
  ⟨lacksProbe_none, rfl⟩

theorem takes_some [Numbered α] {content twin : α} (same : numbers.Takes content twin) :
    numbers.Takes (some content) (some twin) :=
  ⟨lacksProbe_some same.lacks, congrArg some same.equal⟩

theorem Takes.option_cases [Numbered α] {found twin : Option α} (same : numbers.Takes found twin) :
    (found = none ∧ twin = none) ∨
      ∃ content other, found = some content ∧ twin = some other ∧ numbers.Takes content other := by
  rcases same with ⟨lacks, rfl⟩
  cases found with
  | none => exact .inl ⟨rfl, rfl⟩
  | some content => exact .inr ⟨content, _, rfl, rfl, lacks content rfl, rfl⟩

theorem takes_getElem? [Numbered α] {items twins : List α} (same : numbers.Takes items twins)
    (index : Nat) : numbers.Takes items[index]? twins[index]? := by
  rcases same with ⟨lack, rfl⟩
  exact ⟨fun item found => lack item (List.mem_of_getElem? found), (List.getElem?_map ..).symm⟩

theorem takes_list {items twins : List Value} (same : numbers.Takes items twins) :
    numbers.Takes (Value.list items) (.list twins) :=
  ⟨(Value.allLackProbes_iff items).mpr same.lacks,
    congrArg Value.list ((Value.renumberedAll_eq numbers items).trans same.equal)⟩

theorem takes_tuple {items twins : List Value} (same : numbers.Takes items twins) :
    numbers.Takes (Value.tuple items) (.tuple twins) :=
  ⟨(Value.allLackProbes_iff items).mpr same.lacks,
    congrArg Value.tuple ((Value.renumberedAll_eq numbers items).trans same.equal)⟩

theorem takes_mapping {entries twins : Entries} (same : numbers.Takes entries twins) :
    numbers.Takes (Value.mapping entries) (.mapping twins) :=
  ⟨(Value.entriesLackProbes_iff entries).mpr same.lacks,
    congrArg Value.mapping ((Value.renumberedEntries_eq numbers entries).trans same.equal)⟩

/-- What a collection holds. -/
theorem takes_items {items : List Value} (lack : Value.AllLackProbes items) :
    numbers.Takes items (Value.renumberedAll numbers items) :=
  ⟨(Value.allLackProbes_iff items).mp lack, (Value.renumberedAll_eq numbers items).symm⟩

theorem takes_entries {entries : Entries} (lack : Value.EntriesLackProbes entries) :
    numbers.Takes entries (Value.renumberedEntries numbers entries) :=
  ⟨(Value.entriesLackProbes_iff entries).mp lack, (Value.renumberedEntries_eq numbers entries).symm⟩

theorem takes_fault {fault twin : Fault} (same : numbers.Takes fault twin) :
    numbers.Takes (Failure.fault fault) (.fault twin) :=
  ⟨same.lacks, congrArg Failure.fault same.equal⟩

theorem takes_plainFault {fault : Fault} (plain : fault.ShowsNone) : numbers.Takes fault fault :=
  ⟨plain.2, plain.1 numbers⟩

theorem takes_iff_forall₂ [Numbered α] {items twins : List α} :
    numbers.Takes items twins ↔ List.Forall₂ numbers.Takes items twins := by
  constructor
  · rintro ⟨lack, rfl⟩
    induction items with
    | nil => exact .nil
    | cons head tail induction =>
        rcases List.forall_mem_cons.mp lack with ⟨first, others⟩
        exact .cons ⟨first, rfl⟩ (induction others)
  · intro same
    induction same with
    | nil => exact takes_nil
    | cons first _ induction => exact takes_cons first induction

/-! ## Computations -/

/-- Two computations end with results that are related, or fail in the same way. -/
inductive EndsAlike {ε : Type} [Numbered ε] (numbers : Renumbering) (related : α → β → Prop) :
    Except ε α → Except ε β → Prop
  | ok {result twin} (same : related result twin) :
      EndsAlike numbers related (.ok result) (.ok twin)
  | error {problem twin} (same : numbers.Takes problem twin) :
      EndsAlike numbers related (.error problem) (.error twin)

namespace EndsAlike

variable {ε : Type} [Numbered ε] {related : α → β → Prop} {later : γ → δ → Prop}

theorem of_takes [Numbered α] {result twin : Except ε α} (same : numbers.Takes result twin) :
    numbers.EndsAlike numbers.Takes result twin := by
  rcases same with ⟨lacks, rfl⟩
  cases result with
  | ok result => exact .ok ⟨lacks, rfl⟩
  | error problem => exact .error ⟨lacks, rfl⟩

theorem takes [Numbered α] {result twin : Except ε α}
    (same : numbers.EndsAlike numbers.Takes result twin) : numbers.Takes result twin := by
  cases same with
  | ok same => exact ⟨same.lacks, congrArg Except.ok same.equal⟩
  | error same => exact ⟨same.lacks, congrArg Except.error same.equal⟩

theorem bind {first : Except ε α} {twin : Except ε β} {next : α → Except ε γ}
    {other : β → Except ε δ} (same : numbers.EndsAlike related first twin)
    (rest : ∀ {result reply}, related result reply →
      numbers.EndsAlike later (next result) (other reply)) :
    numbers.EndsAlike later (first >>= next) (twin >>= other) := by
  cases same with
  | ok same => exact rest same
  | error same => exact .error same

theorem mapM {items : List α} {twins : List β} (same : List.Forall₂ related items twins)
    {work : α → Except ε γ} {other : β → Except ε δ}
    (each : ∀ {item twin}, related item twin →
      numbers.EndsAlike later (work item) (other twin)) :
    numbers.EndsAlike (List.Forall₂ later) (items.mapM work) (twins.mapM other) := by
  induction same with
  | nil => exact .ok .nil
  | cons first rest induction =>
      rw [List.mapM_cons, List.mapM_cons]
      exact (each first).bind fun result => induction.bind fun results => .ok (.cons result results)

theorem ite {condition : Prop} [Decidable condition] {yes no : Except ε α} {twin other : Except ε β}
    (same : numbers.EndsAlike related yes twin) (otherwise : numbers.EndsAlike related no other) :
    numbers.EndsAlike related (if condition then yes else no)
      (if condition then twin else other) := by
  split
  · exact same
  · exact otherwise

theorem map {result : Except ε α} {twin : Except ε β} {make : α → γ} {other : β → δ}
    (same : numbers.EndsAlike related result twin)
    (each : ∀ {content taken}, related content taken → later (make content) (other taken)) :
    numbers.EndsAlike later (result.map make) (twin.map other) := by
  cases same with
  | ok same => exact .ok (each same)
  | error same => exact .error same

theorem mapM_eq {items : List α} {twins : List β} (same : List.Forall₂ related items twins)
    {work : α → Except ε γ} {other : β → Except ε γ}
    (each : ∀ {item twin}, related item twin → numbers.EndsAlike Eq (work item) (other twin)) :
    numbers.EndsAlike Eq (items.mapM work) (twins.mapM other) := by
  have results := mapM same each
  rwa [List.forall₂_eq_eq_eq] at results

theorem foldlM {items : List α} {twins : List β} (same : List.Forall₂ related items twins)
    {step : γ → α → Except ε γ} {pace : δ → β → Except ε δ}
    (each : ∀ {before twin item other}, later before twin → related item other →
      numbers.EndsAlike later (step before item) (pace twin other))
    {before : γ} {twin : δ} (start : later before twin) :
    numbers.EndsAlike later (items.foldlM step before) (twins.foldlM pace twin) := by
  induction same generalizing before twin with
  | nil => exact .ok start
  | cons first _ induction =>
      rw [List.foldlM_cons, List.foldlM_cons]
      exact (each start first).bind induction

theorem mapError {result : Except ε α} {twin : Except ε β} {φ : Type} [Numbered φ] {make : ε → φ}
    (same : numbers.EndsAlike related result twin)
    (kept : ∀ {problem other}, numbers.Takes problem other →
      numbers.Takes (make problem) (make other)) :
    numbers.EndsAlike related (result.mapError make) (twin.mapError make) := by
  cases same with
  | ok same => exact .ok same
  | error same => exact .error (kept same)

theorem mapError_self {φ : Type} (result : Except φ α) {make : φ → ε}
    (plain : ∀ problem, numbers.Takes (make problem) (make problem)) :
    numbers.EndsAlike Eq (result.mapError make) (result.mapError make) := by
  cases result with
  | ok result => exact .ok rfl
  | error problem => exact .error (plain problem)

/-- What no number comes into is like itself. -/
theorem self {result : Except Fault α} (plain : ∀ fault, result = .error fault → fault.ShowsNone) :
    numbers.EndsAlike Eq result result := by
  cases result with
  | ok result => exact .ok rfl
  | error fault => exact .error (takes_plainFault (plain fault rfl))

end EndsAlike

/-! ## Work -/

instance : LawfulMonad Work :=
  LawfulMonad.mk' Work
    (fun work => funext fun rest =>
      congrArg work (funext fun result => by cases result <;> rfl))
    (fun _ _ => rfl)
    (fun work _ _ => funext fun rest =>
      congrArg work (funext fun result => by cases result <;> rfl))

/-- What goes on alike after two pieces of work does the same with different numbers. -/
def WorksAlike (numbers : Renumbering) (related : α → β → Prop) (work : Work α) (twin : Work β) :
    Prop :=
  ∀ next other, (∀ result reply, numbers.EndsAlike related result reply →
    (next result).Renumbers numbers (other reply)) → (work next).Renumbers numbers (twin other)

namespace WorksAlike

variable {related : α → β → Prop} {later : γ → δ → Prop}

theorem ofExcept {result : Except Failure α} {twin : Except Failure β}
    (same : numbers.EndsAlike related result twin) :
    numbers.WorksAlike related (Work.ofExcept result) (Work.ofExcept twin) :=
  fun _ _ rest => rest _ _ same

theorem pure {result : α} {twin : β} (same : related result twin) :
    numbers.WorksAlike related (Pure.pure result) (Pure.pure twin) :=
  ofExcept (.ok same)

theorem fail {failure twin : Failure} (same : numbers.Takes failure twin) :
    numbers.WorksAlike related (Work.fail failure) (Work.fail twin) :=
  ofExcept (.error same)

theorem ofFault {result : Except Fault α} {twin : Except Fault β}
    (same : numbers.EndsAlike related result twin) :
    numbers.WorksAlike related (Work.ofFault result) (Work.ofFault twin) :=
  ofExcept (same.mapError takes_fault)

theorem bind {work : Work α} {twin : Work β} {next : α → Work γ} {other : β → Work δ}
    (same : numbers.WorksAlike related work twin)
    (rest : ∀ {result reply}, related result reply →
      numbers.WorksAlike later (next result) (other reply)) :
    numbers.WorksAlike later (work >>= next) (twin >>= other) := by
  intro onward onwardToo onwards
  refine same _ _ fun result reply ends => ?_
  cases ends with
  | ok same => exact rest same onward onwardToo onwards
  | error same => exact onwards _ _ (.error same)

theorem ite {condition : Prop} [Decidable condition] {yes no : Work α} {twin other : Work β}
    (same : numbers.WorksAlike related yes twin) (otherwise : numbers.WorksAlike related no other) :
    numbers.WorksAlike related (if condition then yes else no)
      (if condition then twin else other) := by
  split
  · exact same
  · exact otherwise

theorem attempt {work : Work α} {twin : Work β} (same : numbers.WorksAlike related work twin) :
    numbers.WorksAlike (numbers.EndsAlike related) work.attempt twin.attempt :=
  fun _ _ rest => same _ _ fun _ _ ends => rest _ _ (.ok ends)

theorem act {action deed : Action} (same : numbers.Takes action deed) :
    numbers.WorksAlike numbers.Takes (Work.act action) (Work.act deed) := by
  rcases same with ⟨lacks, rfl⟩
  exact fun _ _ rest => .act lacks fun reply lacks => rest reply _ (.of_takes ⟨lacks, rfl⟩)

theorem suspend {suspension pause : Suspension} (same : numbers.Takes suspension pause) :
    numbers.WorksAlike numbers.Takes (Work.suspend suspension) (Work.suspend pause) := by
  rcases same with ⟨lacks, rfl⟩
  exact fun _ _ rest => .suspend lacks fun reply lacks => rest reply _ (.of_takes ⟨lacks, rfl⟩)

/-- Fresh identities are taken to fresh ones. -/
theorem reserve (numbers : Renumbering) (count : Nat) :
    numbers.WorksAlike
      (fun first started => ∀ offset < count, numbers.identity (first + offset) = started + offset)
      (Work.reserve count) (Work.reserve count) :=
  fun _ _ rest => .reserve fun _ _ fresh => rest _ _ (.ok fresh)

theorem advance (numbers : Renumbering) (index : Nat) :
    numbers.WorksAlike numbers.Takes (Work.advance index) (Work.advance (numbers.routine index)) :=
  fun _ _ rest => .advance fun advanced lacks => rest (.ok advanced) _ (.ok ⟨lacks, rfl⟩)

theorem start {body twin : Routine} (begun : body.Renumbers numbers twin) :
    numbers.WorksAlike numbers.Takes (Work.start body) (Work.start twin) :=
  fun _ _ rest => .start begun fun task => rest (.ok task) _ (.ok ⟨trivial, rfl⟩)

theorem mapM {items : List α} {twins : List β} (same : List.Forall₂ related items twins)
    {work : α → Work γ} {other : β → Work δ}
    (each : ∀ {item twin}, related item twin → numbers.WorksAlike later (work item) (other twin)) :
    numbers.WorksAlike (List.Forall₂ later) (items.mapM work) (twins.mapM other) := by
  induction same with
  | nil => exact .pure .nil
  | cons first rest induction =>
      rw [List.mapM_cons, List.mapM_cons]
      exact (each first).bind fun result => induction.bind fun results =>
        .pure (.cons result results)

theorem mono {work : Work α} {twin : Work β} {weaker : α → β → Prop}
    (same : numbers.WorksAlike related work twin)
    (weaken : ∀ {result reply}, related result reply → weaker result reply) :
    numbers.WorksAlike weaker work twin := by
  refine fun _ _ rest => same _ _ fun _ _ ends => rest _ _ ?_
  cases ends with
  | ok same => exact .ok (weaken same)
  | error same => exact .error same

theorem toRoutine {work twin : Work Value} (same : numbers.WorksAlike numbers.Takes work twin) :
    work.toRoutine.Renumbers numbers twin.toRoutine := by
  refine same _ _ fun result reply ends => ?_
  rcases ends.takes with ⟨lacks, rfl⟩
  exact .finish lacks

end WorksAlike
end Renumbering
end HtmlStream
