import HtmlStream.Proofs.Routine.Correspondence
import HtmlStream.Proofs.Routine.Handover

/-!
Bodies that cannot tell numbers. Where no component reads anything but the meaning of a number,
sessions that correspond are advanced in step: what a body comes to in one of them, its counterpart
comes to in the other. The main statement is `isBlind_resume`.
-/
namespace HtmlStream

/-! ## Components -/

/-- Whatever numbers it is given, a component does the same with them; it may only know those that a
base keeps. It does not ask for the number of live frames. -/
structure Component.IsBlind (base : Pairing) (component : Component) : Prop where
  signature : base.Relates component.signature component.signature
  body : ∀ numbers, base.Allows numbers → ∀ bindings, LacksProbe bindings →
    Routine.Renumbers numbers (component.body bindings)
      (component.body (renumbered numbers bindings))

def Library.IsBlind (base : Pairing) (library : Library) : Prop :=
  ∀ component ∈ library, component.IsBlind base

theorem Element.runs_body {pairing : Pairing} {node twin : Element}
    (nodes : pairing.Relates node twin) : pairing.Runs node.body twin.body := by
  intro numbers allows
  rw [nodes.equal allows]
  exact node.renumbers_body numbers nodes.lacks

namespace Session

/-- Advancing bodies that belong together comes to the same. -/
def IsBlind (base : Pairing) (resume : Resumption) : Prop :=
  ∀ {pairing : Pairing} {left right : Session}, Corresponds base pairing left right →
    ∀ {index other : Nat}, pairing.routine index other →
      ∀ {reply twin : Reply}, pairing.Relates reply twin →
        InStep base pairing left right (resume index reply left) (resume other twin right)

variable {base pairing : Pairing} {left right : Session}

namespace Corresponds

variable (same : Corresponds base pairing left right)

include same

/-- The value is the same on both sides, and says nothing about numbers. -/
theorem inStep_plain {α : Type} [Numbered α] {result : α} (lacks : LacksProbe result)
    (plain : ∀ numbers, renumbered numbers result = result) :
    InStep base pairing left right (result, left) (result, right) :=
  same.inStep (Pairing.relates_self lacks plain)

theorem inStep_setState {α : Type} [Numbered α] {mine yours : α}
    (related : pairing.Relates mine yours) {index other : Nat}
    (paired : pairing.routine index other) {state twin : RoutineState}
    (got : pairing.SameState state twin) :
    InStep base pairing left right (mine, left.setState index state)
      (yours, right.setState other twin) :=
  ⟨pairing, .setState paired state twin, same.setState paired got, related⟩

end Corresponds

/-! ## Actions -/

section Actions

variable {library : Library} {resume : Resumption} (same : Corresponds base pairing left right)
  (blind : IsBlind base resume)

include same blind

theorem inStep_close {index other : Nat} (paired : pairing.routine index other) :
    InStep base pairing left right (close resume index left) (close resume other right) := by
  rcases same.object paired with ⟨⟨kind, mine⟩, ⟨_, yours⟩, onLeft, onRight, ⟨rfl, got⟩⟩
  have quiet : pairing.Relates (none : Option Failure) none := Pairing.relates_none
  have exited := blind same paired
    (show pairing.Relates (.error .exit : Reply) (.error .exit) from
      Pairing.relates_self trivial fun _ => rfl)
  unfold close
  rw [onLeft, onRight]
  cases got with
  | unstarted runs =>
      exact same.inStep_setState quiet paired
        (.finished (Pairing.relates_self trivial fun _ => rfl))
  | finished related => exact same.inStep quiet
  | running =>
      exact same.inStep_plain (lacksProbe_some trivial) fun _ => rfl
  | suspended answers | waiting answers | delegating paired answers =>
      rcases exited.exists with
        ⟨later, progress, twin, leftAfter, rightAfter, onLeft, onRight, grows, sameAfter, related⟩
      dsimp only
      rw [onLeft, onRight]
      refine .after grows ?_
      cases related.sameProgress sameAfter.inhabited with
      | produced | waiting => exact sameAfter.inStep_plain (lacksProbe_some trivial) fun _ => rfl
      | returned => exact sameAfter.inStep Pairing.relates_none
      | @raised failure _ raised =>
          rcases sameAfter.inhabited with ⟨numbers, allows⟩
          cases raised.equal allows
          cases failure with
          | exit => exact sameAfter.inStep Pairing.relates_none
          | _ => exact sameAfter.inStep (Pairing.relates_some raised)

theorem grows_release {generators others : List Nat} {result twin : Value}
    (forced : ∀ numbers, pairing.Allows numbers → others = generators.map numbers.routine)
    (related : pairing.Relates result twin) :
    ∃ later, Grows pairing left right later (release resume generators result left)
        (release resume others twin right) ∧
      Corresponds base later (release resume generators result left)
        (release resume others twin right) := by
  induction generators generalizing pairing left right others with
  | nil =>
      rcases same.inhabited with ⟨numbers, allows⟩
      cases forced numbers allows
      exact ⟨pairing, .refl pairing left right, same⟩
  | cons index rest induction =>
      rcases same.inhabited with ⟨numbers, allows⟩
      cases forced numbers allows
      have paired : pairing.routine index (numbers.routine index) :=
        same.routine_of_forced fun {changed} allowsToo =>
          (List.cons.inj (forced changed allowsToo)).1
      have others (changed : Renumbering) (allowsToo : pairing.Allows changed) :
          rest.map numbers.routine = rest.map changed.routine :=
        (List.cons.inj (forced changed allowsToo)).2
      have held : twin.holds (numbers.routine index) = result.holds index := by
        rw [related.equal allows]
        exact Value.holds_renumbered numbers index result
      simp only [release, List.foldl_cons, List.map_cons] at induction ⊢
      rw [held, same.holds_eq paired]
      split
      · exact induction same others related
      · rcases inStep_close same blind paired with ⟨between, grows, sameAfter, _⟩
        rcases induction sameAfter
          (fun changed allowsToo => others changed (grows.extend.allows allowsToo))
          (grows.extend.relates related) with ⟨later, more, sameLast⟩
        exact ⟨later, grows.trans more, sameLast⟩

variable (libraryBlind : library.IsBlind base)

include libraryBlind

omit blind libraryBlind in
/-- The arguments of a component are bound alike. What it receives beside them is itself, if
anything. -/
theorem relates_bind {component : Component} (componentBlind : component.IsBlind base)
    (reference : ComponentReference) {given other : Entries}
    (related : pairing.Relates given other) :
    pairing.Relates
      (component.signature.bind reference.name
        (if reference.hashable then none else some (.component reference)) given)
      (component.signature.bind reference.name
        (if reference.hashable then none else some (.component reference)) other) := by
  generalize received : (if reference.hashable then none else some (Value.component reference))
    = receiver
  have lacks : LacksProbe receiver := by
    subst received
    split
    · exact lacksProbe_none
    · exact lacksProbe_some trivial
  have plain (numbers : Renumbering) : renumbered numbers receiver = receiver := by
    subst received
    split <;> rfl
  refine ⟨Signature.lacksProbe_bind componentBlind.signature.lacks lacks related.lacks, ?_⟩
  intro numbers allows
  have told := Signature.bind_renumbered numbers component.signature reference.name receiver given
  rwa [plain, ← related.equal allows,
    ← componentBlind.signature.equal (same.extend.allows allows)] at told

omit libraryBlind in
/-- A plain function is run to its end. -/
theorem inStep_runToEnd (name : String) {body begun : Routine} (runs : pairing.Runs body begun) :
    InStep base pairing left right (runToEnd resume name body left)
      (runToEnd resume name begun right) := by
  rcases (same.addRoutine .generator name runs).exists with
    ⟨later, mine, yours, leftAfter, rightAfter, onLeft, onRight, grows, sameAfter, bodies⟩
  have advanced := blind sameAfter (sameAfter.exists_reference bodies).2.2 Pairing.relates_null
  rcases advanced.exists with
    ⟨last, progress, reached, leftLast, rightLast, advancedLeft, advancedRight, more, sameLast, came⟩
  unfold runToEnd
  rw [onLeft, onRight]
  dsimp only
  rw [advancedLeft, advancedRight]
  refine .after grows (.after more ?_)
  cases came.sameProgress sameLast.inhabited with
  | returned values => exact sameLast.inStep (Pairing.relates_ok values)
  | raised failures => exact sameLast.inStep (Pairing.relates_error failures)
  | produced | waiting => exact sameLast.inStep_plain trivial fun _ => rfl

theorem inStep_callComponent (reference : ComponentReference) {given other : Entries}
    (related : pairing.Relates given other) :
    InStep base pairing left right (callComponent library resume reference given left)
      (callComponent library resume reference other right) := by
  cases found : library.find? reference with
  | none =>
      unfold callComponent
      rw [found]
      exact same.inStep_plain trivial fun _ => rfl
  | some component =>
      have componentBlind := libraryBlind component (List.mem_of_find?_eq_some found)
      have bound := relates_bind same componentBlind reference related
      rw [callComponent_of_find? found, callComponent_of_find? found]
      cases given : component.signature.bind reference.name _ given with
      | error fault =>
          rw [given] at bound
          rcases bound.made (fun _ _ => Except.error.inj) (fun _ _ => rfl) same.inhabited
            bound.lacks with ⟨twin, refused, faults⟩
          rw [refused]
          exact same.inStep (Pairing.relates_error (.map isUniform_fault faults))
      | ok bindings =>
          rw [given] at bound
          rcases bound.made (fun _ _ => Except.ok.inj) (fun _ _ => rfl) same.inhabited
            bound.lacks with ⟨twin, accepted, contents⟩
          have runs : pairing.Runs (component.body bindings) (component.body twin) :=
            Pairing.Answers.runs (fun numbers allows =>
              componentBlind.body numbers (same.extend.allows allows)) contents
          rw [accepted]
          dsimp only
          cases component.reference.kind with
          | some kind =>
              rcases (same.addRoutine kind reference.name runs).exists with
                ⟨later, body, begun, leftAfter, rightAfter, onLeft, onRight, grows, sameAfter,
                  bodies⟩
              dsimp only
              rw [onLeft, onRight]
              exact .after grows (sameAfter.inStep
                (Pairing.relates_ok (.map isUniform_routine bodies)))
          | none => exact inStep_runToEnd same blind reference.name runs

omit same blind libraryBlind in
theorem relates_mappingOf {given other : Entries} (related : pairing.Relates given other) :
    pairing.Relates (mappingOf given) (mappingOf other) where
  lacks := by
    have told := Signature.lacksProbe_namedArguments related.lacks
    unfold mappingOf
    cases found : Signature.namedArguments given with
    | error fault =>
        rw [found] at told
        exact told
    | ok named => exact (Value.entriesLackProbes_iff given).mpr related.lacks
  equal {numbers} allows := by
    have told := Signature.namedArguments_renumbered numbers given
    have content := Value.renumberedEntries_eq numbers given
    unfold mappingOf
    rw [related.equal allows, told]
    cases Signature.namedArguments given with
    | error fault => rfl
    | ok named => exact congrArg (fun entries => Except.ok (Value.mapping entries)) content.symm

theorem inStep_call {callee twin : Value} (callees : pairing.Relates callee twin)
    {given other : Entries} (related : pairing.Relates given other) :
    InStep base pairing left right (call library resume callee given left)
      (call library resume twin other right) := by
  rcases same.inhabited with ⟨numbers, allows⟩
  have named := Value.typeName_renumbered numbers callee
  have refused : InStep base pairing left right
      ((.error (.fault (.notCallable callee.typeName)) : Reply), left)
      (.error (.fault (.notCallable (callee.renumbered numbers).typeName)), right) := by
    rw [named]
    exact same.inStep_plain trivial fun _ => rfl
  cases callees.equal allows
  cases callee with
  | component reference => exact inStep_callComponent same blind libraryBlind reference related
  | depthProbe => exact callees.lacks.elim
  | mappingType => exact same.inStep (relates_mappingOf related)
  | _ => exact refused

omit blind libraryBlind in
theorem signature?_eq {component twin : Value} (components : pairing.Relates component twin) :
    signature? library twin = signature? library component := by
  rcases same.inhabited with ⟨numbers, allows⟩
  cases components.equal allows
  cases component <;> rfl

theorem inStep_expand {component twin : Value} (components : pairing.Relates component twin)
    {attributes others : Entries} (given : pairing.Relates attributes others)
    {children items : List Value} (held : pairing.Relates children items) :
    InStep base pairing left right
      (expand library resume component attributes children left)
      (expand library resume twin others items right) := by
  have accepted : pairing.Relates
      (Component.argumentsFor (signature? library component) attributes children)
      (Component.argumentsFor (signature? library component) others items) := {
    lacks := Component.lacksProbe_argumentsFor _ given.lacks held.lacks
    equal := fun {numbers} allows => by
      rw [given.equal allows, held.equal allows]
      exact Component.argumentsFor_renumbered numbers _ attributes children }
  unfold expand
  rw [signature?_eq same components]
  rcases (inStep_call same blind libraryBlind components accepted).exists with
    ⟨later, reply, answer, leftAfter, rightAfter, onLeft, onRight, grows, sameAfter, replies⟩
  dsimp only
  rw [onLeft, onRight]
  refine .after grows ?_
  have found := grows.extend.relates components
  cases reply with
  | error failure =>
      rcases replies.made (fun _ _ => Except.error.inj) (fun _ _ => rfl) sameAfter.inhabited
        replies.lacks with ⟨other, rfl, failures⟩
      exact sameAfter.inStep (Pairing.relates_error failures)
  | ok result =>
      rcases replies.made (fun _ _ => Except.ok.inj) (fun _ _ => rfl) sameAfter.inhabited
        replies.lacks with ⟨outcome, rfl, results⟩
      have refused : later.Relates
          (.error (.engine (.invalidComponent component result)) : Reply)
          (.error (.engine (.invalidComponent twin outcome))) := {
        lacks := ⟨found.lacks, results.lacks⟩
        equal := fun allows => by
          rw [found.equal allows, results.equal allows]
          rfl }
      rcases sameAfter.inhabited with ⟨numbers, allows⟩
      cases results.equal allows
      cases result with
      | routine reference =>
          rcases results.made (fun _ _ => Value.routine.inj) (fun _ _ => rfl) sameAfter.inhabited
            trivial with ⟨other, same, bodies⟩
          cases same
          have paired := (sameAfter.exists_reference bodies).2.2
          rcases reference with ⟨kind, index, name⟩
          cases kind with
          | generator | asyncGenerator => exact sameAfter.inStep (Pairing.relates_ok results)
          | coroutine =>
              rcases (inStep_close sameAfter blind paired).exists with
                ⟨last, closing, other, leftLast, rightLast, onLeft, onRight, more, sameLast, closed⟩
              dsimp only [renumbered, Value.renumbered] at onRight refused ⊢
              rw [onLeft, onRight]
              refine .after more ?_
              rcases closed.option_cases sameLast.inhabited with
                ⟨rfl, rfl⟩ | ⟨failure, raised, rfl, rfl, failures⟩
              · exact sameLast.inStep (more.extend.relates refused)
              · exact sameLast.inStep (Pairing.relates_error failures)
      | _ => exact sameAfter.inStep refused

omit blind libraryBlind in
theorem relates_outcome {index other : Nat} (paired : pairing.routine index other) :
    pairing.Relates (outcome index left) (outcome other right) := by
  rcases same.object paired with ⟨⟨kind, mine⟩, ⟨_, yours⟩, onLeft, onRight, ⟨rfl, got⟩⟩
  unfold outcome
  rw [onLeft, onRight]
  cases got with
  | finished related => exact related
  | _ => exact Pairing.relates_self trivial fun _ => rfl

theorem inStep_carryOut {action deed : Action} (actions : pairing.Relates action deed) :
    InStep base pairing left right (carryOut library resume action left)
      (carryOut library resume deed right) := by
  rcases same.inhabited with ⟨numbers, allows⟩
  cases actions.equal allows
  cases action with
  | log value =>
      have told : (value.renumbered numbers).recordFault? = value.recordFault? :=
        Value.recordFault?_renumbered numbers value
      show InStep base pairing left right (carryOut library resume (.log value) left)
        (carryOut library resume (.log (value.renumbered numbers)) right)
      unfold carryOut
      dsimp only
      rw [told]
      cases found : value.recordFault? with
      | none =>
          exact ⟨pairing, .of_same rfl rfl, same.record _ _,
            Pairing.relates_self trivial fun _ => rfl⟩
      | some fault =>
          have shows := Value.recordFault?_showsNone value fault found
          exact same.inStep (Pairing.relates_error (.map isUniform_fault
            (Pairing.relates_self shows.2 shows.1)))
  | lookup name => exact same.inStep (same.lookup name)
  | call callee arguments =>
      exact inStep_call same blind libraryBlind
        ⟨actions.lacks.1, fun allows => (Action.call.inj (actions.equal allows)).1⟩
        ⟨actions.lacks.2, fun allows => (Action.call.inj (actions.equal allows)).2⟩
  | expand component attributes children =>
      exact inStep_expand same blind libraryBlind
        ⟨actions.lacks.1, fun allows => (Action.expand.inj (actions.equal allows)).1⟩
        ⟨actions.lacks.2.1, fun allows => (Action.expand.inj (actions.equal allows)).2.1⟩
        ⟨actions.lacks.2.2, fun allows => (Action.expand.inj (actions.equal allows)).2.2⟩
  | readContext field => exact same.readContext field
  | readMeta key default =>
      exact same.readMeta key
        ⟨actions.lacks, fun allows => (Action.readMeta.inj (actions.equal allows)).2⟩
  | writeMeta key value =>
      exact same.writeMeta key
        ⟨actions.lacks, fun allows => (Action.writeMeta.inj (actions.equal allows)).2⟩
  | register token provider =>
      exact same.register
        ⟨actions.lacks.1, fun allows => (Action.register.inj (actions.equal allows)).1⟩
        ⟨actions.lacks.2, fun allows => (Action.register.inj (actions.equal allows)).2⟩
  | discard index =>
      have paired := same.routine_of_forced fun allows => Action.discard.inj (actions.equal allows)
      rcases inStep_close same blind paired with ⟨later, grows, sameAfter, _⟩
      exact ⟨later, grows, sameAfter, Pairing.relates_self trivial fun _ => rfl⟩
  | release generators result =>
      rcases grows_release same blind
        (fun _ allows => (Action.release.inj (actions.equal allows)).1)
        ⟨actions.lacks, fun allows => (Action.release.inj (actions.equal allows)).2⟩ with
        ⟨later, grows, sameAfter⟩
      exact ⟨later, grows, sameAfter, Pairing.relates_self trivial fun _ => rfl⟩
  | outcome index =>
      exact same.inStep (relates_outcome same
        (same.routine_of_forced fun allows => Action.outcome.inj (actions.equal allows)))

/-! ## Running -/

omit same blind libraryBlind in
/-- What a body ends with is told apart by its constructors alone. -/
theorem relates_ofReply {result twin : Reply} (related : pairing.Relates result twin) :
    pairing.Relates (Progress.ofReply result) (Progress.ofReply twin) := by
  refine .map ⟨fun numbers content => ?_, fun content lacks => ?_⟩ related
  · cases content <;> rfl
  · cases content <;> exact lacks

omit blind libraryBlind in
theorem inStep_endBody {index other : Nat} (paired : pairing.routine index other)
    (kind : RoutineKind) {result twin : Reply} (related : pairing.Relates result twin) :
    InStep base pairing left right (endBody index kind result left)
      (endBody other kind twin right) := by
  have plainly : InStep base pairing left right
      (Progress.ofReply result, left.setState index (.finished result))
      (Progress.ofReply twin, right.setState other (.finished twin)) :=
    same.inStep_setState (relates_ofReply related) paired (.finished related)
  rcases same.inhabited with ⟨numbers, allows⟩
  cases kind with
  | generator | coroutine => exact plainly
  | asyncGenerator =>
      cases related.equal allows
      cases result with
      | ok value => exact plainly
      | error failure =>
          cases failure with
          | raised failed message =>
              cases failed with
              | endOfAsyncIteration =>
                  have escaped : pairing.Relates (.error (.fault .endOfIterationEscaped) : Reply)
                      (.error (.fault .endOfIterationEscaped)) :=
                    Pairing.relates_self trivial fun _ => rfl
                  exact same.inStep_setState (relates_ofReply escaped) paired (.finished escaped)
              | _ => exact plainly
          | _ => exact plainly

omit blind libraryBlind in
theorem isAwaited_of_corresponds {target twin : RoutineReference} (related : pairing.Relates target twin) :
    right.isAwaited twin = left.isAwaited target := by
  rcases same.exists_reference related with ⟨kind, _, paired⟩
  rcases same.object paired with ⟨⟨_, mine⟩, ⟨_, yours⟩, onLeft, onRight, ⟨rfl, got⟩⟩
  unfold isAwaited
  rw [onLeft, onRight, kind]
  cases got <;> rfl

omit same blind libraryBlind in
theorem relates_advancedBy {progress twin : Progress} (came : pairing.SameProgress progress twin) :
    pairing.Relates (advancedBy progress) (advancedBy twin) := by
  cases came with
  | produced related => exact .map isUniform_item related
  | raised related => exact .map isUniform_failed related
  | returned | waiting => exact Pairing.relates_self trivial fun _ => rfl

omit libraryBlind in
/-- Bodies that have handed over stay where they are, or go on with what the other ones came to. -/
theorem inStep_advanceTarget {index other : Nat} (paired : pairing.routine index other)
    (kind : RoutineKind) {target match? : Nat} (taken : pairing.routine target match?)
    {next onward : Reply → Routine} (answers : pairing.Answers next onward) {reply twin : Reply}
    (replies : pairing.Relates reply twin)
    (goesOn : ∀ {later : Pairing} {leftAfter rightAfter : Session} {answer answerToo : Reply},
      Corresponds base later leftAfter rightAfter → later.routine index other →
      later.Runs (next answer) (onward answerToo) →
      InStep base later leftAfter rightAfter
        (run library resume index kind (next answer) leftAfter)
        (run library resume other kind (onward answerToo) rightAfter)) :
    InStep base pairing left right
      (advanceTarget library resume index kind target next reply left)
      (advanceTarget library resume other kind match? onward twin right) := by
  rcases (blind same taken replies).exists with
    ⟨later, progress, came, leftAfter, rightAfter, onLeft, onRight, grows, sameAfter, related⟩
  have onwards := grows.extend.answers answers
  have here := grows.extend.routine paired
  unfold advanceTarget
  rw [onLeft, onRight]
  refine .after grows ?_
  cases related.sameProgress sameAfter.inhabited with
  | returned values => exact goesOn sameAfter here (onwards.runs (Pairing.relates_ok values))
  | raised failures => exact goesOn sameAfter here (onwards.runs (Pairing.relates_error failures))
  | produced | waiting =>
      exact sameAfter.inStep_setState related here
        (.delegating (grows.extend.routine taken) onwards)

/-- Two runs of bodies that do the same. The induction is on what they still have to do. -/
theorem inStep_run {index other : Nat} (paired : pairing.routine index other) (kind : RoutineKind)
    {routine twin : Routine} (runs : pairing.Runs routine twin) :
    InStep base pairing left right (run library resume index kind routine left)
      (run library resume other kind twin right) := by
  induction routine generalizing pairing left right twin with
  | finish result =>
      rcases runs.finish same.inhabited with ⟨result', rfl, related⟩
      exact inStep_endBody same paired kind related
  | reserve count next induction =>
      rcases runs.reserve same.inhabited with ⟨onward, rfl, onwards⟩
      have sameAfter := same.reserve count
      exact .after (Corresponds.grows_reserve count)
        (induction _ sameAfter paired (onwards left.nextIdentity right.nextIdentity))
  | act action next induction =>
      rcases runs.act same.inhabited with ⟨deed, onward, rfl, actions, answers⟩
      rcases (inStep_carryOut same blind libraryBlind actions).exists with
        ⟨later, reply, answer, leftAfter, rightAfter, onLeft, onRight, grows, sameAfter, replies⟩
      unfold run
      rw [onLeft, onRight]
      exact .after grows (induction reply sameAfter (grows.extend.routine paired)
        ((grows.extend.answers answers).runs replies))
  | advance target next induction =>
      rcases runs.advance same.inhabited with ⟨match?, onward, rfl, forced, answers⟩
      have targets := same.routine_of_forced fun {numbers} allows => forced numbers allows
      rcases (blind same targets Pairing.relates_null).exists with
        ⟨later, progress, came, leftAfter, rightAfter, onLeft, onRight, grows, sameAfter, related⟩
      unfold run
      rw [onLeft, onRight]
      exact .after grows (induction _ sameAfter (grows.extend.routine paired)
        ((grows.extend.answers answers).runs
          (relates_advancedBy (related.sameProgress sameAfter.inhabited))))
  | start body next _ induction =>
      rcases runs.start same.inhabited with ⟨begun, onward, rfl, starts, answers⟩
      rcases (same.startTask starts).exists with
        ⟨later, task, other, leftAfter, rightAfter, onLeft, onRight, grows, sameAfter, tasks⟩
      unfold run
      rw [onLeft, onRight]
      exact .after grows (induction task sameAfter (grows.extend.routine paired)
        ((grows.extend.answers answers).runs tasks))
  | suspend suspension next induction =>
      rcases runs.suspend same.inhabited with ⟨pause, onward, rfl, suspensions, answers⟩
      cases suspension with
      | effect value =>
          rcases suspensions.made (fun _ _ => Suspension.effect.inj) (fun _ _ => rfl)
            same.inhabited suspensions.lacks with ⟨effect, rfl, effects⟩
          exact same.inStep_setState (.map isUniform_produced effects) paired (.suspended answers)
      | wait pending =>
          rcases suspensions.made (fun _ _ => Suspension.wait.inj) (fun _ _ => rfl)
            same.inhabited suspensions.lacks with ⟨awaited, rfl, waits⟩
          exact same.inStep_setState (.map isUniform_waiting waits) paired (.waiting answers)
      | delegate target =>
          rcases suspensions.made (fun _ _ => Suspension.delegate.inj) (fun _ _ => rfl)
            same.inhabited trivial with ⟨match?, rfl, targets⟩
          have taken := (same.exists_reference targets).2.2
          rw [run_delegate, run_delegate, isAwaited_of_corresponds same targets]
          split
          · exact induction _ same paired (answers.runs
              (show pairing.Relates (.error (.fault .coroutineAwaitedTwice) : Reply) _ from
                Pairing.relates_self trivial fun _ => rfl))
          · exact inStep_advanceTarget same blind paired kind taken answers Pairing.relates_null
              fun sameAfter here onwards => induction _ sameAfter here onwards
      | iterate node =>
          rcases suspensions.made (fun _ _ => Suspension.iterate.inj) (fun _ _ => rfl)
            same.inhabited suspensions.lacks with ⟨twin, rfl, nodes⟩
          rcases (same.addRoutine .generator "element" (Element.runs_body nodes)).exists with
            ⟨between, target, match?, leftOpened, rightOpened, onLeft, onRight, opened, sameOpened,
              targets⟩
          have taken := (sameOpened.exists_reference targets).2.2
          rw [run_iterate, run_iterate, onLeft, onRight]
          exact .after opened (inStep_advanceTarget sameOpened blind (opened.extend.routine paired)
            kind taken (opened.extend.answers answers) Pairing.relates_null
            fun sameAfter here onwards => induction _ sameAfter here onwards)

theorem inStep_resumeDelegating {index other : Nat} (paired : pairing.routine index other)
    (kind : RoutineKind) {target match? : Nat} (taken : pairing.routine target match?)
    {next onward : Reply → Routine} (answers : pairing.Answers next onward) {reply twin : Reply}
    (replies : pairing.Relates reply twin) :
    InStep base pairing left right
      (resumeDelegating library resume index kind target next reply left)
      (resumeDelegating library resume other kind match? onward twin right) := by
  have advanced : InStep base pairing left right
      (advanceTarget library resume index kind target next reply left)
      (advanceTarget library resume other kind match? onward twin right) :=
    inStep_advanceTarget same blind paired kind taken answers replies
      fun sameAfter here onwards => inStep_run sameAfter blind libraryBlind here kind onwards
  rcases same.inhabited with ⟨numbers, allows⟩
  cases replies.equal allows
  cases reply with
  | ok answer => exact advanced
  | error failure =>
      cases failure with
      | exit =>
          rcases (inStep_close same blind taken).exists with
            ⟨later, closing, other, leftAfter, rightAfter, onLeft, onRight, grows, sameAfter, closed⟩
          have onwards := grows.extend.answers answers
          have here := grows.extend.routine paired
          show InStep base pairing left right
            (resumeDelegating library resume index kind target next (.error .exit) left)
            (resumeDelegating library resume _ kind match? onward (.error .exit) right)
          unfold resumeDelegating
          dsimp only
          rw [onLeft, onRight]
          refine .after grows ?_
          rcases closed.option_cases sameAfter.inhabited with
            ⟨rfl, rfl⟩ | ⟨failure, raised, rfl, rfl, failures⟩
          · exact inStep_run sameAfter blind libraryBlind here kind
              (onwards.runs (show later.Relates (.error .exit : Reply) (.error .exit) from
                Pairing.relates_self trivial fun _ => rfl))
          · exact inStep_run sameAfter blind libraryBlind here kind
              (onwards.runs (Pairing.relates_error failures))
      | _ => exact advanced

omit same blind libraryBlind in
theorem relates_resumeFinished (kind : RoutineKind) {reply twin : Reply}
    (replies : pairing.Relates reply twin) :
    pairing.Relates (resumeFinished kind reply) (resumeFinished kind twin) := by
  refine .map ⟨fun numbers content => ?_, fun content lacks => ?_⟩ replies
  · cases kind <;> cases content <;> rfl
  · cases kind <;> cases content <;> trivial

theorem inStep_startBody {index other : Nat} (paired : pairing.routine index other)
    (kind : RoutineKind) {body begun : Routine} (runs : pairing.Runs body begun)
    {reply twin : Reply} (replies : pairing.Relates reply twin) :
    InStep base pairing left right (startBody library resume index kind body reply left)
      (startBody library resume other kind begun twin right) := by
  rcases same.inhabited with ⟨numbers, allows⟩
  cases replies.equal allows
  cases reply with
  | error failure =>
      have raised : pairing.Relates failure (renumbered numbers failure) :=
        ⟨replies.lacks, fun allows => Except.error.inj (replies.equal allows)⟩
      exact same.inStep_setState (.map isUniform_raised raised) paired (.finished replies)
  | ok answer =>
      cases answer with
      | null =>
          exact .after (.setState paired .running .running)
            (inStep_run (same.setState paired .running) blind libraryBlind paired kind runs)
      | _ => exact same.inStep_plain trivial fun _ => rfl

theorem inStep_resumeObject {index other : Nat} (paired : pairing.routine index other)
    {mine yours : RoutineObject} (objects : pairing.RelatesObject mine yours)
    {reply twin : Reply} (replies : pairing.Relates reply twin) :
    InStep base pairing left right (resumeObject library resume index mine reply left)
      (resumeObject library resume other yours twin right) := by
  have running := same.setState paired .running
  have runs : Grows pairing left right pairing (left.setState index .running)
      (right.setState other .running) := .setState paired .running .running
  rcases mine with ⟨_, mine⟩
  rcases yours with ⟨kind, yours⟩
  rcases objects with ⟨rfl, got⟩
  cases got with
  | unstarted begins => exact inStep_startBody same blind libraryBlind paired kind begins replies
  | suspended answers | waiting answers =>
      exact .after runs
        (inStep_run running blind libraryBlind paired kind (answers.runs replies))
  | delegating taken answers =>
      exact .after runs
        (inStep_resumeDelegating running blind libraryBlind paired kind taken answers replies)
  | running => exact same.inStep_plain trivial fun _ => rfl
  | finished => exact same.inStep (relates_resumeFinished kind replies)

end Actions

/-- The induction is on how many more calls may be nested. -/
theorem isBlind_resumeWithin {library : Library} (libraryBlind : library.IsBlind base) (calls : Nat) :
    IsBlind base (resumeWithin library calls) := by
  induction calls with
  | zero => exact fun same _ _ _ _ _ _ => same.inStep_plain trivial fun _ => rfl
  | succ calls induction =>
      intro pairing left right same index other paired reply twin replies
      rcases same.object paired with ⟨mine, yours, onLeft, onRight, objects⟩
      unfold resumeWithin
      rw [onLeft, onRight]
      exact inStep_resumeObject same induction libraryBlind paired objects replies

/-- Where no component can tell numbers, corresponding sessions are advanced in step. -/
theorem isBlind_resume {library : Library} (libraryBlind : library.IsBlind base) :
    IsBlind base (resume library) :=
  isBlind_resumeWithin libraryBlind callLimit

theorem inStep_closeRoutine {library : Library} (libraryBlind : library.IsBlind base)
    (same : Corresponds base pairing left right) {index other : Nat}
    (paired : pairing.routine index other) :
    InStep base pairing left right (left.closeRoutine library index)
      (right.closeRoutine library other) :=
  inStep_close same (isBlind_resume libraryBlind) paired

end Session
end HtmlStream
