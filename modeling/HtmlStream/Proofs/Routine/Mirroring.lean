import HtmlStream.Proofs.Routine.Delegation
import HtmlStream.Routine.Calm

/-!
Bodies that hand over to no generator. Where such a body is advanced calmly, the one that yields
what it would hand over to is advanced in step with it, and the bodies at work are left alone. The
main statement is `mirroredBy_resumeWithin`.
-/
namespace HtmlStream.Session

variable {twins : List Twin} {left right : Session} {busy : Nat → Prop}

/-- All twins are bodies at work. -/
def AreBusy (busy : Nat → Prop) (twins : List Twin) : Prop :=
  ∀ index ∈ twins.map Twin.index, busy index

theorem AreBusy.not_mem (are : AreBusy busy twins) {index : Nat} (free : ¬ busy index) :
    index ∉ twins.map Twin.index :=
  fun member => free (are index member)

/-- A body that is put to work. -/
theorem AreBusy.cons (are : AreBusy busy twins) (twin : Twin) :
    AreBusy (fun other => other = twin.index ∨ busy other) (twin :: twins) :=
  List.forall_mem_cons.mpr ⟨.inl rfl, fun other member => .inr (are other member)⟩

theorem isReady_addRoutine (session : Session) (kind : RoutineKind) (name : String)
    (body : Routine) :
    (session.addRoutine kind name body).2.IsReady (session.addRoutine kind name body).1 :=
  ⟨_, session.routine?_addRoutine_self kind name body, rfl, RoutineObject.not_hasDelegated nofun⟩

/-- A body that another one advances calmly has not handed over as a generator does. -/
theorem not_hasDelegated_of_calm {library : Library} {calls index : Nat} {answer : Value}
    {session : Session} {object : RoutineObject}
    (quiet : calmWithin library calls false busy index (.ok answer) session)
    (found : session.routine? index = some object) : ¬ object.HasDelegated := by
  cases calls with
  | zero => exact quiet.elim
  | succ calls =>
      rcases quiet with ⟨-, -, other, foundToo, quiet⟩
      cases found.symm.trans foundToo
      rintro ⟨generator, target, next, state⟩
      unfold AdvancesCalmly at quiet
      rw [state] at quiet
      exact Bool.noConfusion (quiet.2.1 generator)

/-- Where bodies are advanced calmly that do not hand over to generators, another way to advance
them goes in step where they yield. -/
structure MirroredBy (calm : Composure) (resume peer : Resumption) : Prop where
  free : ∀ ⦃driven : Bool⦄ ⦃busy : Nat → Prop⦄ ⦃index : Nat⦄ ⦃reply : Reply⦄ ⦃session : Session⦄,
    calm driven busy index reply session → ¬ busy index
  befits : ∀ ⦃driven : Bool⦄ ⦃busy : Nat → Prop⦄ ⦃index : Nat⦄ ⦃reply : Reply⦄ ⦃session : Session⦄,
    calm driven busy index reply session → (resume index reply session).1.Befits reply
  after : ∀ ⦃driven : Bool⦄ ⦃busy : Nat → Prop⦄ ⦃twins : List Twin⦄ ⦃left right : Session⦄
    ⦃index : Nat⦄ ⦃reply : Reply⦄, Mirrors twins left right → AreBusy busy twins →
    (driven = true → ∀ object, left.routine? index = some object → object.kind ≠ .generator) →
    calm driven busy index reply left →
      After (Mirrors twins) (resume index reply left) (peer index reply right)

section Actions

variable {library : Library} {resume peer : Resumption} {calm : Composure}
  (mirrored : MirroredBy calm resume peer) (mirrors : Mirrors twins left right)
  (areBusy : AreBusy busy twins)

include mirrored mirrors areBusy

theorem after_calm_close {index : Nat} (quiet : ClosesCalmly calm busy index left) :
    After (Mirrors twins) (close resume index left) (close peer index right) := by
  rcases quiet with ⟨free, quiet⟩
  unfold close
  rw [mirrors.others index (areBusy.not_mem free)]
  cases found : left.routine? index with
  | none => exact ⟨rfl, mirrors⟩
  | some object =>
      have quiet := quiet object found
      rcases object with ⟨kind, state⟩
      cases state with
      | unstarted body =>
          exact ⟨rfl, ((mirrors.hold (areBusy.not_mem free) found).setState
            (.finished (.ok .null)) (.finished (.ok .null)) ⟨rfl, rfl⟩).release⟩
      | finished => exact ⟨rfl, mirrors⟩
      | running | delegating => exact quiet.elim
      | suspended | waiting =>
          have exited := mirrored.after mirrors areBusy (fun given => Bool.noConfusion given) quiet
          rcases exited.exists with ⟨progress, leftAfter, rightAfter, onLeft, onRight, after⟩
          dsimp only [Option.map, RoutineObject.yielding]
          rw [onLeft, onRight]
          cases progress with
          | raised failure => cases failure <;> exact ⟨rfl, after⟩
          | _ => exact ⟨rfl, after⟩

theorem mirrors_release {generators : List Nat} {result : Value}
    (quiet : ReleasesCalmly resume calm busy result generators left) :
    Mirrors twins (release resume generators result left)
      (release peer generators result right) := by
  induction generators generalizing left right with
  | nil => exact mirrors
  | cons index rest induction =>
      have held := mirrors.read_eq (holds · index) fun _ _ _ => rfl
      unfold ReleasesCalmly at quiet
      simp only [release, List.foldl_cons] at induction ⊢
      rw [held]
      split
      · next kept =>
          rw [if_pos kept] at quiet
          exact induction mirrors quiet
      · next dropped =>
          rw [if_neg dropped] at quiet
          exact induction (after_calm_close mirrored mirrors areBusy quiet.1).2 quiet.2

theorem after_calm_callComponent {reference : ComponentReference} {arguments : Entries}
    (quiet : CallsCalmly library calm busy (.component reference) arguments left) :
    After (Mirrors twins) (callComponent library resume reference arguments left)
      (callComponent library.yielding peer reference arguments right) := by
  unfold callComponent
  rw [Library.find?_yielding]
  cases found : library.find? reference with
  | none => exact ⟨rfl, mirrors⟩
  | some component =>
      dsimp only [Option.map, Component.yielding]
      split
      · exact ⟨rfl, mirrors⟩
      · next bindings bound =>
          split
          · next kind _ =>
              rcases (mirrors.addRoutine kind reference.name (component.body bindings)).exists with
                ⟨body, leftAfter, rightAfter, onLeft, onRight, after⟩
              rw [onLeft, onRight]
              exact ⟨rfl, after⟩
          · next plain =>
              have quiet := quiet component bindings found plain bound
              rcases (mirrors.addRoutine .generator reference.name
                (component.body bindings)).exists with
                ⟨body, leftAdded, rightAdded, onLeft, onRight, added⟩
              rw [onLeft] at quiet
              rw [onLeft, onRight]
              have advanced := mirrored.after added areBusy (fun given => Bool.noConfusion given) quiet
              rcases advanced.exists with ⟨progress, leftAfter, rightAfter, onLeft, onRight, after⟩
              dsimp only
              rw [onLeft, onRight]
              cases progress <;> exact ⟨rfl, after⟩

theorem after_calm_call {callee : Value} {arguments : Entries}
    (quiet : CallsCalmly library calm busy callee arguments left) :
    After (Mirrors twins) (call library resume callee arguments left)
      (call library.yielding peer callee arguments right) := by
  cases callee with
  | component reference => exact after_calm_callComponent mirrored mirrors areBusy quiet
  | depthProbe => exact quiet.elim
  | _ => exact ⟨rfl, mirrors⟩

theorem after_calm_expand {component : Value} {attributes : Entries} {children : List Value}
    (quiet : ExpandsCalmly library resume calm busy component attributes children left) :
    After (Mirrors twins) (expand library resume component attributes children left)
      (expand library.yielding peer component attributes children right) := by
  rcases quiet with ⟨quiet, fits⟩
  unfold expand
  rw [signature?_yielding]
  rcases (after_calm_call mirrored mirrors areBusy quiet).exists with
    ⟨reply, leftAfter, rightAfter, onLeft, onRight, after⟩
  rw [onLeft] at fits
  dsimp only
  rw [onLeft, onRight]
  cases reply with
  | error failure => exact ⟨rfl, after⟩
  | ok result =>
      cases result with
      | routine reference =>
          have fits := fits reference rfl
          dsimp only
          cases kind : reference.kind with
          | generator | asyncGenerator => exact ⟨rfl, after⟩
          | coroutine => exact absurd kind fits
      | _ => exact ⟨rfl, after⟩

theorem after_calm_carryOut {action : Action}
    (quiet : CarriesOutCalmly library resume calm busy action left) :
    After (Mirrors twins) (carryOut library resume action left)
      (carryOut library.yielding peer action right) := by
  cases action with
  | log value =>
      unfold carryOut
      dsimp only
      split
      · exact ⟨rfl, mirrors.write (record · _)⟩
      · exact ⟨rfl, mirrors⟩
  | lookup name => exact ⟨(mirrors.read_eq (lookup · name) fun _ _ _ => rfl).symm, mirrors⟩
  | call callee arguments => exact after_calm_call mirrored mirrors areBusy quiet
  | expand component attributes children =>
      exact after_calm_expand mirrored mirrors areBusy quiet
  | readContext field => exact mirrors.withContext fun _ _ => ⟨rfl, mirrors⟩
  | readMeta key default => exact mirrors.withContext fun _ _ => ⟨rfl, mirrors⟩
  | writeMeta key value =>
      exact mirrors.withContext fun index _ =>
        ⟨rfl, mirrors.write (modifyContext · index fun context => context.setMeta key value)⟩
  | register key source =>
      show After _ (register left key source) (register right key source)
      unfold register
      split
      · exact ⟨rfl, mirrors.write (enroll · _)⟩
      · exact ⟨rfl, mirrors⟩
  | discard index => exact ⟨rfl, (after_calm_close mirrored mirrors areBusy quiet).2⟩
  | release generators result => exact ⟨rfl, mirrors_release mirrored mirrors areBusy quiet⟩
  | outcome index => exact ⟨(mirrors.outcome_eq index).symm, mirrors⟩

end Actions

/-! ## Running -/

section Running

variable {library : Library} {resume peer : Resumption} {calm : Composure}
  (mirrored : MirroredBy calm resume peer) {driven : Bool} {index : Nat} {kind : RoutineKind}

include mirrored

/-- Between two suspensions both bodies go in step, so that it is enough to look at where they end
or are suspended. The induction is on what the body still has to do. -/
theorem calm_run_induction (comes : Progress × Session → Progress × Session → Prop)
    (areBusy : AreBusy busy (.running index kind :: twins))
    (ends : ∀ {result left right},
      Mirrors (.running index kind :: twins) left right →
      comes (endBody index kind result left) (endBody index kind result right))
    (suspends : ∀ {suspension next left right},
      (∀ {reply leftAfter rightAfter},
        Mirrors (.running index kind :: twins) leftAfter rightAfter →
        RunsCalmly library resume calm busy driven kind (next reply) leftAfter →
        comes (run library resume index kind (next reply) leftAfter)
          (run library.yielding peer index kind (next reply).yielding rightAfter)) →
      Mirrors (.running index kind :: twins) left right →
      RunsCalmly library resume calm busy driven kind (.suspend suspension next) left →
      comes (run library resume index kind (.suspend suspension next) left)
        (run library.yielding peer index kind
          (.suspend suspension.yielding fun reply => (next reply).yielding) right))
    {routine : Routine}
    (mirrors : Mirrors (.running index kind :: twins) left right)
    (quiet : RunsCalmly library resume calm busy driven kind routine left) :
    comes (run library resume index kind routine left)
      (run library.yielding peer index kind routine.yielding right) := by
  induction routine generalizing left right with
  | finish result => exact ends mirrors
  | reserve count next induction =>
      unfold Routine.yielding run
      rw [mirrors.read_eq nextIdentity fun _ _ _ => rfl]
      exact induction left.nextIdentity
        (mirrors.write ({ · with nextIdentity := left.nextIdentity + count })) quiet
  | act action next induction =>
      unfold RunsCalmly at quiet
      rcases (after_calm_carryOut mirrored mirrors areBusy quiet.1).exists with
        ⟨reply, leftAfter, rightAfter, onLeft, onRight, after⟩
      rw [onLeft] at quiet
      unfold Routine.yielding run
      rw [onLeft, onRight]
      exact induction reply after quiet.2
  | advance target next induction =>
      unfold RunsCalmly at quiet
      rcases (mirrored.after mirrors areBusy (fun given => Bool.noConfusion given) quiet.1).exists
        with ⟨progress, leftAfter, rightAfter, onLeft, onRight, after⟩
      rw [onLeft] at quiet
      unfold Routine.yielding run
      rw [onLeft, onRight]
      exact induction (advancedBy progress) after quiet.2
  | start body next _ induction =>
      unfold RunsCalmly at quiet
      rcases (mirrors.startTask body).exists with
        ⟨task, leftAfter, rightAfter, onLeft, onRight, after⟩
      rw [onLeft] at quiet
      unfold Routine.yielding run
      rw [onLeft, onRight]
      exact induction task after quiet
  | suspend suspension next induction => exact suspends (induction _) mirrors quiet

/-- A body that has handed over, but not as a generator does, stays handed over on both sides, or
goes on. -/
theorem after_calm_advanceTarget {within : Nat → Prop} {target : Nat} {next : Reply → Routine}
    {answer : Value}
    (mirrors : Mirrors (.running index kind :: twins) left right)
    (areBusy : AreBusy within (.running index kind :: twins))
    (other : kind ≠ .generator) (quiet : calm false within target (.ok answer) left)
    (onward : ∀ {value leftAfter rightAfter},
      resume target (.ok answer) left = (.returned value, leftAfter) →
      Mirrors (.running index kind :: twins) leftAfter rightAfter →
      After (Mirrors twins) (run library resume index kind (next (.ok value)) leftAfter)
        (run library.yielding peer index kind (next (.ok value)).yielding rightAfter)) :
    After (Mirrors twins)
      (advanceTarget library resume index kind target next (.ok answer) left)
      (advanceTarget library.yielding peer index kind target (fun reply => (next reply).yielding)
        (.ok answer) right) := by
  have fits := mirrored.befits quiet
  rcases (mirrored.after mirrors areBusy (fun given => Bool.noConfusion given) quiet).exists with
    ⟨progress, leftAfter, rightAfter, onLeft, onRight, after⟩
  rw [onLeft] at fits
  unfold advanceTarget
  rw [onLeft, onRight]
  cases progress with
  | returned value => exact onward onLeft after
  | raised failure => nomatch fits.2
  | produced effect | waiting pending =>
      have further := after.setState (.delegating target next)
        (.delegating target fun reply => (next reply).yielding) ⟨rfl, rfl⟩
      rw [← RoutineObject.yielding_delegating other] at further
      exact ⟨rfl, further.release⟩

theorem after_calm_run {routine : Routine}
    (mirrors : Mirrors (.running index kind :: twins) left right)
    (areBusy : AreBusy busy (.running index kind :: twins))
    (plain : driven = true → kind ≠ .generator)
    (quiet : RunsCalmly library resume calm busy driven kind routine left) :
    After (Mirrors twins) (run library resume index kind routine left)
      (run library.yielding peer index kind routine.yielding right) := by
  refine calm_run_induction mirrored (After (Mirrors twins)) areBusy ?ends ?suspends mirrors quiet
  case ends =>
    intro result left right mirrors
    unfold endBody
    exact ⟨rfl, (mirrors.setState (.finished _) (.finished _) ⟨rfl, rfl⟩).release⟩
  case suspends =>
    intro suspension next left right induction mirrors quiet
    cases suspension with
    | effect value =>
        exact ⟨rfl, (mirrors.setState (.suspended next)
          (.suspended fun reply => (next reply).yielding) ⟨rfl, rfl⟩).release⟩
    | wait pending =>
        exact ⟨rfl, (mirrors.setState (.waiting pending next)
          (.waiting pending fun reply => (next reply).yielding) ⟨rfl, rfl⟩).release⟩
    | delegate target =>
        unfold RunsCalmly HandsOverCalmly at quiet
        rcases quiet with ⟨handed, onward⟩
        cases targetKind : target.kind with
        | generator =>
            rw [targetKind] at handed
            exact absurd handed.2.1 (plain handed.1)
        | asyncGenerator =>
            rw [targetKind] at handed
            exact handed.elim
        | coroutine =>
            rw [targetKind] at handed
            rcases handed with ⟨other, unawaited, quiet⟩
            have same : Suspension.yielding (.delegate target) = .delegate target :=
              Suspension.yielding_delegate (targetKind ▸ nofun)
            have unawaitedToo : right.isAwaited target = false := by
              rw [mirrors.isAwaited_eq (areBusy.not_mem (mirrored.free quiet)), unawaited]
            rw [same, run_delegate_of_unawaited unawaited, run_delegate_of_unawaited unawaitedToo]
            refine after_calm_advanceTarget mirrored mirrors areBusy other quiet ?_
            intro value leftAfter rightAfter returned after
            rw [returned] at onward
            exact induction after onward
    | iterate node => exact absurd quiet.2.1 (plain quiet.1)

theorem after_calm_resumeObject {object : RoutineObject} {reply : Reply}
    (mirrors : Mirrors twins left right) (areBusy : AreBusy busy twins)
    (free : ¬ busy index) (found : left.routine? index = some object)
    (plain : driven = true → object.kind ≠ .generator)
    (quiet : AdvancesCalmly library resume calm busy driven index object reply left) :
    After (Mirrors twins) (resumeObject library resume index object reply left)
      (resumeObject library.yielding peer index object.yielding reply right) := by
  rcases object with ⟨kind, state⟩
  have held := mirrors.hold (areBusy.not_mem free) found
  have running (yours : RoutineObject) (same : yours.kind = kind)
      (held : Mirrors (⟨index, ⟨kind, state⟩, yours⟩ :: twins) left right) :
      Mirrors (.running index kind :: twins)
        (left.setState index .running) (right.setState index .running) := by
    subst same
    exact held.setState .running .running ⟨rfl, rfl⟩
  have working := areBusy.cons (.running index kind)
  have begun := running _ (RoutineObject.kind_yielding _) held
  cases state with
  | unstarted body =>
      rcases quiet with ⟨rfl, quiet⟩
      exact after_calm_run mirrored begun working plain quiet
  | suspended next | waiting _ next =>
      exact after_calm_run mirrored begun working plain quiet
  | delegating target next =>
      rcases quiet with ⟨⟨answer, rfl⟩, handed, quiet, onward⟩
      have other : kind ≠ .generator := fun same => plain (handed same) same
      rw [beq_false_of_ne other] at quiet
      rw [RoutineObject.yielding_delegating other]
      refine after_calm_advanceTarget mirrored begun working other quiet ?_
      intro value leftAfter rightAfter returned after
      rw [returned] at onward
      exact after_calm_run mirrored after working plain onward
  | running => exact quiet.elim
  | finished outcome => exact ⟨rfl, mirrors⟩

end Running

/-- The induction is on how many more calls may be nested. -/
theorem mirroredBy_resumeWithin (library : Library) {calls more : Nat} (enough : calls ≤ more) :
    MirroredBy (calmWithin library calls) (resumeWithin library calls)
      (resumeWithin library.yielding more) := by
  induction calls generalizing more with
  | zero => exact ⟨fun _ _ _ _ _ => False.elim, fun _ _ _ _ _ => False.elim,
      fun _ _ _ _ _ _ _ _ _ _ => False.elim⟩
  | succ calls induction =>
      cases more with
      | zero => exact absurd enough (Nat.not_succ_le_zero calls)
      | succ more =>
          have within := induction (Nat.le_of_succ_le_succ enough)
          refine ⟨fun _ _ _ _ _ quiet => quiet.1, fun _ _ _ _ _ quiet => quiet.2.1, ?_⟩
          rintro driven busy twins left right index reply mirrors areBusy plain
            ⟨free, -, object, found, quiet⟩
          have foundToo := mirrors.others index (areBusy.not_mem free)
          rw [found, Option.map_some] at foundToo
          unfold resumeWithin
          rw [found, foundToo]
          exact after_calm_resumeObject within mirrors areBusy free found
            (fun given => plain given object found) quiet

theorem mirroredBy_resume (library : Library) :
    MirroredBy (calmWithin library callLimit) (resume library) (resume library.yielding) :=
  mirroredBy_resumeWithin library (Nat.le_refl callLimit)

end HtmlStream.Session
