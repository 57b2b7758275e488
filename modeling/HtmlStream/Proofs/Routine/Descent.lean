import HtmlStream.Proofs.Routine.Handover
import HtmlStream.Proofs.Routine.Remaining

/-!
Advancing a body brings it closer to its end. Every action of a body lets all other bodies be where
they were or go on, and a body that is suspended again has less left of itself than before, or of
the body that it handed over to. The main statements are `advancing_resumeWithin` and
`descends_wellFounded`.
-/
namespace HtmlStream

def Progress.IsSuspension : Progress → Prop
  | .produced _ | .waiting _ => True
  | .returned _ | .raised _ => False

namespace Session

/-- The body with a number has less left, or has handed over to one that has, through at most `calls`
bodies. -/
def Descends : (calls : Nat) → (before after : Session) → (index : Nat) → Prop
  | 0, _, _, _ => False
  | calls + 1, before, after, index =>
      after.remaining index < before.remaining index ∨
      ∃ kind target next, before.routine? index = some ⟨kind, .delegating target next⟩ ∧
        after.routine? index = before.routine? index ∧ Descends calls before after target

/-- What advancing a body does: all bodies make progress, and the body that was advanced descends
if it is suspended again. -/
def HasAdvanced (calls index : Nat) (before : Session) (advanced : Progress × Session) : Prop :=
  Progresses before advanced.2 ∧
    (advanced.1.IsSuspension → Descends calls before advanced.2 index)

/-- A way to advance bodies that brings each of them closer to its end. -/
def Advancing (calls : Nat) (resume : Resumption) : Prop :=
  ∀ index reply before, HasAdvanced calls index before (resume index reply before)

/-! ## Actions -/

section Actions

variable {library : Library} {resume : Resumption}
  (progresses : ∀ index reply before, Progresses before (resume index reply before).2)

include progresses

theorem progresses_callComponent (reference : ComponentReference) (arguments : Entries)
    (session : Session) :
    Progresses session (callComponent library resume reference arguments session).2 := by
  unfold callComponent
  split
  · exact .refl session
  · next component _ =>
      dsimp only
      split
      · exact .refl session
      · next bindings _ =>
          split
          · exact .addRoutine session _ reference.name _
          · have called := (Progresses.addRoutine session .generator reference.name
              (component.body bindings)).trans (progresses session.routines.size (.ok .null) _)
            split
            all_goals
              next equal =>
                rw [← addRoutine_index, equal] at called
                exact called

theorem progresses_call (callee : Value) (arguments : Entries) (session : Session) :
    Progresses session (call library resume callee arguments session).2 := by
  unfold call
  split
  · exact progresses_callComponent progresses _ arguments session
  all_goals exact .refl session

theorem progresses_close (index : Nat) (session : Session) :
    Progresses session (close resume index session).2 := by
  unfold close
  split
  · exact .refl session
  · next object found =>
      split
      · next body unstarted =>
          refine Progresses.setState found ?_
          rw [unstarted]
          exact Order.bot_lt_succ body.depth
      · exact .refl session
      · exact .refl session
      all_goals
        split
        all_goals
          next equal =>
            have advanced := progresses index (.error .exit) session
            rw [equal] at advanced
            exact advanced

theorem progresses_release (generators : List Nat) (result : Value) (session : Session) :
    Progresses session (release resume generators result session) := by
  induction generators generalizing session with
  | nil => exact .refl session
  | cons index rest induction =>
      simp only [release, List.foldl_cons] at induction ⊢
      split
      · exact induction session
      · exact (progresses_close progresses index session).trans (induction _)

theorem progresses_expand (component : Value) (attributes : Entries) (children : List Value)
    (session : Session) :
    Progresses session (expand library resume component attributes children session).2 := by
  have called : Progresses session (call library resume component
      (Component.argumentsFor (signature? library component) attributes children) session).2 :=
    progresses_call progresses component
    (Component.argumentsFor (signature? library component) attributes children) session
  unfold expand
  dsimp only
  split
  · next equal =>
      rw [equal] at called
      exact called
  · next result after equal =>
      rw [equal] at called
      split
      · next reference =>
          split
          · exact called
          · exact called
          · have closed := called.trans (progresses_close progresses reference.index after)
            split
            all_goals
              next closing =>
                rw [closing] at closed
                exact closed
      · exact called

theorem progresses_carryOut (action : Action) (session : Session) :
    Progresses session (carryOut library resume action session).2 := by
  cases action with
  | log value =>
      unfold carryOut
      dsimp only
      split
      · exact .of_routines_eq rfl
      · exact .refl session
  | lookup name => exact .refl session
  | call callee arguments => exact progresses_call progresses callee arguments session
  | expand component attributes children =>
      exact progresses_expand progresses component attributes children session
  | readContext field => exact .of_routines_eq (routines_readContext session field)
  | readMeta key default => exact .of_routines_eq (routines_readMeta session key default)
  | writeMeta key value => exact .of_routines_eq (routines_writeMeta session key value)
  | register token provider => exact .of_routines_eq (routines_register session token provider)
  | discard index => exact progresses_close progresses index session
  | release generators result => exact progresses_release progresses generators result session
  | outcome index => exact .refl session

end Actions

theorem progresses_startTask (session : Session) (body : Routine) :
    Progresses session (session.startTask body).2 :=
  (Progresses.addRoutine session .coroutine "task" body).trans (.of_routines_eq rfl)

/-! ## Running -/

/-- Every body but one is where it was, or has less left. -/
def ProgressesBeside (index : Nat) (before after : Session) : Prop :=
  ∀ other, other ≠ index → after.routine? other = before.routine? other ∨
    after.remaining other < before.remaining other

theorem ProgressesBeside.setState (index : Nat) (session : Session) (state : RoutineState) :
    ProgressesBeside index session (session.setState index state) :=
  fun _ different => .inl (session.routine?_setState_of_ne different state)

theorem Progresses.beside {before after : Session} (progress : Progresses before after)
    (index : Nat) : ProgressesBeside index before after :=
  fun other _ => progress other

theorem ProgressesBeside.trans {index : Nat} {first second third : Session}
    (earlier : ProgressesBeside index first second)
    (later : ProgressesBeside index second third) : ProgressesBeside index first third := by
  intro other different
  rcases later other different with same | lower
  · rcases earlier other different with same' | lower'
    · exact .inl (same.trans same')
    · exact .inr (remaining_congr same ▸ lower')
  · rcases earlier other different with same' | lower'
    · exact .inr (remaining_congr same' ▸ lower)
    · exact .inr (lower.trans lower')

/-- A body that has less left in the end made progress with all others. -/
theorem ProgressesBeside.progresses {index : Nat} {before after : Session}
    (beside : ProgressesBeside index before after)
    (lower : after.remaining index < before.remaining index) : Progresses before after := by
  intro other
  by_cases equal : other = index
  · exact .inr (equal ▸ lower)
  · exact beside other equal

/-- What a body came to that ran with `routine` before it: it has less left than that. -/
structure RunsWithin (index : Nat) (routine : Routine) (before after : Session) : Prop where
  beside : ProgressesBeside index before after
  remaining_le : after.remaining index ≤ routine.depth

namespace RunsWithin

variable {index : Nat} {routine next : Routine} {before after between : Session}

theorem ofState {object : RoutineObject} (found : before.routine? index = some object)
    {state : RoutineState} (within : state.remaining ≤ routine.depth) :
    RunsWithin index routine before (before.setState index state) where
  beside := .setState index before state
  remaining_le := by
    rw [remaining_of_routine? (routine?_setState_self found state)]
    exact WithTop.coe_le_coe.mpr within

theorem step (progress : Progresses before between) (lower : next.depth < routine.depth)
    (rest : RunsWithin index next between after) : RunsWithin index routine before after where
  beside := (progress.beside index).trans rest.beside
  remaining_le := rest.remaining_le.trans (WithTop.coe_le_coe.mpr lower.le)

end RunsWithin

def IsRunning (session : Session) (index : Nat) : Prop :=
  ∃ kind, session.routine? index = some ⟨kind, .running⟩

namespace IsRunning

theorem remaining {session : Session} {index : Nat} (running : session.IsRunning index) :
    session.remaining index = 0 := by
  rcases running with ⟨kind, found⟩
  exact remaining_of_routine? found

theorem mono {before after : Session} {index : Nat} (running : before.IsRunning index)
    (progress : Progresses before after) : after.IsRunning index := by
  rcases running with ⟨kind, found⟩
  exact ⟨kind, (progress.routine?_eq (remaining_of_routine? found)).trans found⟩

theorem setState {session : Session} {index : Nat} {object : RoutineObject}
    (found : session.routine? index = some object) :
    (session.setState index .running).IsRunning index :=
  ⟨object.kind, routine?_setState_self found .running⟩

end IsRunning

section Running

variable (library : Library) {resume : Resumption}
  (progresses : ∀ index reply before, Progresses before (resume index reply before).2)

include progresses

/-- A body that hands over stays where it is, or goes on with what the other one came to. -/
theorem runsWithin_advanceTarget {index : Nat} {kind : RoutineKind} {routine : Routine}
    {next : Reply → Routine} {session opened : Session} (running : session.IsRunning index)
    (within : Routine.depthAfter next ≤ routine.depth) (progress : Progresses session opened)
    (goesOn : ∀ answer after, Progresses session after →
      RunsWithin index routine session (run library resume index kind (next answer) after).2)
    (target : Nat) (reply : Reply) :
    RunsWithin index routine session
      (advanceTarget library resume index kind target next reply opened).2 := by
  have progress := progress.trans (progresses target reply opened)
  unfold advanceTarget
  generalize resume target reply opened = advanced at progress
  rcases advanced with ⟨step, after⟩
  cases step with
  | returned value | raised failure => exact goesOn _ after progress
  | produced effect | waiting pending =>
      rcases running.mono progress with ⟨_, found⟩
      have stored : RunsWithin index routine after
          (after.setState index (.delegating target next)) := .ofState found within
      exact ⟨(progress.beside index).trans stored.beside, stored.remaining_le⟩

theorem runsWithin_run (index : Nat) (kind : RoutineKind) (routine : Routine) (session : Session)
    (running : session.IsRunning index) :
    RunsWithin index routine session (run library resume index kind routine session).2 := by
  induction routine generalizing session with
  | finish result =>
      rcases running with ⟨_, found⟩
      exact .ofState found bot_le
  | reserve count next induction =>
      unfold run
      have progress : Progresses session
          { session with nextIdentity := session.nextIdentity + count } := .of_routines_eq rfl
      exact .step progress (Routine.depth_reserve_lt count next _)
        (induction _ _ (running.mono progress))
  | act action next induction =>
      have progress : Progresses session (carryOut library resume action session).2 :=
        progresses_carryOut progresses action session
      unfold run
      exact .step progress (Routine.depth_act_lt action next _)
        (induction _ _ (running.mono progress))
  | advance target next induction =>
      have progress := progresses target (.ok .null) session
      unfold run
      exact .step progress (Routine.depth_advance_lt target next _)
        (induction _ _ (running.mono progress))
  | start body next _ induction =>
      have progress := progresses_startTask session body
      unfold run
      exact .step progress (Routine.depth_start_lt body next _)
        (induction _ _ (running.mono progress))
  | suspend suspension next induction =>
      cases suspension with
      | effect value | wait pending =>
          rcases running with ⟨ownKind, found⟩
          exact .ofState found le_rfl
      | delegate target =>
          have goesOn (answer : Reply) (after : Session) (progress : Progresses session after) :
              RunsWithin index (.suspend (.delegate target) next) session
                (run library resume index kind (next answer) after).2 :=
            .step progress (Routine.depth_lt_depthAfter next answer)
              (induction answer after (running.mono progress))
          rw [run_delegate]
          split
          · exact goesOn _ _ (.refl session)
          · exact runsWithin_advanceTarget library progresses running le_rfl (.refl session) goesOn
              target.index (.ok .null)
      | iterate node =>
          rw [run_iterate]
          refine runsWithin_advanceTarget library progresses running le_rfl
            (.addRoutine session .generator "element" node.body) ?_ _ (.ok .null)
          intro answer after progress
          exact .step progress (Routine.depth_lt_depthAfter next answer)
            (induction answer after (running.mono progress))

end Running

/-! ## Descending -/

/-- A body that runs meanwhile plays no part in the descent of another one. -/
theorem Descends.ofRunning {calls index target : Nat} {before running after : Session}
    (descends : Descends calls running after target) (isRunning : running.IsRunning index)
    (stillRunning : after.IsRunning index)
    (equalBefore : ∀ other, other ≠ index → running.routine? other = before.routine? other)
    {stored : Session}
    (equalAfter : ∀ other, other ≠ index → stored.routine? other = after.routine? other) :
    Descends calls before stored target := by
  induction calls generalizing target with
  | zero => exact descends
  | succ calls induction =>
      have different : target ≠ index := by
        rintro rfl
        rcases descends with lower | ⟨kind, _, _, delegating, _⟩
        · rw [isRunning.remaining, stillRunning.remaining] at lower
          exact absurd lower (lt_irrefl _)
        · rcases isRunning with ⟨_, found⟩
          rw [found] at delegating
          cases delegating
      rcases descends with lower | ⟨kind, further, next, delegating, same, rest⟩
      · left
        rw [remaining_congr (equalAfter target different),
          ← remaining_congr (equalBefore target different)]
        exact lower
      · right
        refine ⟨kind, further, next, ?_, ?_, induction rest⟩
        · rw [← equalBefore target different]
          exact delegating
        · rw [equalAfter target different, same, equalBefore target different]

theorem Descends.trans {calls index : Nat} {before between after : Session}
    (descends : Descends calls before between index) (progress : Progresses between after) :
    Descends calls before after index := by
  induction calls generalizing index with
  | zero => exact descends
  | succ calls induction =>
      rcases descends with lower | ⟨kind, target, next, found, same, rest⟩
      · exact .inl ((progress.remaining_le index).trans_lt lower)
      · rcases progress index with same' | lower
        · exact .inr ⟨kind, target, next, found, same'.trans same, induction rest⟩
        · exact .inl (remaining_congr same ▸ lower)

theorem Progresses.descends {calls index : Nat} {before between after : Session}
    (progress : Progresses before between) (descends : Descends calls between after index) :
    Descends calls before after index := by
  induction calls generalizing index with
  | zero => exact descends
  | succ calls induction =>
      rcases descends with lower | ⟨kind, target, next, found, same, rest⟩
      · exact .inl (lower.trans_le (progress.remaining_le index))
      · rcases progress index with same' | lower
        · exact .inr ⟨kind, target, next, same'.symm.trans found, same.trans same', induction rest⟩
        · exact .inl (remaining_congr same ▸ lower)

section Resuming

variable {library : Library} {resume : Resumption} {calls index : Nat} {before : Session}

namespace HasAdvanced

theorem unchanged (calls index : Nat) (session : Session) (ended : Progress)
    (notSuspended : ¬ ended.IsSuspension) : HasAdvanced calls index session (ended, session) :=
  ⟨.refl session, fun suspended => absurd suspended notSuspended⟩

/-- A body that ran with less before it than was left of it has advanced. -/
theorem ofRunsWithin {object : RoutineObject} (found : before.routine? index = some object)
    {routine : Routine} {advanced : Progress × Session}
    (runs : RunsWithin index routine (before.setState index .running) advanced.2)
    (lower : routine.depth < object.state.remaining) :
    HasAdvanced (calls + 1) index before advanced := by
  have descends : advanced.2.remaining index < before.remaining index := by
    rw [remaining_of_routine? found]
    exact runs.remaining_le.trans_lt (WithTop.coe_lt_coe.mpr lower)
  have beside := (ProgressesBeside.setState index before .running).trans runs.beside
  exact ⟨beside.progresses descends, fun _ => .inl descends⟩

/-- A body that handed over has advanced if the other one has. -/
theorem ofTarget {kind : RoutineKind} {target : Nat} {next : Reply → Routine}
    (found : before.routine? index = some ⟨kind, .delegating target next⟩) {after : Session}
    (progress : Progresses (before.setState index .running) after)
    (descends : Descends calls (before.setState index .running) after target)
    (step : Progress) :
    HasAdvanced (calls + 1) index before (step, after.setState index (.delegating target next)) := by
  have running := IsRunning.setState found
  rcases running.mono progress with ⟨ownKind, foundAfter⟩
  have restored : (after.setState index (.delegating target next)).routine? index
      = before.routine? index := by
    rw [routine?_setState_self foundAfter, found]
    have sameKind := (progress.routine?_eq running.remaining).symm.trans foundAfter
    rw [routine?_setState_self found] at sameKind
    cases sameKind
    rfl
  refine ⟨?_, fun _ => .inr ⟨kind, target, next, found, restored, ?_⟩⟩
  · intro other
    by_cases equal : other = index
    · exact .inl (equal ▸ restored)
    · have beside := ((ProgressesBeside.setState index before .running).trans
        (progress.beside index)).trans (.setState index after (.delegating target next))
      exact beside other equal
  · exact descends.ofRunning running ⟨ownKind, foundAfter⟩
      (fun _ different => routine?_setState_of_ne before different .running)
      (fun _ different => routine?_setState_of_ne after different _)

end HasAdvanced

section Delegating

variable (advancing : Advancing calls resume) {kind : RoutineKind} {target : Nat}
  {next : Reply → Routine} (found : before.routine? index = some ⟨kind, .delegating target next⟩)

include advancing found

/-- Whatever the other body came to, this one goes on below where it was. -/
theorem hasAdvanced_handedOn (reply : Reply) {after : Session}
    (progress : Progresses (before.setState index .running) after) :
    HasAdvanced (calls + 1) index before (run library resume index kind (next reply) after) := by
  have progresses := fun index reply before => (advancing index reply before).1
  have runs := runsWithin_run library progresses index kind (next reply) after
    ((IsRunning.setState found).mono progress)
  exact .ofRunsWithin found ⟨(progress.beside index).trans runs.beside, runs.remaining_le⟩
    (Routine.depth_lt_depthAfter next reply)

theorem hasAdvanced_advanceTarget (reply : Reply) :
    HasAdvanced (calls + 1) index before (advanceTarget library resume index kind target next reply
      (before.setState index .running)) := by
  rcases advancing target reply (before.setState index .running) with ⟨progress, descends⟩
  unfold advanceTarget
  split
  · next equal =>
      rw [equal] at progress
      exact hasAdvanced_handedOn advancing found _ progress
  · next equal =>
      rw [equal] at progress
      exact hasAdvanced_handedOn advancing found _ progress
  · next step after notReturned notRaised equal =>
      rw [equal] at progress descends
      have suspended : step.IsSuspension := by
        cases step with
        | produced effect => trivial
        | waiting pending => trivial
        | returned value => exact (notReturned value rfl).elim
        | raised failure => exact (notRaised failure rfl).elim
      exact .ofTarget found progress (descends suspended) step

theorem hasAdvanced_resumeDelegating (reply : Reply) :
    HasAdvanced (calls + 1) index before (resumeDelegating library resume index kind target next reply
      (before.setState index .running)) := by
  have progresses := fun index reply before => (advancing index reply before).1
  unfold resumeDelegating
  split
  · have closed := progresses_close progresses target (before.setState index .running)
    split
    all_goals
      next equal =>
        rw [equal] at closed
        exact hasAdvanced_handedOn advancing found _ closed
  · exact hasAdvanced_advanceTarget advancing found reply

end Delegating

theorem hasAdvanced_resumeObject (advancing : Advancing calls resume) {object : RoutineObject}
    (found : before.routine? index = some object) (reply : Reply) :
    HasAdvanced (calls + 1) index before
      (resumeObject library resume index object reply before) := by
  have progresses := fun index reply before => (advancing index reply before).1
  have runs := fun routine => runsWithin_run library progresses index object.kind
    routine (before.setState index .running) (.setState found)
  unfold resumeObject
  split
  · next body unstarted =>
      have lower : body.depth < object.state.remaining := by
        rw [unstarted]
        exact Order.lt_succ body.depth
      unfold startBody
      split
      · exact .ofRunsWithin found (runs body) lower
      · exact .unchanged _ index before _ id
      · refine ⟨.setState found ?_, fun suspended => suspended.elim⟩
        exact lt_of_le_of_lt bot_le lower
  · next next suspended =>
      refine .ofRunsWithin found (runs (next reply)) ?_
      rw [suspended]
      exact Routine.depth_lt_depthAfter next reply
  · next next waiting =>
      refine .ofRunsWithin found (runs (next reply)) ?_
      rw [waiting]
      exact Routine.depth_lt_depthAfter next reply
  · next target next delegating =>
      refine hasAdvanced_resumeDelegating advancing ?_ reply
      rw [found, ← delegating]
  · exact .unchanged _ index before _ id
  · refine .unchanged _ _ _ _ ?_
    unfold resumeFinished
    split <;> exact id

/-- Advancing a body from within at most `calls` others. -/
theorem advancing_resumeWithin (library : Library) (calls : Nat) :
    Advancing calls (resumeWithin library calls) := by
  induction calls with
  | zero =>
      intro index reply before
      exact HasAdvanced.unchanged 0 index before _ id
  | succ calls induction =>
      intro index reply before
      unfold resumeWithin
      split
      · exact HasAdvanced.unchanged _ index before _ id
      · next object found => exact hasAdvanced_resumeObject induction found reply

end Resuming

theorem advancing_resume (library : Library) : Advancing callLimit (resume library) :=
  advancing_resumeWithin library callLimit

/-! ## Descents end -/

/-- A body cannot descend for ever. Either less is left of itself, or it has handed over, and then
what is left of the other body decides. -/
theorem acc_descends (calls index : Nat) (session : Session) :
    Acc (fun after before => Progresses before after ∧ Descends calls before after index)
      session := by
  induction calls generalizing index session with
  | zero => exact ⟨_, fun _ lower => lower.2.elim⟩
  | succ calls induction =>
      generalize atLevel : session.remaining index = level
      induction level using WellFoundedLT.induction generalizing session with
      | ind level lowerLevels =>
          have handedOver : ∀ kind target next session,
              session.routine? index = some ⟨kind, .delegating target next⟩ →
              session.remaining index = level → Acc (fun after before =>
                Progresses before after ∧ Descends (calls + 1) before after index) session := by
            intro kind target next session found atLevel
            induction induction target session with
            | intro session _ targetLower =>
                refine Acc.intro _ ?_
                rintro after ⟨progress, lower | ⟨_, _, _, found', same, rest⟩⟩
                · exact lowerLevels _ (atLevel ▸ lower) after rfl
                · rw [found] at found'
                  cases found'
                  exact targetLower after ⟨progress, rest⟩ (same.trans found)
                    ((remaining_congr same).trans atLevel)
          refine Acc.intro _ ?_
          rintro after ⟨_, lower | ⟨kind, target, next, found, same, _⟩⟩
          · exact lowerLevels _ (atLevel ▸ lower) after rfl
          · exact handedOver kind target next after (same.trans found)
              ((remaining_congr same).trans atLevel)

end Session
end HtmlStream
