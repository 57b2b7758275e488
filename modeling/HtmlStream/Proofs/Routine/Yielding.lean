import HtmlStream.Proofs.Routine.Remaining

/-!
Bodies that only yield: each effect of such a body comes out when the body is advanced, nothing else
happens in between, and closing the body on the way is not noticed.
-/
namespace HtmlStream

namespace Session

/-- The bodies that there were are as they were, up to one of them. -/
def KeepsBeside (index : Nat) (before after : Session) : Prop :=
  ∀ other object, other ≠ index → before.routine? other = some object →
    after.routine? other = some object

/-- The bodies that there were are as they were. -/
def Keeps (before after : Session) : Prop :=
  ∀ other object, before.routine? other = some object → after.routine? other = some object

variable {before between after session : Session} {index : Nat}

theorem Keeps.of_routines_eq (equal : after.routines = before.routines) : Keeps before after := by
  intro other object found
  unfold routine? at found ⊢
  rw [equal]
  exact found

theorem Keeps.trans (earlier : Keeps before between) (later : Keeps between after) :
    Keeps before after :=
  fun other object found => later other object (earlier other object found)

theorem Keeps.beside (keeps : Keeps before after) : KeepsBeside index before after :=
  fun other object _ found => keeps other object found

theorem KeepsBeside.trans (earlier : KeepsBeside index before between)
    (later : KeepsBeside index between after) : KeepsBeside index before after :=
  fun other object different found =>
    later other object different (earlier other object different found)

theorem KeepsBeside.setState (session : Session) (index : Nat) (state : RoutineState) :
    KeepsBeside index session (session.setState index state) :=
  fun _ _ different found => (session.routine?_setState_of_ne different state).trans found

/-- A body that was not there before is none of those that there were. -/
theorem KeepsBeside.of_addRoutine {kind : RoutineKind} {name : String} {body : Routine}
    (keeps : KeepsBeside session.routines.size (session.addRoutine kind name body).2 after) :
    Keeps session after := by
  intro other object found
  have different : other ≠ session.routines.size := by
    intro equal
    rw [equal, routine?_size] at found
    cases found
  exact keeps other object different
    ((session.routine?_addRoutine_of_ne kind name body different).trans found)

/-- When it is advanced next, a body begins to yield some effects. -/
inductive Yields (session : Session) (index : Nat) (effects : List (Except Failure Value)) : Prop
  | unstarted (found : session.routine? index = some ⟨.generator, .unstarted (.yieldAll effects)⟩)
  | suspended (next : Reply → Routine)
      (found : session.routine? index = some ⟨.generator, .suspended next⟩)
      (answered : next (.ok .null) = .yieldAll effects)
      (failed : ∀ failure, next (.error failure) = .finish (.error failure))

/-- A body that does nothing when it is closed. -/
inductive IsClosable (session : Session) (index : Nat) : Prop
  | unstarted (body : Routine)
      (found : session.routine? index = some ⟨.generator, .unstarted body⟩)
  | suspended (next : Reply → Routine)
      (found : session.routine? index = some ⟨.generator, .suspended next⟩)
      (failed : ∀ failure, next (.error failure) = .finish (.error failure))
  | finished (outcome : Reply)
      (found : session.routine? index = some ⟨.generator, .finished outcome⟩)

/-- What the first advance of a body gives that yields some effects. -/
def progressOf : List (Except Failure Value) → Progress
  | [] => .returned .null
  | .ok effect :: _ => .produced effect
  | .error failure :: _ => .raised failure

/-- What is left of such a body then. -/
def YieldsRest (session : Session) (index : Nat) : List (Except Failure Value) → Prop
  | .ok _ :: rest => Yields session index rest
  | _ => IsClosable session index

variable {effects : List (Except Failure Value)}

theorem Yields.keeps (yields : Yields before index effects) (keeps : Keeps before after) :
    Yields after index effects := by
  cases yields with
  | unstarted found => exact .unstarted (keeps _ _ found)
  | suspended next found answered failed => exact .suspended next (keeps _ _ found) answered failed

theorem Yields.isClosable (yields : Yields session index effects) : IsClosable session index := by
  cases yields with
  | unstarted found => exact .unstarted _ found
  | suspended next found answered failed => exact .suspended next found failed

theorem IsClosable.keeps (closable : IsClosable before index) (keeps : Keeps before after) :
    IsClosable after index := by
  cases closable with
  | unstarted body found => exact .unstarted body (keeps _ _ found)
  | suspended next found failed => exact .suspended next (keeps _ _ found) failed
  | finished outcome found => exact .finished outcome (keeps _ _ found)

theorem resume_of_routine? {object : RoutineObject} (library : Library)
    (found : session.routine? index = some object) (reply : Reply) :
    session.resume library index reply
      = resumeObject library (resumeWithin library 999) index object reply session := by
  show resumeWithin library (999 + 1) index reply session = _
  rw [resumeWithin]
  dsimp only
  rw [found]

theorem run_of_yields (library : Library) (yields : Yields session index effects) :
    session.resume library index (.ok .null)
      = run library (resumeWithin library 999) index .generator (.yieldAll effects)
          (session.setState index .running) := by
  cases yields with
  | unstarted found => exact resume_of_routine? library found _
  | suspended next found answered failed =>
      rw [resume_of_routine? library found, ← answered]
      rfl

theorem Yields.exists_object (yields : Yields session index effects) :
    ∃ state, session.routine? index = some ⟨.generator, state⟩ := by
  cases yields with
  | unstarted found => exact ⟨_, found⟩
  | suspended next found answered failed => exact ⟨_, found⟩

variable (library : Library)

/-- Advancing a body that yields gives its first effect, or ends it. -/
theorem resume_yields (yields : Yields session index effects) :
    ∃ after, session.resume library index (.ok .null) = (progressOf effects, after) ∧
      KeepsBeside index session after ∧ YieldsRest after index effects := by
  rcases yields.exists_object with ⟨state, found⟩
  have running := routine?_setState_self found .running
  rw [run_of_yields library yields]
  rcases effects with _ | ⟨failure | effect, rest⟩
  all_goals
    refine ⟨_, rfl, (KeepsBeside.setState session index .running).trans (.setState _ index _), ?_⟩
  · exact .finished _ (routine?_setState_self running _)
  · exact .finished _ (routine?_setState_self running _)
  · exact .suspended _ (routine?_setState_self running _) rfl fun _ => rfl

theorem closeRoutine_of_isClosable (closable : IsClosable session index) :
    ∃ after, session.closeRoutine library index = (none, after) ∧
      KeepsBeside index session after := by
  unfold closeRoutine close
  cases closable with
  | unstarted body found =>
      rw [found]
      exact ⟨_, rfl, .setState session index _⟩
  | suspended next found failed =>
      have exited : session.resume library index (.error .exit)
          = (.raised .exit, (session.setState index .running).setState index
              (.finished (.error .exit))) := by
        rw [resume_of_routine? library found]
        show run library _ index .generator (next (.error .exit)) _ = _
        rw [failed]
        rfl
      rw [found]
      dsimp only
      rw [exited]
      exact ⟨_, rfl, (KeepsBeside.setState session index .running).trans (.setState _ index _)⟩
  | finished outcome found =>
      rw [found]
      exact ⟨_, rfl, fun _ _ _ found => found⟩

end Session
end HtmlStream
