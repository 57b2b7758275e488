import HtmlStream.Proofs.Routine.Stripping

/-!
Bodies are advanced in step with the same bodies without their registrations. Once a registration is
not apart from bodies nothing is claimed any more, and that stays so. The main statement is
`follows_resume`.
-/
namespace HtmlStream.Session

variable {origin left right : Session} {α : Type}

theorem Follows.cases {left right : α × Session} (follows : Follows origin left right) :
    origin.IsEntangled left.2 ∨ ∃ value leftAfter rightAfter, left = (value, leftAfter) ∧
      right = (value, rightAfter) ∧ origin.Shadows leftAfter rightAfter :=
  follows.imp_right After.exists

/-- What a result comes to that is followed. -/
theorem Follows.of_eq {right : α × Session} {value : α} {leftAfter : Session}
    {left : α × Session} (follows : Follows origin left right) (came : left = (value, leftAfter)) :
    origin.IsEntangled leftAfter ∨
      ∃ rightAfter, right = (value, rightAfter) ∧ origin.Shadows leftAfter rightAfter := by
  subst came
  rcases follows.cases with entangled | ⟨_, _, rightAfter, ⟨⟩, onRight, after⟩
  · exact .inl entangled
  · exact .inr ⟨rightAfter, onRight, after⟩

/-- A way to advance bodies that follows another one. -/
def FollowedBy (origin : Session) (resume bare : Resumption) : Prop :=
  ∀ index reply {left right}, origin.Shadows left right →
    Follows origin (resume index reply left) (bare index reply right)

section Actions

variable {library : Library} {resume bare : Resumption}
  (keeps : Respects (Diagonal origin.IsEntangled) resume)
  (followed : FollowedBy origin resume bare)

theorem isEntangled_close (keeps : Respects (Diagonal origin.IsEntangled) resume)
    (entangled : origin.IsEntangled left) (index : Nat) :
    origin.IsEntangled (close resume index left).2 :=
  (after_close (keptByBodies_isEntangled origin).congruence keeps ⟨rfl, entangled⟩ index).2.2

theorem isEntangled_release (keeps : Respects (Diagonal origin.IsEntangled) resume)
    (entangled : origin.IsEntangled left) (generators : List Nat) (result : Value) :
    origin.IsEntangled (release resume generators result left) :=
  (alike_release (keptByBodies_isEntangled origin).congruence keeps ⟨rfl, entangled⟩ generators
    result).2

theorem isEntangled_run (library : Library)
    (keeps : Respects (Diagonal origin.IsEntangled) resume)
    (entangled : origin.IsEntangled left) (index : Nat) (kind : RoutineKind) (routine : Routine) :
    origin.IsEntangled (run library resume index kind routine left).2 :=
  (after_run (library.readsOnly_of_all fun _ => trivial)
    (keptByBodies_isEntangled origin).congruence keeps ⟨rfl, entangled⟩ index kind
    (routine.readsOnly_of_all fun _ => trivial)).2.2

theorem Shadows.startTask (shadows : origin.Shadows left right) (body : Routine) :
    After origin.Shadows (left.startTask body) (right.startTask body.stripped) := by
  rcases (shadows.addRoutine .coroutine "task" body).exists with
    ⟨task, leftAfter, rightAfter, onLeft, onRight, shadowsAfter⟩
  have current := shadowsAfter.read_eq Session.current fun _ _ _ _ => rfl
  unfold Session.startTask
  rw [onLeft, onRight]
  dsimp only
  rw [current]
  refine ⟨rfl, ?_⟩
  dsimp only
  exact shadowsAfter.write (withLoop · _)

theorem Shadows.withContext (shadows : origin.Shadows left right)
    {onLeft onRight : Nat → RenderContext → Reply × Session}
    (after : ∀ index context, After origin.Shadows (onLeft index context) (onRight index context)) :
    After origin.Shadows (left.withContext onLeft) (right.withContext onRight) := by
  unfold Session.withContext
  rw [shadows.read_eq Session.current fun _ _ _ _ => rfl]
  split
  · exact ⟨rfl, shadows⟩
  · next index _ =>
      rw [shadows.read_eq (context? · index) fun _ _ _ _ => rfl]
      split
      · exact ⟨rfl, shadows⟩
      · next context _ => exact after index context

theorem signature?_stripped (library : Library) (value : Value) :
    signature? library.stripped value = signature? library value := by
  cases value with
  | component reference =>
      have found := library.find?_stripped reference
      show Option.map Component.signature _ = _
      rw [found, Option.map_map]
      rfl
  | _ => rfl

include followed

theorem follows_close (shadows : origin.Shadows left right) (index : Nat) :
    Follows origin (close resume index left) (close bare index right) := by
  unfold close
  rw [shadows.routine?_eq]
  cases left.routine? index with
  | none => exact shadows.follows none
  | some object =>
      have exited := (followed index (.error .exit) shadows).cases
      rcases object with ⟨kind, state⟩
      cases state with
      | unstarted body => exact (shadows.setState index (.finished (.ok .null))).follows none
      | running | finished => exact shadows.follows _
      | suspended | waiting | delegating =>
          dsimp only [Option.map, RoutineObject.stripped, RoutineState.stripped]
          rcases exited with entangled | ⟨progress, leftAfter, rightAfter, onLeft, onRight, after⟩
          · refine .inl ?_
            generalize resume index (.error .exit) left = exited at entangled
            rcases exited with ⟨progress, later⟩
            cases progress with
            | raised failure => cases failure <;> exact entangled
            | _ => exact entangled
          · rw [onLeft, onRight]
            cases progress with
            | raised failure => cases failure <;> exact after.follows _
            | _ => exact after.follows _

include keeps

theorem follows_release (shadows : origin.Shadows left right) (generators : List Nat)
    (result : Value) (answer : α) :
    Follows origin (answer, release resume generators result left)
      (answer, release bare generators result right) := by
  induction generators generalizing left right with
  | nil => exact shadows.follows answer
  | cons index rest induction =>
      have step (advance : Resumption) (session : Session) :
          release advance (index :: rest) result session = release advance rest result
            (if result.holds index || session.holds index then session
              else (close advance index session).2) := rfl
      rw [step, step, shadows.holds_eq]
      split
      · exact induction shadows
      · rcases (follows_close followed shadows index).cases with
          entangled | ⟨closing, leftAfter, rightAfter, onLeft, onRight, after⟩
        · exact .inl (isEntangled_release keeps entangled rest result)
        · rw [onLeft, onRight]
          exact induction after

omit keeps in
theorem follows_runToEnd (shadows : origin.Shadows left right) (name : String) (body : Routine) :
    Follows origin (runToEnd resume name body left) (runToEnd bare name body.stripped right) := by
  rcases (shadows.addRoutine .generator name body).exists with
    ⟨made, leftAdded, rightAdded, addedLeft, addedRight, added⟩
  unfold runToEnd
  rw [addedLeft, addedRight]
  dsimp only
  rcases (followed made.index (.ok .null) added).cases with
    entangled | ⟨progress, leftAfter, rightAfter, onLeft, onRight, after⟩
  · refine .inl ?_
    generalize resume made.index (.ok .null) leftAdded = resumed at entangled
    rcases resumed with ⟨progress, later⟩
    cases progress <;> exact entangled
  · rw [onLeft, onRight]
    cases progress <;> exact after.follows _

omit keeps in
theorem follows_callComponent (shadows : origin.Shadows left right)
    (reference : ComponentReference) (arguments : Entries) :
    Follows origin (callComponent library resume reference arguments left)
      (callComponent library.stripped bare reference arguments right) := by
  have foundToo := library.find?_stripped reference
  cases found : library.find? reference with
  | none =>
      rw [found] at foundToo
      unfold callComponent
      rw [found, foundToo]
      exact shadows.follows _
  | some component =>
      rw [found, Option.map_some] at foundToo
      rw [callComponent_of_find? found, callComponent_of_find? foundToo]
      dsimp only [Component.stripped]
      split
      · exact shadows.follows _
      · next bindings _ =>
          split
          · next kind _ =>
              rcases (shadows.addRoutine kind reference.name (component.body bindings)).exists with
                ⟨body, leftAfter, rightAfter, onLeft, onRight, after⟩
              rw [onLeft, onRight]
              exact after.follows _
          · exact follows_runToEnd followed shadows reference.name (component.body bindings)

omit keeps in
theorem follows_call (shadows : origin.Shadows left right) (callee : Value)
    (arguments : Entries) :
    Follows origin (call library resume callee arguments left)
      (call library.stripped bare callee arguments right) := by
  cases callee with
  | component reference => exact follows_callComponent followed shadows reference arguments
  | depthProbe =>
      unfold call
      rw [shadows.read_eq liveFrames fun _ _ _ _ => rfl]
      exact shadows.follows _
  | _ => exact shadows.follows _

theorem follows_expand (shadows : origin.Shadows left right) (component : Value)
    (attributes : Entries) (children : List Value) :
    Follows origin (expand library resume component attributes children left)
      (expand library.stripped bare component attributes children right) := by
  unfold expand
  rw [signature?_stripped]
  dsimp only
  rcases (follows_call followed shadows component
    (Component.argumentsFor (signature? library component) attributes children)).cases with
    entangled | ⟨reply, leftAfter, rightAfter, onLeft, onRight, after⟩
  · refine .inl ?_
    generalize call library resume component _ left = called at entangled
    rcases called with ⟨reply, later⟩
    cases reply with
    | error failure => exact entangled
    | ok result =>
        cases result with
        | routine reference =>
            dsimp only
            cases reference.kind with
            | generator | asyncGenerator => exact entangled
            | coroutine =>
                have closed := isEntangled_close keeps entangled reference.index
                generalize close resume reference.index later = closing at closed
                rcases closing with ⟨failure?, last⟩
                cases failure? <;> exact closed
        | _ => exact entangled
  · rw [onLeft, onRight]
    cases reply with
    | error failure => exact after.follows _
    | ok result =>
        cases result with
        | routine reference =>
            dsimp only
            cases reference.kind with
            | generator | asyncGenerator => exact after.follows _
            | coroutine =>
                dsimp only
                rcases (follows_close followed after reference.index).cases with
                  entangled | ⟨closing, leftClosed, rightClosed, onLeft, onRight, closed⟩
                · refine .inl ?_
                  generalize close resume reference.index leftAfter = closing at entangled
                  rcases closing with ⟨failure?, last⟩
                  cases failure? <;> exact entangled
                · rw [onLeft, onRight]
                  cases closing <;> exact closed.follows _
        | _ => exact after.follows _

omit keeps followed in
/-- A registration that is not apart from bodies entangles the session for good. -/
theorem Shadows.isEntangled_enroll (shadows : origin.Shadows left right)
    {entry : Token × Provider} (notApart : ¬ origin.IsApart entry) :
    origin.IsEntangled (left.enroll entry) := by
  rcases shadows.since with ⟨made, registered⟩
  exact ⟨entry :: made, congrArg (entry :: ·) registered, entry, List.mem_cons_self, notApart⟩

theorem follows_carryOut (shadows : origin.Shadows left right) {action : Action}
    (registersNot : action.isRegistration = false) :
    Follows origin (carryOut library resume action left)
      (carryOut library.stripped bare action right) := by
  cases action with
  | log value =>
      unfold carryOut
      dsimp only
      split
      · exact (shadows.write (record · _)).follows _
      · exact shadows.follows _
  | lookup name =>
      have same := shadows.read_eq (lookup · name) fun _ _ _ _ => rfl
      exact .of_after ⟨same.symm, shadows⟩
  | call callee arguments => exact follows_call followed shadows callee arguments
  | expand component attributes children =>
      exact follows_expand keeps followed shadows component attributes children
  | readContext field => exact .of_after (shadows.withContext fun _ _ => ⟨rfl, shadows⟩)
  | readMeta key default => exact .of_after (shadows.withContext fun _ _ => ⟨rfl, shadows⟩)
  | writeMeta key value =>
      exact .of_after (shadows.withContext fun index _ =>
        ⟨rfl, shadows.write (modifyContext · index fun context => context.setMeta key value)⟩)
  | register key source =>
      unfold Action.isRegistration at registersNot
      dsimp only at registersNot
      show Follows origin (register left key source) (register right key source)
      unfold register
      cases entry : Registry.entryFor key source with
      | ok entry =>
          rw [entry] at registersNot
          cases registersNot
      | error fault => exact shadows.follows _
  | discard index =>
      rcases (follows_close followed shadows index).cases with
        entangled | ⟨closing, leftAfter, rightAfter, onLeft, onRight, after⟩
      · exact .inl entangled
      · show Follows origin (Except.ok Value.null, (close resume index left).2)
          (Except.ok Value.null, (close bare index right).2)
        rw [onLeft, onRight]
        exact after.follows _
  | release generators result =>
      exact follows_release keeps followed shadows generators result
        (Except.ok Value.null : Reply)
  | outcome index =>
      have same : outcome index right = outcome index left := by
        unfold outcome
        rw [shadows.routine?_eq]
        rcases left.routine? index with _ | ⟨kind, _ | _ | _ | _ | _ | _⟩ <;> rfl
      exact .of_after ⟨same.symm, shadows⟩

/-! ## Running -/

omit keeps followed in
theorem isAwaited_eq (shadows : origin.Shadows left right) (target : RoutineReference) :
    right.isAwaited target = left.isAwaited target := by
  unfold isAwaited
  rw [shadows.routine?_eq]
  rcases left.routine? target.index with _ | ⟨kind, _ | _ | _ | _ | _ | _⟩ <;> rfl

omit keeps followed in
theorem Shadows.hasEnded_eq (shadows : origin.Shadows left right) (index : Nat) :
    right.hasEnded index = left.hasEnded index := by
  unfold hasEnded
  rw [shadows.routine?_eq]
  rcases left.routine? index with _ | ⟨kind, _ | _ | _ | _ | _ | _⟩ <;> rfl

omit keeps followed in
theorem Shadows.isOver_eq (shadows : origin.Shadows left right) (pending : Pending) :
    right.isOver pending = left.isOver pending := by
  cases pending with
  | task index => exact shadows.hasEnded_eq index
  | value | forever => rfl

/-- A body that has handed over stays where it is, or goes on with what the other one came to. -/
theorem follows_advanceTarget (shadows : origin.Shadows left right) (index : Nat)
    (kind : RoutineKind) (target : Nat) (next : Reply → Routine) (reply : Reply)
    (goesOn : ∀ answer leftAfter rightAfter, origin.Shadows leftAfter rightAfter →
      Follows origin (run library resume index kind (next answer) leftAfter)
        (run library.stripped bare index kind (next answer).stripped rightAfter)) :
    Follows origin (advanceTarget library resume index kind target next reply left)
      (advanceTarget library.stripped bare index kind target (fun answer => (next answer).stripped)
        reply right) := by
  unfold advanceTarget
  rcases (followed target reply shadows).cases with
    entangled | ⟨progress, leftAfter, rightAfter, onLeft, onRight, after⟩
  · refine .inl ?_
    generalize resume target reply left = resumed at entangled
    rcases resumed with ⟨progress, later⟩
    cases progress with
    | returned value | raised failure => exact isEntangled_run library keeps entangled index kind _
    | produced effect | waiting pending =>
        exact (keptByBodies_isEntangled origin).blind entangled ..
  · rw [onLeft, onRight]
    cases progress with
    | returned value | raised failure => exact goesOn _ leftAfter rightAfter after
    | produced effect | waiting pending =>
        exact (after.setState index (.delegating target next)).follows _

/-- The induction is on what the body still has to do. -/
theorem follows_run (shadows : origin.Shadows left right) (index : Nat) (kind : RoutineKind)
    (routine : Routine) :
    Follows origin (run library resume index kind routine left)
      (run library.stripped bare index kind routine.stripped right) := by
  have entangles : ∀ {between : Session} (rest : Routine), origin.IsEntangled between →
      origin.IsEntangled (run library resume index kind rest between).2 :=
    fun rest entangled => isEntangled_run library keeps entangled index kind rest
  induction routine generalizing left right with
  | finish result => exact (shadows.setState index (.finished _)).follows _
  | reserve count next induction =>
      unfold Routine.stripped run
      rw [shadows.read_eq nextIdentity fun _ _ _ _ => rfl]
      exact induction left.nextIdentity
        (shadows.write ({ · with nextIdentity := left.nextIdentity + count }))
  | act action next induction =>
      cases registers : action.isRegistration with
      | true =>
          rw [Routine.stripped_registration registers]
          rcases exists_entry_of_isRegistration registers with ⟨key, source, entry, rfl, accepted⟩
          have enrolls : carryOut library resume (.register key source) left
              = (.ok .null, left.enroll entry) := by
            show register left key source = _
            unfold register
            rw [accepted]
          rw [run, enrolls]
          rcases Classical.em (origin.IsApart entry) with apart | notApart
          · exact induction (.ok .null) (shadows.enroll apart)
          · exact .inl (entangles _ (shadows.isEntangled_enroll notApart))
      | false =>
          rw [Routine.stripped_act registers]
          unfold run
          rcases (follows_carryOut keeps followed shadows registers).cases with
            entangled | ⟨reply, leftAfter, rightAfter, onLeft, onRight, after⟩
          · exact .inl (entangles _ entangled)
          · rw [onLeft, onRight]
            exact induction reply after
  | advance target next induction =>
      unfold Routine.stripped run
      rcases (followed target (.ok .null) shadows).cases with
        entangled | ⟨progress, leftAfter, rightAfter, onLeft, onRight, after⟩
      · exact .inl (entangles _ entangled)
      · rw [onLeft, onRight]
        exact induction (advancedBy progress) after
  | start body next _ induction =>
      rcases (shadows.startTask body).exists with
        ⟨task, leftAfter, rightAfter, onLeft, onRight, after⟩
      unfold Routine.stripped run
      rw [onLeft, onRight]
      exact induction task after
  | suspend suspension next induction =>
      cases suspension with
      | effect value => exact (shadows.setState index (.suspended next)).follows _
      | wait pending => exact (shadows.setState index (.waiting pending next)).follows _
      | delegate target =>
          unfold Routine.stripped
          rw [run_delegate, run_delegate, isAwaited_eq shadows]
          split
          · exact induction _ shadows
          · exact follows_advanceTarget keeps followed shadows index kind target.index next
              (.ok .null) fun answer _ _ after => induction answer after
      | iterate node =>
          rcases (shadows.addRoutine .generator "element" node.body).exists with
            ⟨target, leftOpened, rightOpened, onLeft, onRight, opened⟩
          rw [node.stripped_body] at onRight
          unfold Routine.stripped
          rw [run_iterate, run_iterate, onLeft, onRight]
          exact follows_advanceTarget keeps followed opened index kind target.index next (.ok .null)
            fun answer _ _ after => induction answer after

theorem follows_resumeDelegating (shadows : origin.Shadows left right) (index : Nat)
    (kind : RoutineKind) (target : Nat) (next : Reply → Routine) (reply : Reply) :
    Follows origin (resumeDelegating library resume index kind target next reply left)
      (resumeDelegating library.stripped bare index kind target
        (fun answer => (next answer).stripped) reply right) := by
  have advanced : Follows origin (advanceTarget library resume index kind target next reply left)
      (advanceTarget library.stripped bare index kind target (fun answer => (next answer).stripped)
        reply right) :=
    follows_advanceTarget keeps followed shadows index kind target next reply
      fun answer _ _ after => follows_run keeps followed after index kind (next answer)
  cases reply with
  | ok answer => exact advanced
  | error failure =>
      cases failure with
      | exit =>
          unfold resumeDelegating
          dsimp only
          rcases (follows_close followed shadows target).cases with
            entangled | ⟨closing, leftAfter, rightAfter, onLeft, onRight, after⟩
          · refine .inl ?_
            generalize close resume target left = closing at entangled
            rcases closing with ⟨failure?, later⟩
            cases failure? <;> exact isEntangled_run library keeps entangled index kind _
          · rw [onLeft, onRight]
            cases closing <;> exact follows_run keeps followed after index kind _
      | _ => exact advanced

theorem follows_resumeObject (shadows : origin.Shadows left right) (index : Nat)
    (object : RoutineObject) (reply : Reply) :
    Follows origin (resumeObject library resume index object reply left)
      (resumeObject library.stripped bare index object.stripped reply right) := by
  have running := shadows.setState index .running
  rcases object with ⟨kind, state⟩
  unfold resumeObject RoutineObject.stripped
  cases state with
  | unstarted body =>
      dsimp only [RoutineState.stripped]
      unfold startBody
      split
      · exact follows_run keeps followed running index kind body
      · exact shadows.follows _
      · exact (shadows.setState index (.finished _)).follows _
  | suspended next | waiting _ next =>
      exact follows_run keeps followed running index kind (next reply)
  | delegating target next =>
      exact follows_resumeDelegating keeps followed running index kind target next reply
  | running | finished => exact shadows.follows _

end Actions

theorem respects_isEntangled (origin : Session) (library : Library) (calls : Nat) :
    Respects (Diagonal origin.IsEntangled) (resumeWithin library calls) :=
  respects_resumeWithin (library.readsOnly_of_all fun _ => trivial)
    (keptByBodies_isEntangled origin).congruence calls

/-- The induction is on how many more calls may be nested. -/
theorem followedBy_resumeWithin (origin : Session) (library : Library) (calls : Nat) :
    FollowedBy origin (resumeWithin library calls) (resumeWithin library.stripped calls) := by
  induction calls with
  | zero => exact fun _ _ _ _ shadows => shadows.follows _
  | succ calls induction =>
      intro index reply left right shadows
      unfold resumeWithin
      rw [shadows.routine?_eq]
      cases left.routine? index with
      | none => exact shadows.follows _
      | some object =>
          exact follows_resumeObject (respects_isEntangled origin library calls) induction shadows
            index object reply

/-- Bodies that register, and the same bodies without their registrations, are advanced in step. -/
theorem follows_resume (origin : Session) (library : Library) :
    FollowedBy origin (resume library) (resume library.stripped) :=
  followedBy_resumeWithin origin library callLimit

theorem follows_closeRoutine (library : Library) (shadows : origin.Shadows left right)
    (index : Nat) :
    Follows origin (left.closeRoutine library index) (right.closeRoutine library.stripped index) :=
  follows_close (follows_resume origin library) shadows index

end HtmlStream.Session
