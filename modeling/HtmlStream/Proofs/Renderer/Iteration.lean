import HtmlStream.Proofs.Renderer.Driving
import HtmlStream.Renderer.TextStream

/-!
Every render ends. A render is seen here one iteration at a time: it takes a turn, hands out a text,
or goes on with what it waited for. Between iterations bodies may go on elsewhere, but no body ever
gets further from its end. There is no bound for the number of iterations; there is only no infinite
branch. The main statements are `ends_opening` and `render_ends`.
-/
namespace HtmlStream

namespace Wait

/-- What the event loop may answer to a wait, and what it leaves: meanwhile bodies only go on, and an
effect of an async generator is one that it was advanced to. -/
inductive IsAnswered (library : Library) : Wait → Session → Reply → Session → Prop
  | gives {generator : RoutineReference} {answer effect : Value} {given : Reply}
      {before between after last : Session} (earlier : before.Progresses between)
      (advanced : between.resume library generator.index given = (.produced effect, after))
      (later : after.Progresses last) :
      IsAnswered library (.step generator answer) before (.ok effect) last
  | settles {pending : Pending} {answer : Value} {before after : Session}
      (progress : before.Progresses after) :
      IsAnswered library (.settle pending) before (.ok answer) after
  | fails {wait : Wait} {failure : Failure} {before after : Session}
      (progress : before.Progresses after) :
      IsAnswered library wait before (.error failure) after

namespace IsAnswered

variable {library : Library} {wait : Wait} {reply : Reply} {before after : Session}

theorem progresses (answered : wait.IsAnswered library before reply after) :
    before.Progresses after := by
  cases answered with
  | @gives generator _ _ given _ between _ _ earlier advanced later =>
      have advances := (Session.advancing_resume library generator.index given between).1
      rw [advanced] at advances
      exact (earlier.trans advances).trans later
  | settles progress | fails progress => exact progress

/-- An async generator that gave an effect has gone on. -/
theorem descends {generator : RoutineReference} {answer effect : Value}
    (answered : IsAnswered library (.step generator answer) before (.ok effect) after) :
    Session.Descends callLimit before after generator.index := by
  cases answered with
  | @gives _ _ _ given _ between _ _ earlier advanced later =>
      have advances := (Session.advancing_resume library generator.index given between).2
      rw [advanced] at advances
      exact earlier.descends ((advances trivial).trans later)

end IsAnswered

open Classical in
/-- The event loop that gives one answer to one wait, and cancels all others. -/
noncomputable def answeringOnce (wait : Wait) (before : Session) (reply : Reply) (after : Session) :
    LoopAnswers := fun other session =>
  if other = wait ∧ session = before then (reply, after)
  else Renderer.cancelling other session

variable {library : Library} {wait : Wait} {reply : Reply} {before after : Session}

theorem answeringOnce_self : answeringOnce wait before reply after wait before = (reply, after) :=
  if_pos ⟨rfl, rfl⟩

theorem isFaithful_answeringOnce (answered : wait.IsAnswered library before reply after) :
    (answeringOnce wait before reply after).IsFaithful where
  progresses other session := by
    unfold answeringOnce
    split
    · next same =>
        rcases same with ⟨rfl, rfl⟩
        exact answered.progresses
    · exact Renderer.isFaithful_cancelling.progresses other session
  descends generator answer session effect equal := by
    unfold answeringOnce at equal ⊢
    split
    · next same =>
        rcases same with ⟨rfl, rfl⟩
        rw [if_pos ⟨rfl, rfl⟩] at equal
        cases equal
        exact answered.descends
    · next other =>
        rw [if_neg other] at equal
        cases equal

end Wait

/-- The answer to a wait that is over at once; any other wait is cancelled. -/
def answeringAtOnce (library : Library) : LoopAnswers := fun wait session =>
  match session.beginRunWait library wait with
  | (.over reply, session) => (reply, session)
  | (.pending _, session) => (.error .cancellation, session)

theorem isAnswered_atOnce (library : Library) (wait : Wait) (session : Session) :
    wait.IsAnswered library session (answeringAtOnce library wait session).1
      (answeringAtOnce library wait session).2 := by
  unfold answeringAtOnce Session.beginRunWait
  cases wait with
  | step generator answer =>
      by_cases waits : session.isWaiting generator.index
      · simp only [waits, if_true]
        exact .fails (.refl session)
      · have advances := (Session.advancing_resume library generator.index (.ok answer) session).1
        simp only [waits, Session.stepAsyncGenerator]
        cases advanced : session.resume library generator.index (.ok answer) with
        | mk progress after =>
            rw [advanced] at advances
            cases progress with
            | produced effect => exact .gives (.refl session) advanced (.refl after)
            | waiting | returned | raised => exact .fails advances
  | settle pending =>
      cases pending with
      | value value => cases value <;> exact .fails (.refl session)
      | forever | task => exact .fails (.refl session)

def Turn.IsOver : Turn → Prop
  | .finished | .failed _ => True
  | .proceed | .chunk _ | .wait _ => False

def RunStep.IsOver : RunStep → Prop
  | .finished | .failed _ => True
  | .chunk _ | .wait _ => False

namespace Renderer

/-- One iteration of a render after another. -/
inductive Iterates (library : Library) : (before after : Turned) → Prop
  | turns (renderer : Renderer) (session : Session) :
      Iterates library (.proceed, renderer, session) (renderer.turn library session)
  | handsOut (text : String) (renderer : Renderer) {session later : Session}
      (elsewhere : session.Progresses later) :
      Iterates library (.chunk text, renderer, session) (.proceed, renderer, later)
  | goesOn (renderer : Renderer) {wait : Wait} {session later : Session} {reply : Reply}
      (answered : wait.IsAnswered library session reply later) :
      Iterates library (.wait wait, renderer, session)
        (renderer.afterWait library wait reply later)

/-- Whatever its iterations are, a render comes to an end from there. -/
def Ends (library : Library) (turned : Turned) : Prop :=
  Acc (fun after before => Iterates library before after) turned

variable {library : Library} {turned : Turned}

theorem Iterates.eq_turn {before : Renderer × Session}
    (iterates : Iterates library (.proceed, before) turned) :
    turned = before.1.turn library before.2 := by
  cases iterates
  rfl

theorem ends_of_isOver (ended : turned.1.IsOver) : Ends library turned := by
  refine Acc.intro _ fun next iterates => ?_
  cases iterates <;> exact ended.elim

/-- A render that goes on ends if it does from the turn that comes next, whatever bodies have done
until then. -/
theorem ends_of_goesOn (goesOn : turned.1.GoesOn)
    (ends : ∀ later, turned.2.2.Progresses later →
      Ends library (.proceed, turned.2.1, later)) : Ends library turned := by
  rcases turned with ⟨turn, renderer, session⟩
  cases turn with
  | proceed => exact ends session (.refl session)
  | chunk text =>
      refine Acc.intro _ fun next iterates => ?_
      cases iterates with
      | handsOut _ _ elsewhere => exact ends _ elsewhere
  | wait | finished | failed => exact goesOn.elim

/-- A render ends that cannot be led on for ever by any event loop. -/
theorem ends_of_acc {before : Renderer × Session} (acc : Acc (CanLead library) before)
    (ready : AreReady before.1.frames) : Ends library (.proceed, before) := by
  induction acc with
  | intro before _ induction =>
      -- An event loop leads to every turn that goes on.
      have led : ∀ {answers : LoopAnswers} {turned : Turned}, answers.IsFaithful →
          answering library answers (before.1.turn library before.2) = turned →
          turned.1.GoesOn → Ends library turned := by
        intro answers turned faithful taken goesOn
        have leads : LeadsTo library answers turned.2 before := by
          unfold LeadsTo
          rw [taken]
          exact ⟨goesOn, rfl⟩
        apply ends_of_goesOn goesOn
        intro later elsewhere
        exact induction (turned.2.1, later) ⟨answers, faithful, turned.2.2, leads, elsewhere⟩
          (leads.areReady library ready)
      refine Acc.intro _ fun turned iterates => ?_
      have taken := iterates.eq_turn
      rcases turned with ⟨turn, renderer, session⟩
      cases turn with
      | proceed | chunk =>
          refine led isFaithful_cancelling ?_ trivial
          rw [← taken]
          rfl
      | wait wait =>
          refine Acc.intro _ fun turned iterates => ?_
          cases iterates with
          | @goesOn _ _ _ later reply answered =>
              have granted : answering library (wait.answeringOnce session reply later)
                  (before.1.turn library before.2)
                    = renderer.afterWait library wait reply later := by
                rw [← taken]
                simp only [answering, Wait.answeringOnce_self]
              generalize renderer.afterWait library wait reply later = turned at granted
              rcases turned with ⟨turn, after⟩
              cases turn with
              | proceed | chunk =>
                  exact led (Wait.isFaithful_answeringOnce answered) granted trivial
              | wait other =>
                  exact absurd (congrArg Prod.fst granted) (answering_ne_wait library ready _ other)
              | finished | failed => exact ends_of_isOver trivial
      | finished | failed => exact ends_of_isOver trivial

/-- A render that has nothing on its stack when it begins comes to an end. -/
theorem ends_opening (library : Library) {start : Renderer} (empty : start.frames = [])
    (root : Value) (session : Session) : Ends library (start.opening library root session) := by
  have awake := opening_ne_wait library start root session
  by_cases goesOn : (start.opening library root session).1.GoesOn
  · apply ends_of_goesOn goesOn
    have ready := areReady_opening library empty goesOn
    intro later _
    exact ends_of_acc (acc_canLead library ready later) ready
  · apply ends_of_isOver
    generalize start.opening library root session = turned at awake goesOn
    rcases turned with ⟨turn, after⟩
    cases turn with
    | proceed | chunk => exact goesOn trivial
    | wait wait => exact absurd rfl (awake wait)
    | finished | failed => trivial

end Renderer

namespace Run

open Renderer

/-- How a consumer takes a run from one step to the next: it goes on after a text with an answer or a
failure, or with what the run waited for. -/
inductive Continues (library : Library) : (before after : Stepped) → Prop
  | afterChunk {text : String} {run : Run} {paused later : Session}
      (elsewhere : paused.Progresses later) (reply : Reply) :
      Continues library (.chunk text, run, paused) (run.resume library reply later)
  | afterWait {wait : Wait} {run : Run} {paused later : Session} {reply : Reply}
      (answered : wait.IsAnswered library paused reply later) :
      Continues library (.wait wait, run, paused) (run.resume library reply later)

/-- However a consumer goes on with it, a run comes to an end from there. -/
def Ends (library : Library) (stepped : Stepped) : Prop :=
  Acc (fun after before => Continues library before after) stepped

variable {library : Library} {turned : Turned}

/-- What a run gives after a turn it gives after a pause that the turn comes to. -/
theorem exists_pause (ends : Renderer.Ends library turned) :
    ∃ last, Relation.ReflTransGen (Iterates library) turned last ∧ last.1 ≠ .proceed ∧
      Run.proceed library turned = Run.proceed library last := by
  induction ends with
  | intro turned _ induction =>
      rcases turned with ⟨turn, renderer, session⟩
      by_cases goesOn : turn = .proceed
      · subst goesOn
        have turns : Iterates library _ _ := .turns renderer session
        rcases induction _ turns with ⟨last, reaches, pauses, same⟩
        exact ⟨last, .head turns reaches, pauses, (proceed_turn library renderer session).trans same⟩
      · exact ⟨_, .refl, goesOn, rfl⟩

theorem ends_of_isOver {stepped : Stepped} (ended : stepped.1.IsOver) : Ends library stepped := by
  refine Acc.intro _ fun next continues => ?_
  cases continues <;> exact ended.elim

/-- From one pause of a run to the next there is at least one iteration. -/
theorem ends_proceed (ends : Renderer.Ends library turned) :
    Ends library (Run.proceed library turned) := by
  have path := ends.transGen
  induction path with
  | intro turned _ induction =>
      rcases exists_pause ends with ⟨last, reaches, pauses, same⟩
      have later : ∀ {next}, Iterates library last next →
          Ends library (Run.proceed library next) := by
        intro next iterates
        have path := Relation.transGen_swap.mpr (Relation.TransGen.tail' reaches iterates)
        exact induction next path (ends.inv_of_transGen path)
      rw [same]
      rcases last with ⟨turn, renderer, session⟩
      cases turn with
      | proceed => exact absurd rfl pauses
      | chunk text =>
          refine Acc.intro _ fun next continues => ?_
          cases continues with
          | afterChunk elsewhere reply =>
              cases reply with
              | ok answer => exact later (.handsOut text renderer elsewhere)
              | error failure => exact ends_of_isOver trivial
      | wait wait =>
          refine Acc.intro _ fun next continues => ?_
          cases continues with
          | afterWait answered => exact later (.goesOn renderer answered)
      | finished | failed => exact ends_of_isOver trivial

end Run

/-! ## Every render -/

/-- Whatever has no infinite branch comes to an end along each of its branches. -/
theorem exists_ended_of_acc {State : Type} {Next : State → State → Prop} {first : State}
    (acc : Acc (fun after before => Next before after) first) (Ended : State → Prop)
    (states : Nat → State) (begins : states 0 = first)
    (goesOn : ∀ count, Next (states count) (states (count + 1)) ∨ Ended (states count)) :
    ∃ count, Ended (states count) := by
  induction acc generalizing states with
  | intro first _ induction =>
      rcases goesOn 0 with next | ended
      · rcases induction (states 1) (begins ▸ next) (fun count => states (count + 1)) rfl
          (fun count => goesOn (count + 1)) with ⟨count, ended⟩
        exact ⟨count + 1, ended⟩
      · exact ⟨0, ended⟩

/-- Every render comes to an end after finitely many iterations, and so does every run of it after
finitely many steps, however its waits are answered and whatever bodies do in between. -/
theorem Renderer.render_ends (library : Library) (providers : Registry) (settings : Settings)
    (context : Nat) (root : Value) (session : Session) :
    let start := Renderer.start providers settings context
    (∀ states : Nat → Turned, states 0 = start.opening library root session →
      (∀ count, Iterates library (states count) (states (count + 1)) ∨
        (states count).1.IsOver) →
      ∃ count, (states count).1.IsOver) ∧
    (∀ steps : Nat → Stepped,
      steps 0 = (Run.start start root).resume library (.ok .null) session →
      (∀ count, Run.Continues library (steps count) (steps (count + 1)) ∨
        (steps count).1.IsOver) →
      ∃ count, (steps count).1.IsOver) := by
  intro start
  have ends : Ends library (start.opening library root session) :=
    ends_opening library rfl root session
  constructor
  · intro states begins goesOn
    exact exists_ended_of_acc ends (fun turned => turned.1.IsOver) states begins goesOn
  · intro steps begins goesOn
    have begun : (Run.start start root).resume library (.ok .null) session
        = Run.proceed library (start.opening library root session) := begin_eq_proceed library rfl
    exact exists_ended_of_acc (Run.ends_proceed ends) (fun stepped => stepped.1.IsOver) steps
      (begins.trans begun) goesOn

/-- The next state of a render whose waits are answered at once. -/
def Renderer.iterated (library : Library) : Turned → Turned
  | (.proceed, renderer, session) => renderer.turn library session
  | (.chunk _, renderer, session) => (.proceed, renderer, session)
  | (.wait wait, renderer, session) =>
      let (reply, session) := answeringAtOnce library wait session
      renderer.afterWait library wait reply session
  | ended => ended

theorem Renderer.iterates_iterated (library : Library) (turned : Turned) :
    Iterates library turned (iterated library turned) ∨ turned.1.IsOver := by
  rcases turned with ⟨turn, renderer, session⟩
  cases turn with
  | proceed => exact .inl (.turns renderer session)
  | chunk text => exact .inl (.handsOut text renderer (.refl session))
  | wait wait => exact .inl (.goesOn renderer (isAnswered_atOnce library wait session))
  | finished | failed => exact .inr trivial

/-- The next step of a run whose waits are answered at once. -/
def Run.stepped (library : Library) : Stepped → Stepped
  | (.chunk _, run, session) => run.resume library (.ok .null) session
  | (.wait wait, run, session) =>
      let (reply, session) := answeringAtOnce library wait session
      run.resume library reply session
  | ended => ended

theorem Run.continues_stepped (library : Library) (stepped : Stepped) :
    Continues library stepped (Run.stepped library stepped) ∨ stepped.1.IsOver := by
  rcases stepped with ⟨step, run, session⟩
  cases step with
  | chunk text => exact .inl (.afterChunk (.refl session) (.ok .null))
  | wait wait => exact .inl (.afterWait (isAnswered_atOnce library wait session))
  | finished | failed => exact .inr trivial

namespace Sample

def nesting : ComponentReference := ⟨"Nesting", some .generator, true⟩

/-- A body that calls its own component and yields the body that it gets. -/
def nestingBody : Routine :=
  .act (.call (.component nesting) []) fun
    | .ok body => .suspend (.effect body) .finish
    | .error failure => .finish (.error failure)

def nestingLibrary : Library := [⟨nesting, ⟨[], [], [], none⟩, fun _ => nestingBody⟩]

def nestingSession : Session :=
  { session with routines := #[⟨.generator, .unstarted nestingBody⟩] }

def nestingPage : Value := .routine ⟨.generator, 0, "Nesting"⟩

end Sample

/-- A component that goes on nesting itself ends all the same. -/
theorem Renderer.render_ends_nesting :
    let start := Renderer.start [] Settings.standard 0
    let opening := start.opening Sample.nestingLibrary Sample.nestingPage Sample.nestingSession
    let begun := (Run.start start Sample.nestingPage).resume Sample.nestingLibrary (.ok .null)
      Sample.nestingSession
    (∃ count, ((iterated Sample.nestingLibrary)^[count] opening).1.IsOver) ∧
      ∃ count, ((Run.stepped Sample.nestingLibrary)^[count] begun).1.IsOver := by
  intro start opening begun
  have ends := render_ends Sample.nestingLibrary [] Settings.standard 0 Sample.nestingPage
    Sample.nestingSession
  constructor
  · apply ends.1 (fun count => (iterated Sample.nestingLibrary)^[count] opening) rfl
    intro count
    rw [Function.iterate_succ_apply']
    exact iterates_iterated Sample.nestingLibrary _
  · apply ends.2 (fun count => (Run.stepped Sample.nestingLibrary)^[count] begun) rfl
    intro count
    rw [Function.iterate_succ_apply']
    exact Run.continues_stepped Sample.nestingLibrary _

end HtmlStream
