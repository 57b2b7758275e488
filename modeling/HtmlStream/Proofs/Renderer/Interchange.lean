import HtmlStream.Proofs.Renderer.Iteration
import HtmlStream.Proofs.Renderer.Standing
import HtmlStream.Script.Statement

/-!
Handing over by delegating and by yielding. A calm render gives the same when every body yields the
generators and elements that it hands over to, so two programs give the same that differ in this
only.
-/
namespace HtmlStream

/-- What takes over when a generator hands over to it, and is driven first when it is yielded. -/
def Value.TakesOver : Value → Prop
  | .routine body => body.kind = .generator
  | .element .. | .token _ => True
  | _ => False

/-- Where one body hands over and the other one yields, the two are the same once all bodies
yield. -/
theorem Script.yielding_delegateTo {target : Value} (takes : target.TakesOver)
    {rest other : Reply → Routine}
    (alike : ∀ reply, (other reply).yielding = (rest reply).yielding) :
    Routine.yielding (Work.yield target other) = Routine.yielding (delegateTo target rest) := by
  have onward : (fun reply => (other reply).yielding) = fun reply => (rest reply).yielding :=
    funext alike
  cases target with
  | routine body =>
      have same := Suspension.yielding_delegate_generator takes
      unfold delegateTo
      dsimp only
      rw [show body.kind = .generator from takes]
      unfold Work.yield Work.suspend Routine.yielding
      rw [same, onward]
      rfl
  | element identity type attributes children | token token =>
      unfold Work.yield delegateTo Work.suspend Routine.yielding
      rw [onward]
      rfl
  | _ => exact takes.elim

namespace Renderer

open Session

variable {library : Library} {loop : Library → LoopAnswers} {renderer : Renderer}

/-! ## Answers -/

/-- A wait that is over at once is answered in the same way, if the async generator that is waited
for is advanced calmly. -/
theorem answersAlike_atOnce (library : Library) (wait : Wait) {outer : List Frame}
    {session : Session}
    (calm : ∀ generator answer, wait = .step generator answer →
      calmWithin library callLimit false (session.IsAtWork outer) generator.index (.ok answer)
        session) :
    session.AnswersAlike answeringAtOnce library wait outer := by
  intro twins other mirrors areBusy
  unfold answeringAtOnce beginRunWait
  cases wait with
  | settle pending =>
      cases pending with
      | value value => cases value <;> exact ⟨rfl, mirrors⟩
      | forever | task => exact ⟨rfl, mirrors⟩
  | step generator answer =>
      have quiet := calm generator answer rfl
      have mirrored := mirroredBy_resume library
      have free := AreBusy.not_mem areBusy (mirrored.free quiet)
      have advanced := mirrored.after mirrors areBusy (fun given => Bool.noConfusion given) quiet
      rcases advanced.exists with ⟨progress, leftAfter, rightAfter, onLeft, onRight, after⟩
      dsimp only
      rw [mirrors.isWaiting_eq free fun _ => not_hasDelegated_of_calm quiet]
      unfold stepAsyncGenerator
      rw [onLeft, onRight]
      cases session.isWaiting generator.index with
      | true => exact ⟨rfl, mirrors⟩
      | false => cases progress <;> exact ⟨rfl, after⟩

/-! ## From turn to turn -/

/-- A calm turn is one or several turns where bodies yield. -/
theorem exists_turnsAlike_turn {twins : List Twin} {others : List Frame} {left right : Session}
    (answers : LoopAnswers) (reply : Reply) (stands : Stands twins renderer others left right)
    (calm : (renderer.receive reply).TurnsCalmly library left) :
    ∃ other, continued library.yielding answers
        (.proceed, (renderer.widened others).receive reply, right)
          = continued library.yielding answers other ∧
      TurnsAlike ((renderer.receive reply).turn library left) other := by
  rcases renderer with ⟨providers, settings, context, styles, live⟩
  rcases stands with ⟨stacked, room, mirrors⟩
  cases stacked with
  | empty =>
      refine ⟨_, continued_turn library.yielding answers _ right, ?_⟩
      cases reply <;> exact .ends mirrors
  | @plain frame outer _ _ idle kind rest =>
      cases reply with
      | error failure => exact nomatch calm.1
      | ok answer =>
          exact ⟨_, continued_turn library.yielding answers _ right,
            turnsAlike_turn_of_plain calm room rfl idle kind rest mirrors⟩
  | @chain token? body mine around inner outer _ chain few rest =>
      cases reply with
      | error failure => exact nomatch calm.1
      | ok answer =>
          rcases inner with _ | ⟨innermost, inner⟩
          · exact absurd rfl chain.frames_ne_nil
          · exact exists_turnsAlike_of_chain calm room answers rfl chain rest mirrors

/-- A calm render comes to its end without a failure, and in the same way where bodies yield. The
induction is on the render. -/
theorem exists_continued_of_comesCalmly {first other : Turned}
    (comes : ComesCalmly library loop first) (alike : TurnsAlike first other) :
    ∃ texts last after, continued library (loop library) first = some ⟨texts, none, last⟩ ∧
      continued library.yielding (loop library.yielding) other = some ⟨texts, none, after⟩ ∧
      Mirrors [] last after := by
  induction comes generalizing other with
  | turns calm _ induction =>
      cases alike with
      | goesOn _ reply going stands =>
          rcases exists_turnsAlike_turn (loop library.yielding) reply stands calm with
            ⟨next, same, alike⟩
          rw [continued_turn, same]
          exact induction alike
  | @handsOut _ _ text _ induction =>
      cases alike with
      | goesOn _ reply going stands =>
          rcases induction (.goesOn .proceed reply trivial stands) with
            ⟨texts, last, after, given, yielded, mirrors⟩
          refine ⟨text :: texts, last, after, ?_, ?_, mirrors⟩
          · rw [continued_chunk, given]
            rfl
          · rw [continued_chunk, yielded]
            rfl
  | waits alikeAnswers calm _ induction =>
      cases alike with
      | goesOn _ _ going => exact going.elim
      | waits _ stands plain =>
          rw [← continued_answering, ← continued_answering library.yielding]
          exact induction (turnsAlike_afterWait stands plain alikeAnswers calm)
  | ends =>
      cases alike with
      | goesOn _ _ going => exact going.elim
      | ends mirrors => exact ⟨[], _, _, rfl, rfl, mirrors⟩

/-! ## Whole renders -/

/-- A calm render gives the same as the one where bodies yield, which needs more room. -/
theorem transcript_of_isCalm {start : Renderer} {root : Value} {session : Session}
    (empty : start.frames = []) (calm : IsCalm library loop start root session) :
    ∃ texts last after,
      (Run.start start root).transcript library (loop library) (.ok .null) session
        = some ⟨texts, none, last⟩ ∧
      (Run.start (start.widened []) root).transcript library.yielding (loop library.yielding)
        (.ok .null) session.yielding = some ⟨texts, none, after⟩ ∧
      Mirrors [] last after := by
  rcases calm with ⟨frame, opened, framed, free, comes⟩
  have stands : Stands [] start [] session session.yielding :=
    ⟨empty ▸ .empty, by rw [empty]; exact Nat.zero_le _, mirrors_yielding session⟩
  have alike : TurnsAlike (start.push library frame opened)
      ((start.widened []).opening library.yielding root session.yielding) := by
    cases root with
    | routine body =>
        cases framed
        exact turnsAlike_push stands List.not_mem_nil free.ready none
    | element identity type attributes children =>
        cases framed
        exact turnsAlike_element stands ⟨identity, type, attributes, children⟩
    | _ => cases framed
  rw [transcript_eq_continued library (loop library) empty, opening, framed,
    transcript_eq_continued library.yielding (loop library.yielding) rfl]
  exact exists_continued_of_comesCalmly comes alike

/-- Delegating and yielding are interchangeable where renders are calm. A body that hands over to a
generator, an element or a token is the same as one that yields it, once all bodies yield. A calm
render comes to its end without a failure also if all bodies yield and there is room for their
frames: with the same texts, the same events in the same order and the same results of all bodies.
So do two calm renders of programs that are the same once all bodies yield, and they leave all
bodies at the same place. -/
theorem delegation_is_yielding :
    (∀ (target : Value) (rest other : Reply → Routine), target.TakesOver →
      (∀ reply, (other reply).yielding = (rest reply).yielding) →
        Routine.yielding (Work.yield target other)
          = Routine.yielding (Script.delegateTo target rest)) ∧
    (∀ (library : Library) (loop : Library → LoopAnswers) (providers : Registry)
      (settings : Settings) (context : Nat) (root : Value) (session : Session),
      IsCalm library loop (.start providers settings context) root session →
      ∃ texts mine yours,
        (Run.start (.start providers settings context) root).transcript library (loop library)
          (.ok .null) session = some ⟨texts, none, mine⟩ ∧
        (Run.start ((Renderer.start providers settings context).widened []) root).transcript
          library.yielding (loop library.yielding) (.ok .null) session.yielding
          = some ⟨texts, none, yours⟩ ∧
        yours.events = mine.events ∧ ∀ index, outcome index yours = outcome index mine) ∧
    ∀ (one other : Library) (loop : Library → LoopAnswers) (providers : Registry)
      (settings : Settings) (context : Nat) (root : Value) (left right : Session),
      other.yielding = one.yielding → right.yielding = left.yielding →
      IsCalm one loop (.start providers settings context) root left →
      IsCalm other loop (.start providers settings context) root right →
      ∃ texts mine yours,
        (Run.start (.start providers settings context) root).transcript one (loop one)
          (.ok .null) left = some ⟨texts, none, mine⟩ ∧
        (Run.start (.start providers settings context) root).transcript other (loop other)
          (.ok .null) right = some ⟨texts, none, yours⟩ ∧
        yours.events = mine.events ∧ (∀ index, outcome index yours = outcome index mine) ∧
        yours.yielding.withLiveFrames 0 = mine.yielding.withLiveFrames 0 := by
  refine ⟨fun _ _ _ takes alike => Script.yielding_delegateTo takes alike, ?all, ?some⟩
  case all =>
    intro library loop providers settings context root session calm
    rcases transcript_of_isCalm rfl calm with ⟨texts, mine, yours, given, yielded, mirrors⟩
    have events := congrArg Session.events (eq_yielding_of_mirrors mirrors)
    exact ⟨texts, mine, yours, given, yielded, events, mirrors.outcome_eq⟩
  intro one other loop providers settings context root left right programs bodies calm calmToo
  rcases transcript_of_isCalm rfl calm with ⟨texts, mine, after, given, yielded, mirrors⟩
  rcases transcript_of_isCalm rfl calmToo with ⟨_, yours, _, givenToo, yieldedToo, mirrorsToo⟩
  rw [programs, bodies] at yieldedToo
  cases yielded.symm.trans yieldedToo
  have same := (eq_yielding_of_mirrors mirrorsToo).symm.trans (eq_yielding_of_mirrors mirrors)
  have events := congrArg Session.events same
  refine ⟨texts, mine, yours, given, givenToo, events, fun index => ?_, same⟩
  calc outcome index yours
      = outcome index (yours.yielding.withLiveFrames 0) := (outcome_yielding index yours).symm
    _ = outcome index (mine.yielding.withLiveFrames 0) := congrArg (outcome index) same
    _ = outcome index mine := outcome_yielding index mine

end Renderer

/-! ## A parent and a child -/

namespace Sample

def parent : RoutineReference := ⟨.generator, 0, "Parent"⟩

def child : RoutineReference := ⟨.generator, 1, "Child"⟩

def front : RoutineReference := ⟨.generator, 2, "Front"⟩

/-- A session with generators that have not started. -/
def family (bodies : List Routine) : Session :=
  { Session.empty with
    routines := (bodies.map fun body => ⟨.generator, .unstarted body⟩).toArray }

theorem yielding_family (bodies : List Routine) :
    (family bodies).yielding = family (bodies.map Routine.yielding) := by
  unfold Session.yielding family
  simp only [List.map_toArray, List.map_map]
  rfl

/-- The end of a body that logs the answer it was given. -/
def logging : Reply → Routine
  | .ok answer => .act (.log answer) .finish
  | .error failure => .finish (.error failure)

/-- A body that writes a text and returns another one. -/
def speaking : Routine :=
  .suspend (.effect (.text "a")) fun _ => .finish (.ok (.text "b"))

end Sample

namespace Renderer

open Sample

/-- Where no body on the stack has handed over, only those on the stack are at work. -/
theorem exists_frame_of_isAtWork {session : Session} {frames : List Frame} {index : Nat}
    (working : session.IsAtWork frames index)
    (own : ∀ frame ∈ frames, ∀ target next,
      session.routine? frame.routine.index ≠ some ⟨.generator, .delegating target next⟩) :
    ∃ frame ∈ frames, frame.routine.index = index := by
  induction working with
  | frame member => exact ⟨_, member, rfl⟩
  | target _ found induction =>
      rcases induction with ⟨frame, member, same⟩
      exact absurd (same ▸ found) (own frame member _ _)

theorem not_isAtWork_nil (session : Session) (index : Nat) : ¬ session.IsAtWork [] index := by
  intro working
  have own : ∀ frame ∈ ([] : List Frame), ∀ target next,
      session.routine? frame.routine.index ≠ some ⟨.generator, .delegating target next⟩ :=
    fun _ absent => (List.not_mem_nil absent).elim
  rcases exists_frame_of_isAtWork working own with ⟨frame, absent, -⟩
  exact List.not_mem_nil absent

theorem isReady_unstarted {session : Session} {body : RoutineReference} {routine : Routine}
    (found : session.routine? body.index = some ⟨body.kind, .unstarted routine⟩) :
    session.IsReady body :=
  ⟨_, found, rfl, RoutineObject.not_hasDelegated nofun⟩

theorem isCalm_delegating (loop : Library → LoopAnswers) :
    IsCalm [] loop (.start [] Settings.standard 0) (.routine parent)
      (family [Script.delegateTo (.routine child) logging, speaking]) := by
  have fresh (session : Session) :
      ¬ (child.index = parent.index ∨ session.IsAtWork [] child.index) :=
    Or.rec nofun (not_isAtWork_nil session child.index)
  refine ⟨.of parent none, _, rfl, ⟨not_isAtWork_nil _ _, isReady_unstarted rfl⟩, ?_⟩
  refine .turns ⟨rfl, fun _ => ⟨⟨⟨_, rfl, rfl⟩, ?first⟩, trivial⟩⟩ (.handsOut ?_)
  case first =>
    refine ⟨not_isAtWork_nil _ _, nofun, _, rfl, rfl, ⟨rfl, rfl, isReady_unstarted rfl, ?_⟩,
      trivial⟩
    exact ⟨fresh _, nofun, _, rfl, rfl, trivial⟩
  refine .turns ⟨rfl, fun _ => ⟨⟨⟨_, rfl, rfl⟩, ?second⟩, trivial⟩⟩ (.turns trivial .ends)
  refine ⟨not_isAtWork_nil _ _, trivial, _, rfl, ⟨_, rfl⟩, fun _ => rfl, ?_, trivial, trivial⟩
  exact ⟨fresh _, trivial, _, rfl, trivial⟩

theorem isCalm_yielding (loop : Library → LoopAnswers) :
    IsCalm [] loop (.start [] Settings.standard 0) (.routine parent)
      (family [Work.yield (.routine child) logging, speaking]) := by
  have apart {session : Session} {next : Reply → Routine}
      (found : session.routine? parent.index = some ⟨.generator, .suspended next⟩) :
      ¬ session.IsAtWork [.of parent none] child.index := by
    intro working
    have own : ∀ frame ∈ [Frame.of parent none], ∀ target next,
        session.routine? frame.routine.index ≠ some ⟨.generator, .delegating target next⟩ :=
      List.forall_mem_singleton.mpr fun _ _ delegating => nomatch found.symm.trans delegating
    rcases exists_frame_of_isAtWork working own with ⟨frame, member, same⟩
    cases List.mem_singleton.mp member
    exact nomatch same
  refine ⟨.of parent none, _, rfl, ⟨not_isAtWork_nil _ _, isReady_unstarted rfl⟩, ?_⟩
  refine .turns ⟨rfl, fun _ => ⟨⟨⟨_, rfl, rfl⟩, ?first⟩, apart rfl, isReady_unstarted rfl⟩⟩ ?_
  case first => exact ⟨not_isAtWork_nil _ _, nofun, _, rfl, rfl, trivial⟩
  refine .turns ⟨rfl, fun _ => ⟨⟨⟨_, rfl, rfl⟩, ?second⟩, trivial⟩⟩ (.handsOut ?_)
  case second => exact ⟨apart rfl, nofun, _, rfl, rfl, trivial⟩
  refine .turns ⟨rfl, fun _ => ⟨⟨⟨_, rfl, rfl⟩, ?third⟩, trivial⟩⟩ ?_
  case third => exact ⟨apart rfl, trivial, _, rfl, trivial⟩
  refine .turns ⟨rfl, fun _ => ⟨⟨⟨_, rfl, rfl⟩, ?fourth⟩, trivial⟩⟩ (.turns trivial .ends)
  exact ⟨not_isAtWork_nil _ _, trivial, _, rfl, trivial, trivial⟩

/-- A child at work in the parent and one on the stack write the same and give the same answer. -/
theorem delegation_is_yielding_family :
    let loop : Library → LoopAnswers := fun _ => cancelling
    let start := Renderer.start [] Settings.standard 0
    let delegating := family [Script.delegateTo (.routine child) logging, speaking]
    let yielding := family [Work.yield (.routine child) logging, speaking]
    (Value.routine child).TakesOver ∧ yielding.yielding = delegating.yielding ∧
      IsCalm [] loop start (.routine parent) delegating ∧
      IsCalm [] loop start (.routine parent) yielding ∧
      (∃ texts mine yours,
        (Run.start start (.routine parent)).transcript [] cancelling (.ok .null) delegating
          = some ⟨texts, none, mine⟩ ∧
        (Run.start (start.widened []) (.routine parent)).transcript [] cancelling (.ok .null)
          delegating.yielding = some ⟨texts, none, yours⟩ ∧
        yours.events = mine.events ∧
        ∀ index, Session.outcome index yours = Session.outcome index mine) ∧
      ∃ texts mine yours,
        (Run.start start (.routine parent)).transcript [] cancelling (.ok .null) delegating
          = some ⟨texts, none, mine⟩ ∧
        (Run.start start (.routine parent)).transcript [] cancelling (.ok .null) yielding
          = some ⟨texts, none, yours⟩ ∧
        yours.events = mine.events ∧
        ∀ index, Session.outcome index yours = Session.outcome index mine := by
  intro loop start delegating yielding
  have handed : (Value.routine child).TakesOver := rfl
  have same := delegation_is_yielding.1 (.routine child) logging logging handed fun _ => rfl
  have bodies : yielding.yielding = delegating.yielding := by
    rw [yielding_family, yielding_family]
    exact congrArg (fun body => family [body, speaking.yielding]) same
  have calm := isCalm_delegating loop
  have calmToo := isCalm_yielding loop
  have throughout :=
    delegation_is_yielding.2.1 [] loop [] Settings.standard 0 (.routine parent) delegating calm
  rcases delegation_is_yielding.2.2 [] [] loop [] Settings.standard 0 (.routine parent) delegating
    yielding rfl bodies calm calmToo with ⟨texts, mine, yours, given, givenToo, events, results, -⟩
  exact ⟨handed, bodies, calm, calmToo, throughout, texts, mine, yours, given, givenToo, events,
    results⟩

/-! ## Renders that are not calm -/

/-- The first turns of a render after texts that it has handed out, and the texts with theirs. -/
def turnsFrom (library : Library) : Nat → List String → Turned → List String × Turned
  | turns + 1, texts, (.proceed, renderer, session) =>
      turnsFrom library turns texts (renderer.turn library session)
  | turns + 1, texts, (.chunk text, renderer, session) =>
      turnsFrom library turns (texts ++ [text]) (.proceed, renderer, session)
  | _, texts, turned => (texts, turned)

theorem exists_continued_of_turnsFrom (library : Library) (answers : LoopAnswers) {turns : Nat}
    {texts : List String} {first : Turned}
    (finished : (turnsFrom library turns texts first).2.1 = .finished) :
    ∃ rest, texts ++ rest = (turnsFrom library turns texts first).1 ∧
      continued library answers first
        = some ⟨rest, none, (turnsFrom library turns texts first).2.2.2⟩ := by
  rcases first with ⟨turn, renderer, session⟩
  induction turns generalizing texts turn renderer session with
  | zero =>
      cases finished
      exact ⟨[], List.append_nil texts, rfl⟩
  | succ turns induction =>
      cases turn with
      | proceed =>
          rw [continued_turn]
          exact induction _ _ _ finished
      | chunk text =>
          rcases induction _ _ _ finished with ⟨rest, all, given⟩
          refine ⟨text :: rest, ?_, ?_⟩
          · rw [List.append_cons]
            exact all
          · rw [continued_chunk, given]
            rfl
      | finished => exact ⟨[], List.append_nil texts, rfl⟩
      | wait | failed => cases finished

/-- A render of generators comes to its end without a failure. -/
def Gives (root : RoutineReference) (bodies : List Routine) (texts : List String)
    (events : List Event) : Prop :=
  ∃ last, (Run.start (.start [] Settings.standard 0) (.routine root)).transcript [] cancelling
      (.ok .null) (family bodies) = some ⟨texts, none, last⟩ ∧ last.events = events

theorem gives_of_turnsFrom {root : RoutineReference} {bodies : List Routine} {texts : List String}
    {events : List Event} (turns : Nat)
    (reaches :
      let reached := turnsFrom [] turns []
        ((Renderer.start [] Settings.standard 0).opening [] (.routine root) (family bodies))
      (reached.1, reached.2.1, reached.2.2.2.events) = (texts, .finished, events)) :
    Gives root bodies texts events := by
  simp only [Prod.mk.injEq] at reaches
  rcases reaches with ⟨wrote, finished, noted⟩
  rcases exists_continued_of_turnsFrom [] cancelling finished with ⟨rest, all, given⟩
  refine ⟨_, ?_, noted⟩
  rw [transcript_eq_continued [] cancelling rfl, given, ← wrote, ← all]
  rfl

end Renderer

namespace Sample

/-- A body that yields the parent, and then writes. -/
def recalling : Routine :=
  .suspend (.effect (.routine parent)) fun _ => .suspend (.effect (.text "child")) .finish

/-- A body that advances the parent itself, as often as it takes. -/
def advancing : Routine :=
  .advance parent.index fun
    | .item effect => .suspend (.effect effect) fun _ =>
        .advance parent.index fun _ => .finish (.ok .null)
    | _ => .finish (.ok .null)

/-- A body that writes how many frames are live. -/
def measuring : Routine :=
  .act (.call .depthProbe []) fun
    | .ok (.integer 1) => .suspend (.effect (.text "one")) .finish
    | _ => .suspend (.effect (.text "more")) .finish

/-- The end of a body that writes. -/
def ending : Reply → Routine := fun _ => .suspend (.effect (.text "parent")) .finish

end Sample

namespace Renderer

open Sample

/-- Where renders are not calm, it shows how a body hands over: if the other body puts it on the
stack again, if it is advanced by a body, or if the number of live frames is asked for. -/
theorem delegation_is_not_yielding :
    (Gives parent [Script.delegateTo (.routine child) ending, recalling] ["child", "parent"] [] ∧
      Gives parent [Work.yield (.routine child) ending, recalling] ["parent", "child"] []) ∧
    (Gives front [Script.delegateTo (.routine child) logging, speaking, advancing]
        ["a"] [.logged (.text "b")] ∧
      Gives front [Work.yield (.routine child) logging, speaking, advancing]
        ["a"] [.logged .null]) ∧
    Gives parent [Script.delegateTo (.routine child) .finish, measuring] ["one"] [] ∧
      Gives parent [Work.yield (.routine child) .finish, measuring] ["more"] [] := by
  refine ⟨⟨?_, ?_⟩, ⟨?_, ?_⟩, ?_, ?_⟩
  · exact gives_of_turnsFrom 12 (by cbv)
  · exact gives_of_turnsFrom 12 (by cbv)
  · exact gives_of_turnsFrom 12 (by cbv)
  · exact gives_of_turnsFrom 12 (by cbv)
  · exact gives_of_turnsFrom 12 (by cbv)
  · exact gives_of_turnsFrom 12 (by cbv)

end Renderer
end HtmlStream
