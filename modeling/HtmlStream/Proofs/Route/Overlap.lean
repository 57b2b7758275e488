import HtmlStream.Proofs.Route.Entering
import Mathlib.Logic.Function.Basic

/-!
Overlapping renders. Streams without an event loop, and blocks in which their consumer has entered a
render context itself, may be under way at the same time, and their steps follow one another in any
order. Then what is current is what follows from the history of contexts; so a stream in the middle
of its render has its own context only while no other one is current. The main statement is
`contexts_of_overlap`.
-/
namespace HtmlStream

open History

/-! ## Any number of them -/

/-- Something of the consumer's that has a render context while it is under way: a stream, or a
block for which the consumer enters a context itself. -/
inductive Holder where
  | stream (stream : ByteStream)
  | block (phase : Phase)

namespace Holder

def phase : Holder → Phase
  | .stream source => source.phase
  | .block phase => phase

/-- A stream without an event loop, or a block, before its first step. -/
def IsFresh : Holder → Prop
  | .stream source => ∃ route, source = .ofRoute route .sync
  | .block phase => phase = .unentered

def IsDrivable (holder : Holder) : Prop :=
  ∀ source, holder = .stream source → source.IsDrivable

/-- A step of the consumer's with one of them. -/
inductive Steps (library : Library) : Holder × Session → Holder × Session → Prop
  | asks {source later : ByteStream} {session after : Session} {delivery : Delivery Bytes}
      (asked : source.next library (.ok .null) session = (delivery, later, after)) :
      Steps library (.stream source, session) (.stream later, after)
  | closes {source later : ByteStream} {session after : Session} {failure? : Option Failure}
      (closed : source.close library session = (failure?, later, after)) :
      Steps library (.stream source, session) (.stream later, after)
  | enters {routeName : Option String} {maxDepth : Int} {given : Option Bindings} {context : Nat}
      {outer : Option Nat} {session after : Session}
      (entered : session.enterContext routeName maxDepth given = ((context, outer), after)) :
      Steps library (.block .unentered, session) (.block (.within context outer), after)
  | leaves (context : Nat) (outer : Option Nat) (session : Session) :
      Steps library (.block (.within context outer), session)
        (.block .left, session.leaveContext outer)

variable {library : Library} {holder next : Holder} {session after : Session}

theorem IsFresh.phase_eq (fresh : holder.IsFresh) : holder.phase = .unentered := by
  cases holder with
  | stream source =>
      rcases fresh with ⟨route, rfl⟩
      rfl
  | block phase => exact fresh

theorem IsFresh.isDrivable (fresh : holder.IsFresh) : holder.IsDrivable := by
  rintro source rfl
  rcases fresh with ⟨route, rfl⟩
  exact ⟨rfl, fun _ equal => by cases equal⟩

theorem Steps.passes (steps : Steps library (holder, session) (next, after))
    (drivable : holder.IsDrivable) :
    next.IsDrivable ∧ Phase.Passes session holder.phase next.phase after := by
  have streams : ∀ {later : ByteStream}, later.IsDrivable → (Holder.stream later).IsDrivable := by
    rintro later drivable _ ⟨rfl⟩
    exact drivable
  have blocks : ∀ {phase}, (Holder.block phase).IsDrivable := fun _ equal => by cases equal
  cases steps with
  | @asks source later _ _ delivery asked =>
      have passes := ByteStream.passes_next library (drivable source rfl) session
      rw [asked] at passes
      exact ⟨streams passes.1, passes.2⟩
  | @closes source later _ _ failure? closed =>
      have passes := ByteStream.passes_close library (drivable source rfl) session
      rw [closed] at passes
      exact ⟨streams passes.1, passes.2⟩
  | enters entered =>
      cases entered
      exact ⟨blocks, .enters rfl (Nat.lt_succ_self _ |>.trans_eq (Array.size_push ..).symm)⟩
  | leaves context outer => exact ⟨blocks, .leaves context rfl le_rfl⟩

end Holder

/-- The consumer takes steps with whatever it has under way, in any order. In between it may do
anything that leaves the current context as it is. -/
inductive Overlaps (library : Library) (holders : Nat → Holder) (session : Session) :
    History → (Nat → Holder) → Session → Prop
  | begin : Overlaps library holders session [] holders session
  | step {history : History} {between : Nat → Holder} {paused after : Session} {next : Holder}
      (overlaps : Overlaps library holders session history between paused) (index : Nat)
      (steps : Holder.Steps library (between index, paused) (next, after)) :
      Overlaps library holders session
        (Phase.marks (between index).phase next.phase ++ history)
        (Function.update between index next) after
  | elsewhere {history : History} {between : Nat → Holder} {paused after : Session}
      (overlaps : Overlaps library holders session history between paused)
      (current : after.current = paused.current)
      (grows : paused.contexts.size ≤ after.contexts.size) :
      Overlaps library holders session history between after

/-- What a history says about those who have a context. -/
structure Tracks (before : Option Nat) (history : History) (phases : Nat → Phase)
    (session : Session) : Prop where
  current_eq : session.current = currentAfter before history
  outer_eq : ∀ index context outer, phases index = .within context outer →
    outer = outerOf before context history
  live_iff : ∀ context, context ∈ live history
    ↔ ∃ index outer, phases index = .within context outer
  single : ∀ index other context outer another, phases index = .within context outer →
    phases other = .within context another → index = other
  distinct : (contexts history).Nodup
  known : ∀ context ∈ contexts history, context < session.contexts.size

namespace Tracks

variable {before : Option Nat} {history : History} {phases : Nat → Phase} {session after : Session}

theorem begin (fresh : ∀ index, phases index = .unentered) :
    Tracks session.current [] phases session where
  current_eq := rfl
  outer_eq index context outer within := by cases (fresh index).symm.trans within
  live_iff context := by simp [live, fresh]
  single index other context outer another within := by cases (fresh index).symm.trans within
  distinct := List.nodup_nil
  known _ impossible := by cases impossible

theorem elsewhere (tracks : Tracks before history phases session)
    (current : after.current = session.current)
    (grows : session.contexts.size ≤ after.contexts.size) :
    Tracks before history phases after :=
  { tracks with
    current_eq := current.trans tracks.current_eq
    known := fun context member => (tracks.known context member).trans_le grows }

theorem update_eq_within {phase : Phase} {index other context : Nat} {outer : Option Nat} :
    Function.update phases index phase other = .within context outer
      ↔ other = index ∧ phase = .within context outer ∨
        other ≠ index ∧ phases other = .within context outer := by
  by_cases same : other = index
  · subst same
    simp
  · simp [same]

/-- The context of somebody who is under way has been entered. -/
theorem lt_size (tracks : Tracks before history phases session) {index context : Nat}
    {outer : Option Nat} (within : phases index = .within context outer) :
    context < session.contexts.size :=
  tracks.known context (mem_contexts_of_live ((tracks.live_iff context).mpr ⟨_, _, within⟩))

theorem enters (tracks : Tracks before history phases session) {index : Nat}
    (unentered : phases index = .unentered) (current : after.current = some session.contexts.size)
    (grows : session.contexts.size < after.contexts.size) :
    Tracks before (.entered session.contexts.size :: history)
      (Function.update phases index (.within session.contexts.size session.current)) after where
  current_eq := current
  outer_eq other context outer within := by
    rcases update_eq_within.mp within with ⟨rfl, ⟨⟩⟩ | ⟨_, within⟩
    · rw [outerOf, if_pos rfl]
      exact tracks.current_eq
    · rw [outerOf, if_neg (tracks.lt_size within).ne']
      exact tracks.outer_eq other context outer within
  live_iff context := by
    rw [live, List.mem_cons, tracks.live_iff]
    constructor
    · rintro (rfl | ⟨other, outer, within⟩)
      · exact ⟨index, session.current, Function.update_self ..⟩
      · refine ⟨other, outer, update_eq_within.mpr (.inr ⟨?_, within⟩)⟩
        rintro rfl
        cases unentered.symm.trans within
    · rintro ⟨other, outer, within⟩
      rcases update_eq_within.mp within with ⟨_, ⟨⟩⟩ | ⟨_, within⟩
      · exact .inl rfl
      · exact .inr ⟨other, outer, within⟩
  single first second context outer another one two := by
    rcases update_eq_within.mp one with ⟨rfl, ⟨⟩⟩ | ⟨_, older⟩
    · rcases update_eq_within.mp two with ⟨rfl, _⟩ | ⟨_, older⟩
      · rfl
      · exact absurd (tracks.lt_size older) (lt_irrefl _)
    · rcases update_eq_within.mp two with ⟨rfl, ⟨⟩⟩ | ⟨_, two⟩
      · exact absurd (tracks.lt_size older) (lt_irrefl _)
      · exact tracks.single first second context outer another older two
  distinct := List.nodup_cons.mpr
    ⟨fun member => lt_irrefl _ (tracks.known _ member), tracks.distinct⟩
  known context member := by
    rcases List.mem_cons.mp member with rfl | member
    · exact grows
    · exact (tracks.known context member).trans grows

theorem leaves (tracks : Tracks before history phases session) {index context : Nat}
    {outer : Option Nat} (own : phases index = .within context outer)
    (current : after.current = outer) (grows : session.contexts.size ≤ after.contexts.size) :
    Tracks before (.left context :: history) (Function.update phases index .left) after where
  current_eq := current.trans (tracks.outer_eq index context outer own)
  outer_eq other context outer within := by
    rcases update_eq_within.mp within with ⟨_, ⟨⟩⟩ | ⟨_, within⟩
    exact tracks.outer_eq other context outer within
  live_iff other := by
    rw [live, (nodup_live tracks.distinct).mem_erase_iff, tracks.live_iff]
    constructor
    · rintro ⟨different, holder, others, within⟩
      refine ⟨holder, others, update_eq_within.mpr (.inr ⟨?_, within⟩)⟩
      rintro rfl
      cases own.symm.trans within
      exact different rfl
    · rintro ⟨holder, others, within⟩
      rcases update_eq_within.mp within with ⟨_, ⟨⟩⟩ | ⟨different, within⟩
      refine ⟨?_, holder, others, within⟩
      rintro rfl
      exact different (tracks.single _ _ _ _ _ within own)
  single first second context outer another one two := by
    rcases update_eq_within.mp one with ⟨_, ⟨⟩⟩ | ⟨_, one⟩
    rcases update_eq_within.mp two with ⟨_, ⟨⟩⟩ | ⟨_, two⟩
    exact tracks.single first second context outer another one two
  distinct := tracks.distinct
  known context member := (tracks.known context member).trans_le grows

theorem skips (tracks : Tracks before history phases session) {index : Nat}
    (unentered : phases index = .unentered) (current : after.current = session.current)
    (grows : session.contexts.size ≤ after.contexts.size) :
    Tracks before history (Function.update phases index .left) after := by
  have same : ∀ {other context outer},
      Function.update phases index .left other = .within context outer
        ↔ phases other = .within context outer := by
    intro other context outer
    rw [update_eq_within]
    constructor
    · rintro (⟨_, ⟨⟩⟩ | ⟨_, within⟩)
      exact within
    · refine fun within => .inr ⟨?_, within⟩
      rintro rfl
      cases unentered.symm.trans within
  refine { tracks.elsewhere current grows with
    outer_eq := ?_, live_iff := ?_, single := ?_ }
  · simpa only [same] using tracks.outer_eq
  · simpa only [same] using tracks.live_iff
  · simpa only [same] using tracks.single

theorem passes (tracks : Tracks before history phases session) (index : Nat) {phase : Phase}
    (passes : Phase.Passes session (phases index) phase after) :
    Tracks before (Phase.marks (phases index) phase ++ history)
      (Function.update phases index phase) after := by
  have unmarked : ∀ phase, Phase.marks phase phase = [] := fun phase => by cases phase <;> rfl
  generalize own : phases index = start at passes
  cases passes with
  | stays _ keeps =>
      rw [unmarked, ← own, Function.update_eq_self]
      exact tracks.elsewhere keeps.1 keeps.2.ge
  | enters current grows => exact tracks.enters own current grows
  | leaves context current grows => exact tracks.leaves own current grows
  | skips current grows => exact tracks.skips own current grows

end Tracks

/-! ## What is current when renders overlap -/

open Rendering

variable {library : Library} {holders later : Nat → Holder} {session after : Session}
  {history : History}

theorem Overlaps.tracks (fresh : ∀ index, (holders index).IsFresh)
    (overlaps : Overlaps library holders session history later after) :
    Tracks session.current history (fun index => (later index).phase) after ∧
      ∀ index, (later index).IsDrivable := by
  induction overlaps with
  | begin =>
      exact ⟨.begin fun index => (fresh index).phase_eq, fun index => (fresh index).isDrivable⟩
  | @step _ between _ _ next _ index steps induction =>
      rcases induction with ⟨tracks, drivable⟩
      rcases steps.passes (drivable index) with ⟨drivableNext, passes⟩
      have phases : (fun other => (Function.update between index next other).phase)
          = Function.update (fun other => (between other).phase) index next.phase :=
        (Function.comp_update Holder.phase between index next)
      rw [phases]
      refine ⟨tracks.passes index passes, fun other => ?_⟩
      by_cases same : other = index
      · subst same
        rwa [Function.update_self]
      · rw [Function.update_of_ne same]
        exact drivable other
  | elsewhere _ current grows induction =>
      exact ⟨induction.1.elsewhere current grows, induction.2⟩

/-- A stream that is closed in the middle of its render leaves its context. -/
theorem Overlaps.exists_close {between : Nat → Holder} {paused : Session} {source : ByteStream}
    {rendering : Rendering}
    (overlaps : Overlaps library holders session history between paused) (index : Nat)
    (found : between index = .stream source) (sync : source.mode = .sync)
    (state : source.state = .rendering rendering) :
    ∃ after, Overlaps library holders session (.left rendering.context :: history)
      (Function.update between index (.stream (source.inState .closed))) after := by
  have closed : source.close library paused
      = (none, source.inState .closed, (source.close library paused).2.2) := by
    unfold ByteStream.close
    rw [state, sync]
    rfl
  have closes : Holder.Steps library (between index, paused)
      (.stream (source.inState .closed), (source.close library paused).2.2) :=
    found ▸ .closes closed
  have within : (between index).phase = .within rendering.context rendering.outer := by
    rw [found]
    show source.phase = _
    rw [ByteStream.phase, state]
  have step := overlaps.step index closes
  rw [within] at step
  exact ⟨_, step⟩

/-- A stream in the middle of its render takes a turn when it is asked for its next chunk. -/
def RendersAt (library : Library) (holders : Nat → Holder) (session : Session) (context : Nat)
    (turn : Renderer × Session) : Prop :=
  ∃ index source rendering, holders index = .stream source ∧
    source.state = .rendering rendering ∧ rendering.context = context ∧
    rendering.TakesTurn library session turn

/-- A stream takes a turn when it is asked for its first chunk. -/
def BeginsAt (library : Library) (holders : Nat → Holder) (session : Session) (context : Nat)
    (turn : Renderer × Session) : Prop :=
  ∃ index source rendering entered, holders index = .stream source ∧
    source.state = .unstarted ∧ source.enter library session = (.ok rendering, entered) ∧
    rendering.context = context ∧ rendering.TakesTurn library entered turn

theorem RendersAt.current_eq {context : Nat} {turn : Renderer × Session}
    (drivable : ∀ index, (later index).IsDrivable)
    (renders : RendersAt library later after context turn) : turn.2.current = after.current := by
  rcases renders with ⟨index, source, rendering, found, state, _, takes⟩
  exact (takes.keepsCurrent ((drivable index source found).can rendering state)).1

theorem RendersAt.mem_live {before : Option Nat} {context : Nat} {turn : Renderer × Session}
    (tracks : Tracks before history (fun index => (later index).phase) after)
    (renders : RendersAt library later after context turn) : context ∈ live history := by
  rcases renders with ⟨index, source, rendering, found, state, rfl, _⟩
  refine (tracks.live_iff _).mpr ⟨index, rendering.outer, ?_⟩
  rw [found]
  show source.phase = _
  rw [ByteStream.phase, state]

theorem BeginsAt.current_eq {context : Nat} {turn : Renderer × Session}
    (begins : BeginsAt library later after context turn) : turn.2.current = some context := by
  rcases begins with ⟨index, source, rendering, entered, _, _, enters, rfl, takes⟩
  rcases ByteStream.entered_of_enter library enters with ⟨current, _, starts⟩
  rcases starts rendering rfl with ⟨own, _, can⟩
  rw [(takes.keepsCurrent can).1, current, own]

/-- What is current when renders overlap follows from the history of contexts alone. No body changes
what is current. A stream in the middle of its render finds what is current already and leaves it
so; only its first chunk is made in its own context in any case. So if every context is left while
it is the innermost one, a stream has its own context exactly when that is the innermost one, and
once none is under way any more, what was current before the first of them is current again. -/
theorem contexts_of_overlap (fresh : ∀ index, (holders index).IsFresh)
    (overlaps : Overlaps library holders session history later after) :
    after.current = currentAfter session.current history ∧
      (∀ (index : Nat) (reply : Reply) (paused : Session),
        (paused.resume library index reply).2.current = paused.current) ∧
      (∀ context turn, RendersAt library later after context turn →
        turn.2.current = currentAfter session.current history) ∧
      (∀ context turn, BeginsAt library later after context turn →
        turn.2.current = some context) ∧
      (history.IsNested →
        (∀ context turn, RendersAt library later after context turn →
          (turn.2.current = some context ↔ (live history).head? = some context)) ∧
        ((∀ index context outer, (later index).phase ≠ .within context outer) →
          after.current = session.current)) := by
  rcases overlaps.tracks fresh with ⟨tracks, drivable⟩
  refine ⟨tracks.current_eq, fun index reply paused => ?_, fun context turn renders => ?_,
    fun context turn begins => ?_, fun nested => ⟨fun context turn renders => ?_, fun ended => ?_⟩⟩
  · exact ((Session.keptByRenders_current paused).resume library (.refl paused) index reply).1
  · exact (renders.current_eq drivable).trans tracks.current_eq
  · exact begins.current_eq
  · rw [renders.current_eq drivable, tracks.current_eq,
      currentAfter_of_isNested tracks.distinct nested]
    have own := renders.mem_live tracks
    cases innermost : live history with
    | nil =>
        rw [innermost] at own
        cases own
    | cons newest rest => rfl
  · have none : live history = [] := List.eq_nil_iff_forall_not_mem.mpr fun context alive => by
      rcases (tracks.live_iff context).mp alive with ⟨index, outer, within⟩
      exact ended index context outer within
    rw [tracks.current_eq, currentAfter_of_isNested tracks.distinct nested, none]
    rfl

/-! ## Two streams of one page -/

namespace Sample

def bracketStream : ByteStream := .ofRoute themedRoute .sync

def twoStreams : Nat → Holder
  | 0 | 1 => .stream bracketStream
  | _ => .block .unentered

/-- The first turn of a stream that begins in a session. -/
def bracketTurn (session : Session) : Turned :=
  let renderer : Renderer := .start session.registry Settings.standard session.contexts.size
  let opened := renderer.opening themedLibrary (.routine ⟨.generator, session.routines.size, "Page"⟩)
    (bracketStream.enter themedLibrary session).2
  opened.2.1.turn themedLibrary opened.2.2

/-- The render after its first chunk. -/
def openedBracket (session : Session) : Rendering :=
  ⟨⟨(bracketTurn session).2.1, .atChunk⟩, .empty 0, session.contexts.size, session.current⟩

theorem next_bracketStream {session : Session} (shown : (bracketTurn session).1 = .chunk "[") :
    bracketStream.next themedLibrary (.ok .null) session
      = (.chunk [91], bracketStream.inState (.rendering (openedBracket session)),
          (bracketTurn session).2.2) := by
  let rendering : Rendering :=
    ⟨.start (.start session.registry Settings.standard session.contexts.size)
      (.routine ⟨.generator, session.routines.size, "Page"⟩), .empty 0, session.contexts.size,
      session.current⟩
  let entered := (bracketStream.enter themedLibrary session).2
  have enters : bracketStream.enter themedLibrary session = (.ok rendering, entered) := rfl
  have begun : rendering.run.resume themedLibrary (.ok .null) entered
      = Run.proceed themedLibrary
          (.proceed, (rendering.run.opens themedLibrary entered).2) := rfl
  have resumed : rendering.run.resume themedLibrary (.ok .null) entered
      = (.chunk "[", (openedBracket session).run, (bracketTurn session).2.2) := by
    rw [begun, Renderer.proceed_turn]
    show Run.proceed themedLibrary (bracketTurn session) = _
    unfold openedBracket
    generalize bracketTurn session = turned at shown ⊢
    rcases turned with ⟨turn, renderer, after⟩
    cases shown
    rfl
  have can : Run.CanStream rendering.context rendering.run := .start _ _ rfl rfl
  have handed : rendering.run.nextText themedLibrary bracketStream.mode (.ok .null) entered
      = (.chunk "[", (openedBracket session).run, (bracketTurn session).2.2) :=
    Run.nextText_of_handedOut themedLibrary can resumed rfl
  have accepted : rendering.buffer.accept "[" = (some "[", .empty 0) := rfl
  have encoded : bracketStream.encode "[" = .ok [91] := rfl
  rw [ByteStream.next_of_enter themedLibrary rfl enters]
  exact ByteStream.next_of_released themedLibrary handed accepted encoded

/-- Each of the two streams has handed out its bracket, the second one after the first. -/
def twoBrackets : Nat → Holder :=
  let first := bracketStream.inState (.rendering (openedBracket Session.empty))
  let second := bracketStream.inState (.rendering (openedBracket (bracketTurn Session.empty).2.2))
  Function.update (Function.update twoStreams 0 (.stream first)) 1 (.stream second)

theorem isFresh_twoStreams (index : Nat) : (twoStreams index).IsFresh :=
  match index with
  | 0 | 1 => ⟨themedRoute, rfl⟩
  | _ + 2 => rfl

theorem overlaps_twoBrackets :
    Overlaps themedLibrary twoStreams Session.empty [.entered 1, .entered 0] twoBrackets
      (bracketTurn (bracketTurn Session.empty).2.2).2.2 := by
  have shown : (bracketTurn Session.empty).1 = .chunk "[" := rfl
  have shownNext : (bracketTurn (bracketTurn Session.empty).2.2).1 = .chunk "[" := rfl
  have first : Holder.Steps themedLibrary (twoStreams 0, Session.empty) _ :=
    .asks (next_bracketStream shown)
  have second : Holder.Steps themedLibrary (twoStreams 1, (bracketTurn Session.empty).2.2) _ :=
    .asks (next_bracketStream shownNext)
  exact (Overlaps.begin.step 0 first).step 1 second

end Sample

/-- Two streams that are closed in the reverse order leave nothing behind. -/
theorem contexts_of_overlap_twoBrackets :
    ∃ later after,
      Overlaps Sample.themedLibrary Sample.twoStreams Session.empty
        [.left 0, .left 1, .entered 1, .entered 0] later after ∧ after.current = none := by
  rcases Sample.overlaps_twoBrackets.exists_close 1 rfl rfl rfl with ⟨between, first⟩
  rcases first.exists_close 0 rfl rfl rfl with ⟨after, overlaps⟩
  refine ⟨_, after, overlaps, ?_⟩
  have current := (contexts_of_overlap Sample.isFresh_twoStreams overlaps).2.2.2.2
    ⟨rfl, rfl, trivial⟩
  refine current.2 fun index context outer within => ?_
  match index with
  | 0 | 1 | _ + 2 => cases within

/-- The first of two streams goes on in the context of the second. And if it is closed before the
second, its context is current when both are over. -/
theorem not_keptApart_twoBrackets :
    (∃ history later after turn,
      Overlaps Sample.themedLibrary Sample.twoStreams Session.empty history later after ∧
      RendersAt Sample.themedLibrary later after 0 turn ∧ turn.2.current = some 1) ∧
    ∃ history later after,
      Overlaps Sample.themedLibrary Sample.twoStreams Session.empty history later after ∧
      (∀ index context outer, (later index).phase ≠ .within context outer) ∧
      Session.empty.current = none ∧ after.current = some 0 := by
  have overlaps := Sample.overlaps_twoBrackets
  refine ⟨⟨_, _, _, _, overlaps, ⟨0, _, _, rfl, rfl, rfl, .now (.here _)⟩, ?_⟩, ?_⟩
  · exact (overlaps.tracks Sample.isFresh_twoStreams).1.current_eq
  · rcases overlaps.exists_close 0 rfl rfl rfl with ⟨between, first⟩
    rcases first.exists_close 1 rfl rfl rfl with ⟨after, second⟩
    refine ⟨_, _, _, second, fun index context outer within => ?_, rfl,
      (second.tracks Sample.isFresh_twoStreams).1.current_eq⟩
    match index with
    | 0 | 1 | _ + 2 => cases within

end HtmlStream
