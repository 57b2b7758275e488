import HtmlStream.Proofs.Renderer.Cleanup

/-!
Closing frames when one of the bodies does not let itself be closed. The bodies inside it are closed,
and what comes of the failing one comes out of the run; the frames around it stay on the stack as they
are, and so do their labels. The main statement is `closes_or_strands`.
-/
namespace HtmlStream

namespace Session

/-- A body cannot be closed: it raises something else than the exit that is raised in it, it goes on,
or it is just being advanced. -/
inductive RefusesExit (library : Library) (index : Nat) (before : Session) :
    Failure → Session → Prop
  | raises {failure : Failure} {after : Session}
      (exited : before.resume library index (.error .exit) = (.raised failure, after))
      (other : failure ≠ .exit) : RefusesExit library index before failure after
  | goesOn {progress : Progress} {after : Session}
      (exited : before.resume library index (.error .exit) = (progress, after))
      (unended : (∃ effect, progress = .produced effect) ∨ ∃ pending, progress = .waiting pending) :
      RefusesExit library index before (.fault .exitIgnored) after
  | running (kind : RoutineKind) (found : before.routine? index = some ⟨kind, .running⟩) :
      RefusesExit library index before (.fault (.alreadyRunning kind)) before

/-- The frames in `closed` leave the stack one after another, innermost first, and their bodies are
closed; then the one in `failing` refuses to be closed, with `outer` still around it. -/
inductive FailsToClose (library : Library) (context : Nat) (failing : Frame) (outer : List Frame)
    (failure : Failure) : Session → List Frame → Session → Prop
  | refuses {before after : Session} (notAsync : failing.isAsyncGenerator = false)
      (refuses : RefusesExit library failing.routine.index
        ((before.leaveFrame context failing).withLiveFrames outer.length) failure after) :
      FailsToClose library context failing outer failure before [] after
  | leaves {frame : Frame} {closed : List Frame} {before after : Session}
      (async : frame.isAsyncGenerator = true)
      (rest : FailsToClose library context failing outer failure
        ((before.leaveFrame context frame).withLiveFrames (closed ++ failing :: outer).length)
        closed after) :
      FailsToClose library context failing outer failure before (frame :: closed) after
  | closes {frame : Frame} {closed : List Frame} {before between after : Session}
      (notAsync : frame.isAsyncGenerator = false)
      (closes : Closes library frame.routine.index
        ((before.leaveFrame context frame).withLiveFrames (closed ++ failing :: outer).length)
        between)
      (rest : FailsToClose library context failing outer failure between closed after) :
      FailsToClose library context failing outer failure before (frame :: closed) after

variable {library : Library} {context : Nat} {before after session : Session} {failure : Failure}

theorem refusesExit_of_closeRoutine {index : Nat}
    (closed : before.closeRoutine library index = (some failure, after)) :
    RefusesExit library index before failure after := by
  unfold closeRoutine close at closed
  cases found : before.routine? index with
  | none =>
      rw [found] at closed
      cases closed
  | some object =>
      rcases exited : before.resume library index (.error .exit) with ⟨progress, between⟩
      rw [found] at closed
      rcases object with ⟨kind, state⟩
      cases state with
      | unstarted | finished => cases closed
      | running =>
          cases closed
          exact .running kind found
      | suspended | waiting | delegating =>
          dsimp only at closed
          rw [exited] at closed
          cases progress with
          | returned value => cases closed
          | produced effect =>
              cases closed
              exact .goesOn exited (.inl ⟨effect, rfl⟩)
          | waiting pending =>
              cases closed
              exact .goesOn exited (.inr ⟨pending, rfl⟩)
          | raised raised =>
              cases raised with
              | exit => cases closed
              | _ =>
                  cases closed
                  exact .raises exited (by simp)

theorem RefusesExit.evolves {index : Nat} (context : Nat)
    (refuses : RefusesExit library index before failure after) : Evolves context before after := by
  cases refuses with
  | raises exited | goesOn exited =>
      have evolves := evolves_resume library context index (.error .exit) before
      rwa [exited] at evolves
  | running kind found => exact .refl context before

/-- Frames are closed in turn, unless one of their bodies refuses. -/
theorem closesInTurn_or_failsToClose (context : Nat) (frames : List Frame) (session : Session) :
    (∃ after, session.closeFrames library context frames = (none, [], after) ∧
      ClosesInTurn library context session frames after) ∨
    ∃ closed failing outer failure after, frames = closed ++ failing :: outer ∧
      session.closeFrames library context frames = (some failure, outer, after) ∧
      FailsToClose library context failing outer failure session closed after := by
  induction frames generalizing session with
  | nil => exact .inl ⟨session, rfl, .none session⟩
  | cons frame outer induction =>
      unfold closeFrames
      dsimp only
      cases closing : closeFrame library frame
        ((session.leaveFrame context frame).withLiveFrames outer.length) with
      | mk failure? between =>
          unfold closeFrame at closing
          cases async : frame.isAsyncGenerator with
          | true =>
              rw [if_pos async] at closing
              cases closing
              rcases induction ((session.leaveFrame context frame).withLiveFrames outer.length) with
                ⟨after, rest, inTurn⟩ | ⟨closed, failing, outer, failure, after, rfl, rest, fails⟩
              · exact .inl ⟨after, rest, .leaves async inTurn⟩
              · exact .inr ⟨_, failing, outer, failure, after, rfl, rest, .leaves async fails⟩
          | false =>
              rw [if_neg (Bool.eq_false_iff.mp async)] at closing
              cases failure? with
              | some failure =>
                  have refuses := refusesExit_of_closeRoutine closing
                  exact .inr ⟨[], frame, outer, failure, between, rfl, rfl, .refuses async refuses⟩
              | none =>
                  have closes := closes_of_closeRoutine library closing
                  rcases induction between with
                    ⟨after, rest, inTurn⟩ |
                    ⟨closed, failing, outer, failure, after, rfl, rest, fails⟩
                  · exact .inl ⟨after, rest, .closes async closes inTurn⟩
                  · exact .inr ⟨_, failing, outer, failure, after, rfl, rest,
                      .closes async closes fails⟩

/-- The labels of the frames that stay are still resolved. -/
theorem FailsToClose.stack?_eq {failing : Frame} {outer closed : List Frame} {labels : List String}
    (fails : FailsToClose library context failing outer failure before closed after)
    (stacked : before.stack? context = some (labels ++ labelsOf (closed ++ failing :: outer))) :
    after.stack? context = some (labels ++ labelsOf outer) := by
  have left : ∀ {frame : Frame} {frames : List Frame} {session : Session} {count : Nat},
      session.stack? context = some (labels ++ labelsOf (frame :: frames)) →
      ((session.leaveFrame context frame).withLiveFrames count).stack? context
        = some (labels ++ labelsOf frames) := by
    intro frame frames session count stacked
    rw [Renderer.labelsOf_cons, ← List.append_assoc] at stacked
    exact stack?_leaveFrame stacked
  induction fails with
  | refuses notAsync refuses => exact (refuses.evolves context).stack _ (left stacked)
  | leaves async rest induction => exact induction (left stacked)
  | closes notAsync closes rest induction =>
      exact induction ((evolves_of_closes context closes).stack _ (left stacked))

end Session

namespace Renderer

variable {library : Library} {start renderer : Renderer} {labels texts : List String}
  {root : Value} {session left : Session} {last : Turned}

/-- Nothing of a run stays on the stack once its frames have been closed, whatever that came to. -/
def StrandsNone (library : Library) (start : Renderer) (labels : List String) (renderer : Renderer)
    (left : Session) : Prop :=
  (Run.closeFrames library renderer left).2.1.renderer.frames = [] ∧
    (Run.closeFrames library renderer left).2.2.stack? start.context = some labels

/-- The frames of a run are closed, and it ends as it was ended. -/
structure ClosesAll (library : Library) (start : Renderer) (labels : List String)
    (renderer : Renderer) (left after : Session) : Prop where
  inTurn : Session.ClosesInTurn library start.context left renderer.frames after
  stack : after.stack? start.context = some labels
  aborts : ∀ failure, Run.abort library failure renderer left
    = (.failed failure, ⟨renderer.withFrames [], .over⟩, after)
  closes : ∀ position, (Run.mk renderer position).close library left
    = (none, ⟨renderer.withFrames [], .over⟩, after)

/-- The frames in `closed` are closed and the body in `failing` refuses. Its failure is what the run
ends with, in place of the one that it was ended with; the frames in `outer` stay, with their
labels. -/
structure Strands (library : Library) (start : Renderer) (labels : List String)
    (renderer : Renderer) (left : Session) (closed : List Frame) (failing : Frame)
    (outer : List Frame) (failure : Failure) (after : Session) : Prop where
  frames : renderer.frames = closed ++ failing :: outer
  fails : Session.FailsToClose library start.context failing outer failure left closed after
  stack : after.stack? start.context = some (labels ++ labelsOf outer)
  aborts : ∀ first, Run.abort library first renderer left
    = (.failed failure, ⟨renderer.withFrames outer, .over⟩, after)
  closes : ∀ position, (Run.mk renderer position).close library left
    = (some failure, ⟨renderer.withFrames outer, .over⟩, after)

/-- Wherever a run is ended, its frames are closed from the innermost one on up to the first that
refuses, and no further. So nothing stays on the stack if the one that refuses is the root or none
does. -/
theorem closes_or_strands (library : Library) (root : Value) (empty : start.frames = [])
    (stacked : session.stack? start.context = some labels)
    (course : Course library (start.opening library root session) texts last)
    (meanwhile : last.2.2.Evolves last.2.1.context left) :
    (∃ after, ClosesAll library start labels last.2.1 left after) ∨
    ∃ closed failing outer failure after,
      Strands library start labels last.2.1 left closed failing outer failure after := by
  have sound := isSound_course library (isSound_opening library root empty stacked) course
  have context : last.2.1.context = start.context :=
    congrArg (fun given => given.2.2) sound.given_eq
  rw [context] at meanwhile
  have stack := meanwhile.stack _ sound.stack
  rcases @Session.closesInTurn_or_failsToClose library start.context last.2.1.frames
    left with ⟨after, closing, inTurn⟩ | ⟨closed, failing, outer, failure, after, frames, closing, fails⟩
  · have closes : Run.closeFrames library last.2.1 left
        = (none, ⟨last.2.1.withFrames [], .over⟩, after) := by
      rw [← context] at closing
      unfold Run.closeFrames
      rw [closing]
      rfl
    refine .inl ⟨after, inTurn, inTurn.stack?_eq stack, ?_, fun _ => closes⟩
    intro failure
    unfold Run.abort
    rw [closes]
    rfl
  · have closes : Run.closeFrames library last.2.1 left
        = (some failure, ⟨last.2.1.withFrames outer, .over⟩, after) := by
      rw [← context] at closing
      unfold Run.closeFrames
      rw [closing]
      rfl
    rw [frames] at stack
    refine .inr ⟨closed, failing, outer, failure, after, frames, fails, fails.stack?_eq stack, ?_,
      fun _ => closes⟩
    intro first
    unfold Run.abort
    rw [closes]
    rfl

/-! ## A theme made from a palette -/

end Renderer

namespace Sample

def palette : Token := ⟨1, some "palette"⟩

/-- A body that yields a text, and raises a failure when it is closed there. -/
def failingPalette : Component where
  reference := ⟨"Palette", some .generator, true⟩
  signature := ⟨[], [], [], none⟩
  body _ := .suspend (.effect (.text "x")) fun
    | .ok value => .finish (.ok value)
    | .error _ => .finish (.error (.raised .value (some "boom")))

/-- The theme asks for the palette. -/
def paletteLibrary : Library :=
  failingPalette :: library (.suspend (.effect (.token palette)) .finish)

def paletteStart : Renderer :=
  .start [(theme, ⟨.sync, .component provider⟩), (palette, ⟨.sync, .component failingPalette.reference⟩)]
    Settings.standard 0

/-- The third turn, in which the palette yields its text. -/
def paletteTurned : Turned :=
  let opened := paletteStart.opening paletteLibrary page session
  let asked := opened.2.1.turn paletteLibrary opened.2.2
  let provided := asked.2.1.turn paletteLibrary asked.2.2
  provided.2.1.turn paletteLibrary provided.2.2

theorem course_paletteTurned :
    Renderer.Course paletteLibrary (paletteStart.opening paletteLibrary page session) []
      paletteTurned := by
  have asked : Renderer.Course paletteLibrary (paletteStart.opening paletteLibrary page session) []
      _ := .turns .here
  have provided : Renderer.Course paletteLibrary
      (paletteStart.opening paletteLibrary page session) [] _ := .turns asked
  exact .turns provided

end Sample

open Sample

namespace Renderer

/-- The page is closed while the palette yields its text: the failure of the palette comes out, and
the theme and the page stay where they are. -/
theorem closes_or_strands_failingPalette :
    paletteTurned.1 = .chunk "x" ∧ ∃ closed failing after,
      Strands paletteLibrary paletteStart [] paletteTurned.2.1 paletteTurned.2.2 closed failing
        [.of ⟨.generator, 1, "Theme"⟩ (some theme), .of ⟨.generator, 0, "Page"⟩ none]
        (.raised .value (some "boom")) after := by
  have stacked : session.stack? paletteStart.context = some [] := rfl
  rcases closes_or_strands paletteLibrary page rfl stacked course_paletteTurned (.refl _ _) with
    ⟨after, all⟩ | ⟨closed, failing, outer, failure, after, strands⟩
  · cases congrArg Prod.fst (all.closes .atChunk)
  · have closing := strands.closes .atChunk
    have failed : some (.raised .value (some "boom")) = some failure := congrArg Prod.fst closing
    have staying : [Frame.of ⟨.generator, 1, "Theme"⟩ (some theme), .of ⟨.generator, 0, "Page"⟩ none]
        = outer := congrArg (fun closing => closing.2.1.renderer.frames) closing
    cases failed
    cases staying
    exact ⟨rfl, closed, failing, after, strands⟩

/-- So closing a run may leave frames on the stack, and bodies that have not ended. -/
theorem not_strandsNone_failingPalette :
    let closing := Run.closeFrames paletteLibrary paletteTurned.2.1 paletteTurned.2.2
    ¬ StrandsNone paletteLibrary paletteStart [] paletteTurned.2.1 paletteTurned.2.2 ∧
      closing.2.2.stack? 0 = some ["theme"] ∧ closing.2.2.hasEnded 0 = false := by
  intro closing
  refine ⟨?_, rfl, rfl⟩
  intro none
  cases none.1

end Renderer
end HtmlStream
