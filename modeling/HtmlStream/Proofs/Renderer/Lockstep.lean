import HtmlStream.Proofs.Renderer.Blindness
import HtmlStream.Proofs.Renderer.Fitting

/-!
Bodies that belong together come to the same account. Where nothing can tell numbers, a body that comes
to its end in one session comes to the same end in a session that corresponds, at any depth that is no
larger. The main statement is `exists_fits_of_corresponds`.
-/
namespace HtmlStream

/-- Two frames hold bodies that belong together, and provide the same token, if any. -/
structure Pairing.RelatesFrame (pairing : Pairing) (frame twin : Frame) : Prop where
  routine : pairing.Relates frame.routine twin.routine
  token : pairing.Relates frame.token? twin.token?

theorem Pairing.Extends.relatesFrame {earlier later : Pairing} (extend : earlier.Extends later)
    {frame twin : Frame} (frames : earlier.RelatesFrame frame twin) :
    later.RelatesFrame frame twin :=
  ⟨extend.relates frames.routine, extend.relates frames.token⟩

/-- The tokens that are provided inside two frames. -/
theorem Pairing.RelatesFrame.provided {pairing : Pairing} {frame twin : Frame}
    (inhabited : ∃ numbers, pairing.Allows numbers) (frames : pairing.RelatesFrame frame twin)
    {tokens others : List Token} (provided : pairing.Relates tokens others) :
    pairing.Relates (frame.token?.toList ++ tokens) (twin.token?.toList ++ others) := by
  rcases frames.token.option_cases inhabited with
    ⟨onLeft, onRight⟩ | ⟨token, other, onLeft, onRight, tokens⟩
  · rw [onLeft, onRight]
    exact provided
  · rw [onLeft, onRight]
    exact Pairing.relates_cons tokens provided

namespace Session

variable {base pairing : Pairing} {left right : Session} {frame twin : Frame}

/-! ## Frames -/

namespace Corresponds

variable (same : Corresponds base pairing left right)

include same

/-- A change of the labels of a render context. -/
theorem modifyStack (context : Nat) (change : List String → List String) :
    Corresponds base pairing
      (left.modifyContext context fun current =>
        { current with contextStack := change current.contextStack })
      (right.modifyContext context fun current =>
        { current with contextStack := change current.contextStack }) :=
  same.modifyContext context (fun _ => id) fun _ _ => rfl

theorem enterFrame (frames : pairing.RelatesFrame frame twin) (context : Nat) :
    Corresponds base pairing (left.enterFrame context frame) (right.enterFrame context twin) := by
  unfold Session.enterFrame
  rcases frames.token.option_cases same.inhabited with
    ⟨onLeft, onRight⟩ | ⟨token, other, onLeft, onRight, tokens⟩
  · rw [onLeft, onRight]
    exact same
  · rw [onLeft, onRight]
    dsimp only
    rw [(Interpreter.token_eq same tokens).2]
    exact same.modifyStack context (· ++ [token.label])

theorem leaveFrame (frames : pairing.RelatesFrame frame twin) (context : Nat) :
    Corresponds base pairing (left.leaveFrame context frame) (right.leaveFrame context twin) := by
  unfold Session.leaveFrame
  rcases frames.token.option_cases same.inhabited with
    ⟨onLeft, onRight⟩ | ⟨token, other, onLeft, onRight, tokens⟩
  · rw [onLeft, onRight]
    exact same
  · rw [onLeft, onRight]
    exact same.modifyStack context List.dropLast

omit same in
theorem grows_enterFrame (context : Nat) :
    Grows pairing left right pairing (left.enterFrame context frame)
      (right.enterFrame context twin) :=
  .of_same (routines_enterFrame ..) (routines_enterFrame ..)

omit same in
theorem grows_leaveFrame (context : Nat) :
    Grows pairing left right pairing (left.leaveFrame context frame)
      (right.leaveFrame context twin) :=
  .of_same (routines_leaveFrame ..) (routines_leaveFrame ..)

theorem inStep_closeFrame {library : Library} (blind : library.IsBlind base)
    (frames : pairing.RelatesFrame frame twin) :
    InStep base pairing left right (left.closeFrame library frame)
      (right.closeFrame library twin) := by
  rcases same.exists_reference frames.routine with ⟨kind, _, paired⟩
  unfold closeFrame Frame.isAsyncGenerator
  rw [kind]
  split
  · exact same.inStep Pairing.relates_none
  · exact inStep_closeRoutine blind same paired

end Corresponds

/-! ## Accounts -/

/-- Two accounts are the same but for their numbers, and come with corresponding sessions. -/
def InAccount (base pairing : Pairing) (left right : Session) (mine yours : Account) : Prop :=
  yours.texts = mine.texts ∧ InStep base pairing left right
    ((mine.ending, mine.styles), mine.session) ((yours.ending, yours.styles), yours.session)

namespace InAccount

variable {mine yours : Account}

theorem afterTexts (same : InAccount base pairing left right mine yours) (texts : List String) :
    InAccount base pairing left right (mine.after texts) (yours.after texts) :=
  ⟨congrArg (texts ++ ·) same.1, same.2⟩

theorem after {between : Pairing} {leftBetween rightBetween : Session}
    (grows : Grows pairing left right between leftBetween rightBetween)
    (same : InAccount base between leftBetween rightBetween mine yours) :
    InAccount base pairing left right mine yours :=
  ⟨same.1, same.2.after grows⟩

end InAccount

end Session

/-- How two bodies ended. -/
inductive Pairing.SameEnding (pairing : Pairing) : Ending → Ending → Prop
  | returned {value other : Value} (related : pairing.Relates value other) :
      SameEnding pairing (.returned value) (.returned other)
  | failed {failure other : Failure} (related : pairing.Relates failure other) :
      SameEnding pairing (.failed failure) (.failed other)
  | stranded {failure other : Failure} (related : pairing.Relates failure other) :
      SameEnding pairing (.stranded failure) (.stranded other)

theorem Pairing.Relates.sameEnding {pairing : Pairing}
    (inhabited : ∃ numbers, pairing.Allows numbers) {ending other : Ending}
    (related : pairing.Relates ending other) : pairing.SameEnding ending other := by
  cases ending with
  | returned value =>
      rcases related.made (fun _ _ => Ending.returned.inj) (fun _ _ => rfl) inhabited
        related.lacks with ⟨other, rfl, values⟩
      exact .returned values
  | failed failure =>
      rcases related.made (fun _ _ => Ending.failed.inj) (fun _ _ => rfl) inhabited
        related.lacks with ⟨other, rfl, failures⟩
      exact .failed failures
  | stranded failure =>
      rcases related.made (fun _ _ => Ending.stranded.inj) (fun _ _ => rfl) inhabited
        related.lacks with ⟨other, rfl, failures⟩
      exact .stranded failures

theorem Pairing.Relates.not_returned {pairing : Pairing}
    (inhabited : ∃ numbers, pairing.Allows numbers) {ending other : Ending}
    (related : pairing.Relates ending other) (broken : ∀ value, other ≠ .returned value)
    (value : Value) : ending ≠ .returned value := by
  rintro rfl
  cases related.sameEnding inhabited with
  | returned values => exact broken _ rfl

namespace Session.InAccount

variable {mine yours : Account}

/-- The body in a frame has returned, and so has the one in its twin. Both frames are left. -/
theorem returned {value : Value} (frames : pairing.RelatesFrame frame twin) (context : Nat)
    (inside : InAccount base pairing (left.enterFrame context frame) (right.enterFrame context twin)
      mine yours)
    (ending : yours.ending = .returned value) :
    ∃ last result, mine.ending = .returned result ∧
      Grows pairing left right last (mine.session.leaveFrame context frame)
        (yours.session.leaveFrame context twin) ∧
      Corresponds base last (mine.session.leaveFrame context frame)
        (yours.session.leaveFrame context twin) ∧
      last.Relates result value ∧ last.Relates mine.styles yours.styles := by
  rcases inside with ⟨_, last, grows, same, ends⟩
  have grown : Grows pairing left right last (mine.session.leaveFrame context frame)
      (yours.session.leaveFrame context twin) :=
    ((Corresponds.grows_enterFrame context).trans grows).trans (Corresponds.grows_leaveFrame context)
  have outside := same.leaveFrame (grows.extend.relatesFrame frames) context
  have endings := ends.fst
  rw [ending] at endings
  generalize mineEnding : mine.ending = mineEnds at endings
  cases endings.sameEnding same.inhabited with
  | @returned result _ values => exact ⟨last, result, rfl, grown, outside, values, ends.snd⟩

theorem not_returned (inside : InAccount base pairing left right mine yours)
    (broken : ∀ value, yours.ending ≠ .returned value) (value : Value) :
    mine.ending ≠ .returned value := by
  rcases inside with ⟨_, last, _, same, ends⟩
  exact ends.fst.not_returned same.inhabited broken value

end Session.InAccount

theorem isUniform_returnedEnding : IsUniform Ending.returned := ⟨fun _ _ => rfl, fun _ => id⟩

theorem isUniform_failedEnding : IsUniform Ending.failed := ⟨fun _ _ => rfl, fun _ => id⟩

theorem isUniform_strandedEnding : IsUniform Ending.stranded := ⟨fun _ _ => rfl, fun _ => id⟩

/-- What one of two bodies asks for, the other one asks for as well. -/
theorem Session.InDemand.exists {first : Demanded} {demand : Demand} {written : StyleSet}
    {after : Session} (step : InDemand base pairing left right first (demand, written, after)) :
    ∃ later asked styles before, first = (asked, styles, before) ∧
      Grows pairing left right later before after ∧ Corresponds base later before after ∧
      later.SameDemand asked demand ∧ later.Relates styles written := by
  rcases first with ⟨asked, styles, before⟩
  rcases step with ⟨later, grows, same, related⟩
  exact ⟨later, asked, styles, before, rfl, grows, same, related.fst.sameDemand same.inhabited,
    related.snd⟩

/-- Bodies that are asked for together open frames that belong together. -/
theorem Pairing.SameDemand.nested_cases {pairing : Pairing} {asked : Demand}
    {inner : RoutineReference} {token? : Option Token}
    (demands : pairing.SameDemand asked (.nested inner token?)) :
    ∃ opened noted?, asked = .nested opened noted? ∧
      pairing.RelatesFrame (.of opened noted?) (.of inner token?) := by
  cases demands with
  | nested bodies tokens => exact ⟨_, _, rfl, bodies, tokens⟩

namespace Interpreter

open Session

variable {interpreter : Interpreter} {base pairing : Pairing} {left right : Session}
  {frame twin : Frame} {mine yours : Account}

/-- Leaving two frames that belong together comes to the same. -/
theorem inAccount_leave (blind : interpreter.library.IsBlind base) (depth other : Nat)
    (frames : pairing.RelatesFrame frame twin)
    (same : InAccount base pairing left right mine yours) :
    InAccount base pairing left right (interpreter.leave depth frame mine)
      (interpreter.leave other twin yours) := by
  rcases mine with ⟨texts, ending, styles, after⟩
  rcases yours with ⟨_, ended, written, later⟩
  rcases same with ⟨rfl, between, grows, sameAfter, related⟩
  have framesAfter := grows.extend.relatesFrame frames
  have left := sameAfter.leaveFrame framesAfter interpreter.context
  have grown : Grows between after later between (after.leaveFrame interpreter.context frame)
      (later.leaveFrame interpreter.context twin) :=
    .of_same (routines_leaveFrame ..) (routines_leaveFrame ..)
  cases related.fst.sameEnding sameAfter.inhabited with
  | returned values =>
      exact ⟨rfl, .after (grows.trans grown) (left.inStep related)⟩
  | stranded failures => exact ⟨rfl, .after grows (sameAfter.inStep related)⟩
  | failed failures =>
      have noted := left.withLiveFrames depth other
      have counted : Grows between after later between
          ((after.leaveFrame interpreter.context frame).withLiveFrames depth)
          ((later.leaveFrame interpreter.context twin).withLiveFrames other) :=
        grown.trans (.of_same rfl rfl)
      rcases (noted.inStep_closeFrame blind framesAfter).exists with
        ⟨last, closing, ended, leftAfter, rightAfter, onLeft, onRight, more, sameLast, closings⟩
      unfold leave
      dsimp only
      rw [onLeft, onRight]
      have extend := more.extend
      rcases closings.option_cases sameLast.inhabited with
        ⟨rfl, rfl⟩ | ⟨failure, raised, rfl, rfl, failuresLast⟩
      · exact ⟨rfl, .after ((grows.trans counted).trans more) (sameLast.inStep (extend.relates related))⟩
      · exact ⟨rfl, .after ((grows.trans counted).trans more) (sameLast.inStep
          (Pairing.relates_pair (.map isUniform_strandedEnding failuresLast)
            (extend.relates related.snd)))⟩

/-- A body asks for what the one that belongs to it asks for. -/
theorem exists_advance_of_corresponds (blind : interpreter.IsBlind base)
    (same : Corresponds base pairing left right) (depth : Nat) {deeper : Nat}
    {tokens others : List Token} (provided : pairing.Relates tokens others)
    {body twin : RoutineReference} (bodies : pairing.Relates body twin) {reply answer : Reply}
    (replies : pairing.Relates reply answer) {styles written next : StyleSet}
    (related : pairing.Relates styles written) {demand : Demand} {after : Session}
    (demanded : interpreter.advance deeper others twin answer written right
      = (demand, next, after)) :
    ∃ later asked stylesAfter before,
      interpreter.advance depth tokens body reply styles left = (asked, stylesAfter, before) ∧
      Grows pairing left right later before after ∧ Corresponds base later before after ∧
      later.SameDemand asked demand ∧ later.Relates stylesAfter next := by
  have step := inDemand_advance same blind depth deeper provided bodies replies related
  rw [demanded] at step
  exact step.exists

/-- A body that belongs to one that comes to an account comes to the same account, at any depth that
is no larger. The induction is on the demands of the other body. -/
theorem exists_fits_of_corresponds (blind : interpreter.IsBlind base) {deeper : Nat}
    {others : List Token} {twin : RoutineReference} {answer : Reply} {written : StyleSet}
    (fits : interpreter.Fits deeper others twin answer written right yours)
    {depth : Nat} {tokens : List Token} {body : RoutineReference} {reply : Reply}
    {styles : StyleSet} (same : Corresponds base pairing left right) (shallow : depth ≤ deeper)
    (provided : pairing.Relates tokens others) (bodies : pairing.Relates body twin)
    (replies : pairing.Relates reply answer) (related : pairing.Relates styles written) :
    ∃ mine, interpreter.Fits depth tokens body reply styles left mine ∧
      InAccount base pairing left right mine yours := by
  induction fits generalizing pairing left depth tokens body reply styles with
  | @writes deeper others twin answer written next right after text rest demanded later induction =>
      rcases exists_advance_of_corresponds blind same depth provided bodies replies related demanded
        with ⟨between, _, _, before, asked, grows, sameAfter, demands, stylesAfter⟩
      cases demands with
      | write =>
          have extend := grows.extend
          rcases induction sameAfter shallow (extend.relates provided) (extend.relates bodies)
            Pairing.relates_null stylesAfter with ⟨mine, fits, account⟩
          exact ⟨_, .writes asked fits, (account.afterTexts _).after grows⟩
  | @goesOn deeper others twin answer next written _ right after account demanded later induction =>
      rcases exists_advance_of_corresponds blind same depth provided bodies replies related demanded
        with ⟨between, _, _, before, asked, grows, sameAfter, demands, stylesAfter⟩
      cases demands with
      | goOn answers =>
          have extend := grows.extend
          rcases induction sameAfter shallow (extend.relates provided) (extend.relates bodies)
            answers stylesAfter with ⟨mine, fits, account⟩
          exact ⟨mine, .goesOn asked fits, account.after grows⟩
  | @nests deeper others twin inner token? answer written next right after account rest value demanded
      room within returned later induction inductionLater =>
      rcases exists_advance_of_corresponds blind same depth provided bodies replies related demanded
        with ⟨between, _, _, before, asked, grows, sameAfter, demands, stylesAfter⟩
      rcases demands.nested_cases with ⟨opened, noted?, rfl, frames⟩
      have extend := grows.extend
      have entered := sameAfter.enterFrame frames interpreter.context
      rcases induction entered (Nat.succ_le_succ shallow)
        (frames.provided sameAfter.inhabited (extend.relates provided)) frames.routine
        Pairing.relates_null stylesAfter with ⟨mine, fits, inside⟩
      rcases inside.returned frames interpreter.context returned with
        ⟨last, result, mineEnding, grown, outside, values, written⟩
      have onward := (grows.trans grown).extend
      rcases inductionLater outside shallow (onward.relates provided) (onward.relates bodies)
        (Pairing.relates_ok values) written with ⟨later, fitsLater, accountLater⟩
      refine ⟨_, .nests asked (shallow.trans_lt room) fits mineEnding fitsLater, ?_⟩
      rw [inside.1]
      exact (accountLater.afterTexts mine.texts).after (grows.trans grown)
  | @breaks deeper others twin inner token? answer written next right after account demanded room
      within broken induction =>
      rcases exists_advance_of_corresponds blind same depth provided bodies replies related demanded
        with ⟨between, _, _, before, asked, grows, sameAfter, demands, stylesAfter⟩
      rcases demands.nested_cases with ⟨opened, noted?, rfl, frames⟩
      have extend := grows.extend
      have entered := sameAfter.enterFrame frames interpreter.context
      rcases induction entered (Nat.succ_le_succ shallow)
        (frames.provided sameAfter.inhabited (extend.relates provided)) frames.routine
        Pairing.relates_null stylesAfter with ⟨mine, fits, inside⟩
      have left := ((inAccount_leave blind.library depth deeper frames inside).after
        (Corresponds.grows_enterFrame interpreter.context)).after grows
      exact ⟨_, .breaks asked (shallow.trans_lt room) fits (inside.not_returned broken), left⟩
  | @finishes deeper others twin answer written next right after value demanded =>
      rcases exists_advance_of_corresponds blind same depth provided bodies replies related demanded
        with ⟨between, _, _, before, asked, grows, sameAfter, demands, stylesAfter⟩
      cases demands with
      | finish values =>
          exact ⟨_, .finishes asked, rfl, .after grows (sameAfter.inStep
            (Pairing.relates_pair (.map isUniform_returnedEnding values) stylesAfter))⟩
  | @fails deeper others twin answer written next right after failure demanded =>
      rcases exists_advance_of_corresponds blind same depth provided bodies replies related demanded
        with ⟨between, _, _, before, asked, grows, sameAfter, demands, stylesAfter⟩
      cases demands with
      | fail failures =>
          exact ⟨_, .fails asked, rfl, .after grows (sameAfter.inStep
            (Pairing.relates_pair (.map isUniform_failedEnding failures) stylesAfter))⟩

end Interpreter
end HtmlStream
