import HtmlStream.Renderer.Interpretation

/-!
How the interpretation of a body follows from that of another one inside it.
-/
namespace HtmlStream

theorem Session.closeFrame_of_generator (library : Library) {frame : Frame}
    (generator : frame.routine.kind = .generator) (session : Session) :
    session.closeFrame library frame = session.closeRoutine library frame.routine.index := by
  unfold closeFrame Frame.isAsyncGenerator
  rw [generator]
  rfl

namespace Interpreter

variable {interpreter : Interpreter} {depth : Nat} {tokens : List Token} {body : RoutineReference}
  {frame : Frame} {reply : Reply} {styles : StyleSet} {session : Session} {account : Account}

theorem leave_after (texts : List String) :
    interpreter.leave depth frame (account.after texts)
      = (interpreter.leave depth frame account).after texts := by
  rcases account with ⟨earlier, ending, styles, session⟩
  cases ending with
  | returned value | stranded failure => rfl
  | failed failure =>
      unfold leave Account.after
      dsimp only
      split <;> rfl

theorem interpretNested_of_room (room : depth < interpreter.settings.maxDepth)
    (found : interpreter.interpret (depth + 1) (frame.token?.toList ++ tokens) frame.routine
      (.ok .null) styles (session.enterFrame interpreter.context frame) = some account) :
    interpreter.interpretNested depth tokens frame styles session
      = some (interpreter.leave depth frame account) := by
  rw [interpretNested.eq_1, if_pos room, found]
  rfl

theorem interpretNested_of_full (full : ¬ depth < interpreter.settings.maxDepth) :
    interpreter.interpretNested depth tokens frame styles session
      = some (interpreter.reject frame styles session) := by
  rw [interpretNested.eq_1, if_neg full]

theorem leave_of_returned {value : Value} (returned : account.ending = .returned value) :
    interpreter.leave depth frame account
      = { account with session := account.session.leaveFrame interpreter.context frame } := by
  unfold leave
  rw [returned]

theorem leave_of_closed {failure : Failure} {closed : Session}
    (failed : account.ending = .failed failure)
    (closing : ((account.session.leaveFrame interpreter.context frame).withLiveFrames
      depth).closeFrame interpreter.library frame = (none, closed)) :
    interpreter.leave depth frame account = { account with session := closed } := by
  unfold leave
  rw [failed]
  dsimp only
  rw [closing]

/-- A body does not return that is closed after a failure. -/
theorem ending_leave (failed : ∀ value, account.ending ≠ .returned value) (value : Value) :
    (interpreter.leave depth frame account).ending ≠ .returned value := by
  rcases account with ⟨texts, ending, styles, session⟩
  cases ending with
  | returned value => exact (failed value rfl).elim
  | failed failure =>
      unfold leave
      dsimp only
      split <;> exact nofun
  | stranded failure => exact nofun

theorem ending_reject (value : Value) :
    (interpreter.reject frame styles session).ending ≠ .returned value := by
  unfold reject
  split <;> exact nofun

theorem interpret_of_nested_returned {inner : RoutineReference} {token? : Option Token}
    {value : Value} {after : Session} {next : StyleSet} {rest : Account}
    (demanded : interpreter.advance depth tokens body reply styles session
      = (.nested inner token?, next, after))
    (nested : interpreter.interpretNested depth tokens (.of inner token?) next after = some account)
    (returned : account.ending = .returned value)
    (found : interpreter.interpret depth tokens body (.ok value) account.styles account.session
      = some rest) :
    interpreter.interpret depth tokens body reply styles session
      = some (rest.after account.texts) := by
  rw [interpret.eq_1, demanded]
  refine Option.bind_eq_some_iff.mpr ⟨account, nested, ?_⟩
  rw [returned]
  exact Option.bind_eq_some_iff.mpr ⟨rest, found, rfl⟩

theorem interpret_of_nested_failed {inner : RoutineReference} {token? : Option Token}
    {after : Session} {next : StyleSet}
    (demanded : interpreter.advance depth tokens body reply styles session
      = (.nested inner token?, next, after))
    (nested : interpreter.interpretNested depth tokens (.of inner token?) next after = some account)
    (failed : ∀ value, account.ending ≠ .returned value) :
    interpreter.interpret depth tokens body reply styles session = some account := by
  rw [interpret.eq_1, demanded]
  refine Option.bind_eq_some_iff.mpr ⟨account, nested, ?_⟩
  cases ending : account.ending with
  | returned value => exact (failed value ending).elim
  | _ => rfl

end Interpreter
end HtmlStream
