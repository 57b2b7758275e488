import HtmlStream.Proofs.Renderer.Trampoline

/-!
Interpretations that stay within the largest depth. They have one rule for each demand of a body, and
none for a body that would be nested too deep. The main statement is `FitsRoot.transcript_eq`.
-/
namespace HtmlStream.Interpreter

/-- A body comes to an account, and no body is refused meanwhile because it would be nested too
deep. -/
inductive Fits (interpreter : Interpreter) :
    Nat → List Token → RoutineReference → Reply → StyleSet → Session → Account → Prop
  | writes {depth : Nat} {tokens : List Token} {body : RoutineReference} {reply : Reply}
      {styles next : StyleSet} {session after : Session} {text : String} {rest : Account}
      (demanded : interpreter.advance depth tokens body reply styles session
        = (.write text, next, after))
      (later : Fits interpreter depth tokens body (.ok .null) next after rest) :
      Fits interpreter depth tokens body reply styles session (rest.after (piecesOf text))
  | goesOn {depth : Nat} {tokens : List Token} {body : RoutineReference} {reply answer : Reply}
      {styles next : StyleSet} {session after : Session} {account : Account}
      (demanded : interpreter.advance depth tokens body reply styles session
        = (.goOn answer, next, after))
      (later : Fits interpreter depth tokens body answer next after account) :
      Fits interpreter depth tokens body reply styles session account
  | nests {depth : Nat} {tokens : List Token} {body inner : RoutineReference}
      {token? : Option Token} {reply : Reply} {styles next : StyleSet} {session after : Session}
      {account rest : Account} {value : Value}
      (demanded : interpreter.advance depth tokens body reply styles session
        = (.nested inner token?, next, after))
      (room : depth < interpreter.settings.maxDepth)
      (within : Fits interpreter (depth + 1) (token?.toList ++ tokens) inner (.ok .null) next
        (after.enterFrame interpreter.context (.of inner token?)) account)
      (returned : account.ending = .returned value)
      (later : Fits interpreter depth tokens body (.ok value) account.styles
        (account.session.leaveFrame interpreter.context (.of inner token?)) rest) :
      Fits interpreter depth tokens body reply styles session (rest.after account.texts)
  | breaks {depth : Nat} {tokens : List Token} {body inner : RoutineReference}
      {token? : Option Token} {reply : Reply} {styles next : StyleSet} {session after : Session}
      {account : Account}
      (demanded : interpreter.advance depth tokens body reply styles session
        = (.nested inner token?, next, after))
      (room : depth < interpreter.settings.maxDepth)
      (within : Fits interpreter (depth + 1) (token?.toList ++ tokens) inner (.ok .null) next
        (after.enterFrame interpreter.context (.of inner token?)) account)
      (broken : ∀ value, account.ending ≠ .returned value) :
      Fits interpreter depth tokens body reply styles session
        (interpreter.leave depth (.of inner token?) account)
  | finishes {depth : Nat} {tokens : List Token} {body : RoutineReference} {reply : Reply}
      {styles next : StyleSet} {session after : Session} {value : Value}
      (demanded : interpreter.advance depth tokens body reply styles session
        = (.finish value, next, after)) :
      Fits interpreter depth tokens body reply styles session ⟨[], .returned value, next, after⟩
  | fails {depth : Nat} {tokens : List Token} {body : RoutineReference} {reply : Reply}
      {styles next : StyleSet} {session after : Session} {failure : Failure}
      (demanded : interpreter.advance depth tokens body reply styles session
        = (.fail failure, next, after)) :
      Fits interpreter depth tokens body reply styles session ⟨[], .failed failure, next, after⟩

variable {interpreter : Interpreter} {depth : Nat} {tokens : List Token} {body : RoutineReference}
  {reply : Reply} {styles : StyleSet} {session : Session} {account : Account}

/-- The account is the one of the interpreter. -/
theorem Fits.interpret_eq
    (fits : interpreter.Fits depth tokens body reply styles session account) :
    interpreter.interpret depth tokens body reply styles session = some account := by
  induction fits with
  | writes demanded later interpreted =>
      rw [interpret.eq_1, demanded]
      exact Option.bind_eq_some_iff.mpr ⟨_, interpreted, rfl⟩
  | goesOn demanded later interpreted =>
      rw [interpret.eq_1, demanded]
      exact interpreted
  | @nests _ _ _ inner token? _ _ _ _ _ _ _ _ demanded room _ returned _ told interpreted =>
      have nested := @interpretNested_of_room interpreter _ _ (.of inner token?) _ _ _ room told
      rw [leave_of_returned returned] at nested
      have whole := interpret_of_nested_returned demanded nested returned interpreted
      exact whole
  | @breaks _ _ _ inner token? _ _ _ _ _ _ demanded room _ broken told =>
      have nested := @interpretNested_of_room interpreter _ _ (.of inner token?) _ _ _ room told
      exact interpret_of_nested_failed demanded nested (ending_leave broken)
  | finishes demanded => rw [interpret.eq_1, demanded]
  | fails demanded => rw [interpret.eq_1, demanded]

/-! ## The root -/

/-- A render comes to a transcript, and no frame is refused. -/
inductive FitsRoot (interpreter : Interpreter) (root : Value) (session : Session) :
    Transcript → Prop
  | intro {frame : Frame} {opened : Session} {account : Account}
      (framed : Renderer.frameOf? root session = some (frame, opened))
      (room : 0 < interpreter.settings.maxDepth)
      (within : interpreter.Fits 1 (frame.token?.toList ++ []) frame.routine (.ok .null) []
        (opened.enterFrame interpreter.context frame) account) :
      FitsRoot interpreter root session (interpreter.conclude (interpreter.leave 0 frame account))

/-- The transcript is that of the run. -/
theorem FitsRoot.transcript_eq {root : Value} {transcript : Transcript}
    (fits : interpreter.FitsRoot root session transcript) :
    (Run.start interpreter.renderer root).transcript interpreter.library interpreter.answers
      (.ok .null) session = some transcript := by
  rcases fits with ⟨framed, room, within⟩
  refine (Run.transcript_eq_interpretRoot interpreter root session).1.trans ?_
  unfold interpretRoot
  rw [framed]
  exact Option.bind_eq_some_iff.mpr ⟨_, interpretNested_of_room room within.interpret_eq, rfl⟩

end HtmlStream.Interpreter
