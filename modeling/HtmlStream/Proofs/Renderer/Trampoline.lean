import HtmlStream.Proofs.Renderer.Continuation
import HtmlStream.Proofs.Renderer.Nesting

/-!
The stack of frames against the recursion. What the interpreter makes of a body is what the renderer
gives while that body and those inside it are the innermost frames, and what it then does with the
others around them.
-/
namespace HtmlStream

namespace Renderer

variable (library : Library) (answers : LoopAnswers)

/-- What a run gives from the end of a body on that came before the frames of the renderer. -/
def ended (renderer : Renderer) (session : Session) : Ending → Option Transcript
  | .returned value => continued library answers (renderer.deliver value session)
  | .failed failure => continued library answers (.failed failure, renderer, session)
  | .stranded failure => some ⟨[], some failure, session⟩

/-- What a run gives of a body that came before the frames of the renderer, and from its end on. -/
def resumed (renderer : Renderer) (account : Account) : Option Transcript :=
  (ended library answers (renderer.withStyles account.styles) account.session account.ending).map
    (Transcript.after · account.texts)

theorem resumed_after (renderer : Renderer) (account : Account) (texts : List String) :
    renderer.resumed library answers (account.after texts)
      = (renderer.resumed library answers account).map (Transcript.after · texts) := by
  unfold resumed
  rw [Option.map_map]
  apply congrFun (congrArg Option.map _)
  funext transcript
  exact (transcript.after_after texts account.texts).symm

variable {renderer : Renderer} {frame : Frame} {outer : List Frame}

theorem resumed_leave_returned {interpreter : Interpreter}
    (same : renderer.interpreter library answers = interpreter) (value : Value)
    (styles : StyleSet) (session : Session) :
    (renderer.withFrames outer).resumed library answers
        (interpreter.leave outer.length frame ⟨[], .returned value, styles, session⟩)
      = continued library answers
        (((renderer.withFrames (frame :: outer)).withStyles styles).finish value session) := by
  subst same
  exact Option.map_id'

/-- A failure closes the innermost frame, and then those around it. -/
theorem resumed_leave_failed {interpreter : Interpreter}
    (same : renderer.interpreter library answers = interpreter) (texts : List String)
    (failure : Failure) (styles : StyleSet) (session : Session) :
    (renderer.withFrames outer).resumed library answers
        (interpreter.leave outer.length frame ⟨texts, .failed failure, styles, session⟩)
      = (continued library answers (.failed failure,
          (renderer.withFrames (frame :: outer)).withStyles styles, session)).map
          (Transcript.after · texts) := by
  subst same
  unfold resumed Interpreter.leave
  simp only [continued_failed, withFrames, withStyles, interpreter, Session.closeFrames]
  cases closed : Session.closeFrame library frame
    ((session.leaveFrame renderer.context frame).withLiveFrames outer.length) with
  | mk closing? after =>
      cases closing? with
      | none => rfl
      | some closing => rfl

end Renderer

/-! ## What the recursion tells -/

namespace Interpreter

open Renderer

variable (interpreter : Interpreter)

/-- An account of a body is one of what a renderer gives in which that body is innermost. -/
def Tells (depth : Nat) (tokens : List Token) (body : RoutineReference) (reply : Reply)
    (styles : StyleSet) (session : Session) (account : Account) : Prop :=
  ∀ (renderer : Renderer) (frame : Frame) (outer : List Frame), frame.IsIdle →
    renderer.frames = frame.receiving reply :: outer →
    renderer.interpreter interpreter.library interpreter.answers = interpreter →
    renderer.styles = styles → outer.length + 1 = depth → tokensOf (frame :: outer) = tokens →
    frame.routine = body →
    continued interpreter.library interpreter.answers (.proceed, renderer, session)
      = (renderer.withFrames outer).resumed interpreter.library interpreter.answers
          (interpreter.leave outer.length frame account)

/-- An account of a frame is one of what a renderer gives on which that frame is put. -/
def TellsNested (depth : Nat) (tokens : List Token) (frame : Frame) (styles : StyleSet)
    (session : Session) (account : Account) : Prop :=
  ∀ renderer : Renderer, frame.IsIdle →
    renderer.interpreter interpreter.library interpreter.answers = interpreter →
    renderer.styles = styles → renderer.frames.length = depth → tokensOf renderer.frames = tokens →
    continued interpreter.library interpreter.answers
        (renderer.push interpreter.library frame session)
      = renderer.resumed interpreter.library interpreter.answers account

variable {interpreter} {depth : Nat} {tokens : List Token} {body : RoutineReference}
  {frame : Frame} {reply : Reply} {styles : StyleSet} {session : Session} {account : Account}

/-- One turn of the renderer is one demand of the body. -/
theorem continued_act {renderer : Renderer} {outer : List Frame} (idle : frame.IsIdle)
    (frames : renderer.frames = frame.receiving reply :: outer)
    (same : renderer.interpreter interpreter.library interpreter.answers = interpreter) :
    continued interpreter.library interpreter.answers (.proceed, renderer, session)
      = continued interpreter.library interpreter.answers
          ((renderer.withFrames (frame :: outer)).act interpreter.library
            (interpreter.advance (outer.length + 1) (tokensOf (frame :: outer)) frame.routine reply
              renderer.styles session)) := by
  rw [continued_proceed, answering_turn _ _ idle reply frames, same]

theorem tells_write {text : String} {after : Session} {next : StyleSet} {rest : Account}
    (demanded : interpreter.advance depth tokens body reply styles session
      = (.write text, next, after))
    (tells : interpreter.Tells depth tokens body (.ok .null) next after rest) :
    interpreter.Tells depth tokens body reply styles session (rest.after (piecesOf text)) := by
  intro renderer frame outer idle frames same styled deep providing advanced
  rw [continued_act idle frames same, styled, deep, providing, advanced, demanded, leave_after,
    resumed_after]
  refine (continued_ofText _ _ text _ after).trans (congrArg (Option.map _) ?_)
  refine tells _ frame outer idle ?_ same rfl deep providing advanced
  rw [idle.receiving_null]
  rfl

theorem tells_goOn {next : Reply} {after : Session} {later : StyleSet}
    (demanded : interpreter.advance depth tokens body reply styles session
      = (.goOn next, later, after))
    (tells : interpreter.Tells depth tokens body next later after account) :
    interpreter.Tells depth tokens body reply styles session account := by
  intro renderer frame outer idle frames same styled deep providing advanced
  rw [continued_act idle frames same, styled, deep, providing, advanced, demanded]
  have received := receive_of_frames
    (show ((renderer.withFrames (frame :: outer)).withStyles later).frames = frame :: outer from rfl)
    next
  unfold act
  dsimp only
  rw [received]
  exact tells _ frame outer idle rfl same rfl deep providing advanced

theorem tells_finish {value : Value} {after : Session} {next : StyleSet}
    (demanded : interpreter.advance depth tokens body reply styles session
      = (.finish value, next, after)) :
    interpreter.Tells depth tokens body reply styles session ⟨[], .returned value, next, after⟩ := by
  intro renderer frame outer idle frames same styled deep providing advanced
  rw [continued_act idle frames same, styled, deep, providing, advanced, demanded]
  exact (resumed_leave_returned _ _ same value next after).symm

theorem tells_fail {failure : Failure} {after : Session} {next : StyleSet}
    (demanded : interpreter.advance depth tokens body reply styles session
      = (.fail failure, next, after)) :
    interpreter.Tells depth tokens body reply styles session ⟨[], .failed failure, next, after⟩ := by
  intro renderer frame outer idle frames same styled deep providing advanced
  rw [continued_act idle frames same, styled, deep, providing, advanced, demanded,
    resumed_leave_failed _ _ same]
  exact Option.map_id'.symm

theorem tells_nested_returned {inner : RoutineReference} {token? : Option Token} {value : Value}
    {after : Session} {next : StyleSet} {rest : Account}
    (demanded : interpreter.advance depth tokens body reply styles session
      = (.nested inner token?, next, after))
    (nested : interpreter.TellsNested depth tokens (.of inner token?) next after account)
    (returned : account.ending = .returned value)
    (tells : interpreter.Tells depth tokens body (.ok value) account.styles account.session rest) :
    interpreter.Tells depth tokens body reply styles session (rest.after account.texts) := by
  intro renderer frame outer idle frames same styled deep providing advanced
  rw [continued_act idle frames same, styled, deep, providing, advanced, demanded, leave_after,
    resumed_after]
  refine (nested ((renderer.withFrames (frame :: outer)).withStyles next)
    (Frame.isIdle_of inner token?) same rfl deep providing).trans ?_
  unfold resumed
  rw [returned]
  exact congrArg (Option.map _) (tells _ frame outer idle rfl same rfl deep providing advanced)

theorem tells_nested_failed {inner : RoutineReference} {token? : Option Token}
    {after : Session} {next : StyleSet}
    (demanded : interpreter.advance depth tokens body reply styles session
      = (.nested inner token?, next, after))
    (nested : interpreter.TellsNested depth tokens (.of inner token?) next after account)
    (failed : ∀ value, account.ending ≠ .returned value) :
    interpreter.Tells depth tokens body reply styles session account := by
  intro renderer frame outer idle frames same styled deep providing advanced
  rw [continued_act idle frames same, styled, deep, providing, advanced, demanded]
  refine (nested ((renderer.withFrames (frame :: outer)).withStyles next)
    (Frame.isIdle_of inner token?) same rfl deep providing).trans ?_
  rcases account with ⟨texts, ending, styles, session⟩
  cases ending with
  | returned value => exact (failed value rfl).elim
  | failed failure => exact (resumed_leave_failed _ _ same texts failure styles session).symm
  | stranded failure => rfl

theorem tellsNested_of_room (room : depth < interpreter.settings.maxDepth)
    (tells : interpreter.Tells (depth + 1) (frame.token?.toList ++ tokens) frame.routine (.ok .null)
      styles (session.enterFrame interpreter.context frame) account) :
    interpreter.TellsNested depth tokens frame styles session
      (interpreter.leave depth frame account) := by
  intro renderer idle same styled deep providing
  have settings : renderer.settings = interpreter.settings := congrArg Interpreter.settings same
  have context : renderer.context = interpreter.context := congrArg Interpreter.context same
  rw [push_of_room _ frame session (by rw [settings, deep]; exact room), context]
  subst deep
  refine tells _ frame renderer.frames idle ?_ same styled rfl ?_ rfl
  · rw [idle.receiving_null]
    rfl
  · rw [tokensOf_cons, providing]

theorem tellsNested_of_full (full : ¬ depth < interpreter.settings.maxDepth) :
    interpreter.TellsNested depth tokens frame styles session
      (interpreter.reject frame styles session) := by
  intro renderer idle same styled deep providing
  have settings : renderer.settings = interpreter.settings := congrArg Interpreter.settings same
  have full : interpreter.settings.maxDepth ≤ renderer.frames.length := by
    rw [deep]
    exact Nat.not_lt.mp full
  unfold push reject
  rw [settings, if_pos full, ← styled]
  cases closed : session.closeFrame interpreter.library frame with
  | mk closing? after =>
      cases closing? with
      | none =>
          dsimp only
          rw [← renderer.labels_interpreter interpreter.library interpreter.answers, same]
          exact Option.map_id'.symm
      | some closing => exact Option.map_id'.symm

/-- Both accounts are told, by induction on how often the interpreter calls itself. -/
theorem tells_and_tellsNested (interpreter : Interpreter) :
    (∀ depth tokens body reply styles session account,
      interpreter.interpret depth tokens body reply styles session = some account →
        interpreter.Tells depth tokens body reply styles session account) ∧
    ∀ depth tokens frame styles session account,
      interpreter.interpretNested depth tokens frame styles session = some account →
        interpreter.TellsNested depth tokens frame styles session account := by
  refine interpret.mutual_partial_correctness interpreter interpreter.Tells interpreter.TellsNested
    ?bodies ?frames
  case bodies =>
    intro interpret interpretNested bodies frames depth tokens body reply styles session account
      equal
    cases demanded : interpreter.advance depth tokens body reply styles session with
    | mk demand rest =>
        rcases rest with ⟨next, after⟩
        rw [demanded] at equal
        cases demand with
        | write text =>
            rcases Option.bind_eq_some_iff.mp equal with ⟨rest, found, told⟩
            cases told
            exact tells_write demanded (bodies _ _ _ _ _ _ _ found)
        | goOn reply => exact tells_goOn demanded (bodies _ _ _ _ _ _ _ equal)
        | nested inner token? =>
            rcases Option.bind_eq_some_iff.mp equal with ⟨nested, found, told⟩
            have tells := frames _ _ _ _ _ _ found
            cases ending : nested.ending with
            | returned value =>
                rw [ending] at told
                rcases Option.bind_eq_some_iff.mp told with ⟨rest, found, told⟩
                cases told
                exact tells_nested_returned demanded tells ending (bodies _ _ _ _ _ _ _ found)
            | failed failure | stranded failure =>
                rw [ending] at told
                cases told
                exact tells_nested_failed demanded tells fun value returned =>
                  Ending.noConfusion (ending.symm.trans returned)
        | finish value =>
            cases equal
            exact tells_finish demanded
        | fail failure =>
            cases equal
            exact tells_fail demanded
  case frames =>
    intro interpret bodies depth tokens frame styles session account equal
    by_cases room : depth < interpreter.settings.maxDepth
    · rw [if_pos room] at equal
      rcases Option.bind_eq_some_iff.mp equal with ⟨inner, found, told⟩
      cases told
      exact tellsNested_of_room room (bodies _ _ _ _ _ _ _ found)
    · rw [if_neg room] at equal
      cases equal
      exact tellsNested_of_full room

end Interpreter

/-! ## The recursion ends with the render -/

namespace Renderer

open Relation

variable {library : Library} {answers : LoopAnswers} {renderer : Renderer} {frame : Frame}
  {outer : List Frame} {reply : Reply} {session : Session}

theorem leadsTo_act (idle : frame.IsIdle) (frames : renderer.frames = frame.receiving reply :: outer)
    {demanded : Demanded}
    (equal : (renderer.interpreter library answers).advance (outer.length + 1)
      (tokensOf (frame :: outer)) frame.routine reply renderer.styles session = demanded)
    (goesOn : ((renderer.withFrames (frame :: outer)).act library demanded).1.GoesOn) :
    LeadsTo library answers ((renderer.withFrames (frame :: outer)).act library demanded).2
      (renderer, session) := by
  subst equal
  unfold LeadsTo
  rw [answering_turn library answers idle reply frames]
  exact ⟨goesOn, rfl⟩

theorem leadsTo_goOn (idle : frame.IsIdle) (frames : renderer.frames = frame.receiving reply :: outer)
    {next : Reply} {styles : StyleSet} {after : Session}
    (equal : (renderer.interpreter library answers).advance (outer.length + 1)
      (tokensOf (frame :: outer)) frame.routine reply renderer.styles session
        = (.goOn next, styles, after)) :
    LeadsTo library answers
      ((renderer.withStyles styles).withFrames (frame.receiving next :: outer), after)
      (renderer, session) := by
  have received := receive_of_frames
    (show ((renderer.withFrames (frame :: outer)).withStyles styles).frames = frame :: outer from rfl)
    next
  have leads := leadsTo_act idle frames equal
  unfold act at leads
  dsimp only at leads
  rw [received] at leads
  exact leads trivial

theorem leadsTo_push (idle : frame.IsIdle) (frames : renderer.frames = frame.receiving reply :: outer)
    {inner : RoutineReference} {token? : Option Token} {styles : StyleSet} {after : Session}
    (equal : (renderer.interpreter library answers).advance (outer.length + 1)
      (tokensOf (frame :: outer)) frame.routine reply renderer.styles session
        = (.nested inner token?, styles, after))
    (room : outer.length + 1 < renderer.settings.maxDepth) :
    LeadsTo library answers
      ((renderer.withFrames (.of inner token? :: frame :: outer)).withStyles styles,
        after.enterFrame renderer.context (.of inner token?)) (renderer, session) := by
  have pushed : ((renderer.withFrames (frame :: outer)).withStyles styles).push library
      (.of inner token?) after = _ := push_of_room library _ after room
  have leads := leadsTo_act idle frames equal
  unfold act at leads
  dsimp only at leads
  rw [pushed] at leads
  exact leads trivial

theorem goesOn_ofText (text : String) : (Turn.ofText text).GoesOn := by
  unfold Turn.ofText
  split <;> trivial

/-- What the interpreter makes of the innermost body. Where the body returns, the renderer comes to
the frame around it. -/
structure Accounts (library : Library) (answers : LoopAnswers) (frame : Frame) (outer : List Frame)
    (reply : Reply) (renderer : Renderer) (session : Session) (account : Account) : Prop where
  interpreted : (renderer.interpreter library answers).interpret (outer.length + 1)
    (tokensOf (frame :: outer)) frame.routine reply renderer.styles session = some account
  reaches : ∀ value, account.ending = .returned value → outer ≠ [] →
    TransGen (LeadsTo library answers)
      (((renderer.withFrames (frame :: outer)).withStyles account.styles).finish value
        account.session).2 (renderer, session)

section Demands

variable {styles : StyleSet} {after : Session} {account rest : Account}

theorem accounts_write {text : String} (idle : frame.IsIdle)
    (frames : renderer.frames = frame.receiving reply :: outer)
    (demanded : (renderer.interpreter library answers).advance (outer.length + 1)
      (tokensOf (frame :: outer)) frame.routine reply renderer.styles session
        = (.write text, styles, after))
    (later : Accounts library answers frame outer (.ok .null)
      ((renderer.withFrames (frame :: outer)).withStyles styles) after rest) :
    Accounts library answers frame outer reply renderer session (rest.after (piecesOf text)) where
  interpreted := by
    rw [Interpreter.interpret.eq_1, demanded]
    exact Option.bind_eq_some_iff.mpr ⟨rest, later.interpreted, rfl⟩
  reaches value returned nonempty :=
    (later.reaches value returned nonempty).tail
      (leadsTo_act idle frames demanded (goesOn_ofText text))

theorem accounts_goOn {next : Reply} (idle : frame.IsIdle)
    (frames : renderer.frames = frame.receiving reply :: outer)
    (demanded : (renderer.interpreter library answers).advance (outer.length + 1)
      (tokensOf (frame :: outer)) frame.routine reply renderer.styles session
        = (.goOn next, styles, after))
    (later : Accounts library answers frame outer next
      ((renderer.withStyles styles).withFrames (frame.receiving next :: outer)) after account) :
    Accounts library answers frame outer reply renderer session account where
  interpreted := by
    rw [Interpreter.interpret.eq_1, demanded]
    exact later.interpreted
  reaches value returned nonempty :=
    (later.reaches value returned nonempty).tail (leadsTo_goOn idle frames demanded)

theorem accounts_finish {value : Value} (idle : frame.IsIdle)
    (frames : renderer.frames = frame.receiving reply :: outer)
    (demanded : (renderer.interpreter library answers).advance (outer.length + 1)
      (tokensOf (frame :: outer)) frame.routine reply renderer.styles session
        = (.finish value, styles, after)) :
    Accounts library answers frame outer reply renderer session
      ⟨[], .returned value, styles, after⟩ where
  interpreted := by rw [Interpreter.interpret.eq_1, demanded]
  reaches given returned nonempty := by
    cases returned
    refine .single (leadsTo_act idle frames demanded ?_)
    cases outer with
    | nil => exact (nonempty rfl).elim
    | cons next outer => trivial

theorem accounts_fail {failure : Failure}
    (demanded : (renderer.interpreter library answers).advance (outer.length + 1)
      (tokensOf (frame :: outer)) frame.routine reply renderer.styles session
        = (.fail failure, styles, after)) :
    Accounts library answers frame outer reply renderer session
      ⟨[], .failed failure, styles, after⟩ where
  interpreted := by rw [Interpreter.interpret.eq_1, demanded]
  reaches _ returned := by cases returned

section Nested

variable {inner : RoutineReference} {token? : Option Token}
  (demanded : (renderer.interpreter library answers).advance (outer.length + 1)
    (tokensOf (frame :: outer)) frame.routine reply renderer.styles session
      = (.nested inner token?, styles, after))
  (within : Accounts library answers (.of inner token?) (frame :: outer) (.ok .null)
    ((renderer.withFrames (.of inner token? :: frame :: outer)).withStyles styles)
    (after.enterFrame renderer.context (.of inner token?)) account)
  (room : outer.length + 1 < renderer.settings.maxDepth)

include demanded in
theorem accounts_nested_failed
    (nested : (renderer.interpreter library answers).interpretNested (outer.length + 1)
      (tokensOf (frame :: outer)) (.of inner token?) styles after = some account)
    (failed : ∀ value, account.ending ≠ .returned value) :
    Accounts library answers frame outer reply renderer session account where
  interpreted := Interpreter.interpret_of_nested_failed demanded nested failed
  reaches value returned := (failed value returned).elim

include within room

theorem interpretNested_of_accounts :
    (renderer.interpreter library answers).interpretNested (outer.length + 1)
        (tokensOf (frame :: outer)) (.of inner token?) styles after
      = some ((renderer.interpreter library answers).leave (outer.length + 1) (.of inner token?)
          account) := by
  have found := within.interpreted
  rw [tokensOf_cons] at found
  exact Interpreter.interpretNested_of_room room found

include demanded

/-- Where the body inside returns, its frame is left. -/
theorem reaches_outer (idle : frame.IsIdle)
    (frames : renderer.frames = frame.receiving reply :: outer) {value : Value}
    (ending : account.ending = .returned value) :
    TransGen (LeadsTo library answers)
      ((renderer.withStyles account.styles).withFrames (frame.receiving (.ok value) :: outer),
        account.session.leaveFrame renderer.context (.of inner token?)) (renderer, session) :=
  (within.reaches value ending (List.cons_ne_nil frame outer)).tail
    (leadsTo_push idle frames demanded room)

theorem accounts_nested_returned (idle : frame.IsIdle)
    (frames : renderer.frames = frame.receiving reply :: outer) {value : Value}
    (ending : account.ending = .returned value)
    (later : Accounts library answers frame outer (.ok value)
      ((renderer.withStyles account.styles).withFrames (frame.receiving (.ok value) :: outer))
      (account.session.leaveFrame renderer.context (.of inner token?)) rest) :
    Accounts library answers frame outer reply renderer session (rest.after account.texts) where
  interpreted := by
    have nested := interpretNested_of_accounts within room
    rw [Interpreter.leave_of_returned ending] at nested
    have interpreted := Interpreter.interpret_of_nested_returned demanded nested ending
      later.interpreted
    exact interpreted
  reaches value returned nonempty :=
    (later.reaches value returned nonempty).trans
      (reaches_outer demanded within room idle frames ending)

end Nested

end Demands

/-- The interpreter comes to the end of the innermost body, if the render ends. -/
theorem exists_accounts (idle : frame.IsIdle)
    (frames : renderer.frames = frame.receiving reply :: outer)
    (ends : Acc (LeadsTo library answers) (renderer, session)) :
    ∃ account, Accounts library answers frame outer reply renderer session account := by
  have closure := ends.transGen
  clear ends
  generalize position : (renderer, session) = before at closure
  induction closure generalizing renderer frame outer reply session with
  | intro _ _ induction =>
      subst position
      cases demanded : (renderer.interpreter library answers).advance (outer.length + 1)
        (tokensOf (frame :: outer)) frame.routine reply renderer.styles session with
      | mk demand rest =>
          rcases rest with ⟨styles, after⟩
          cases demand with
          | write text =>
              have leads := leadsTo_act idle frames demanded (goesOn_ofText text)
              rcases induction _ (.single leads) idle (by rw [idle.receiving_null]; rfl) rfl
                with ⟨rest, later⟩
              exact ⟨_, accounts_write idle frames demanded later⟩
          | goOn next =>
              have leads := leadsTo_goOn idle frames demanded
              rcases induction _ (.single leads) idle rfl rfl with ⟨account, later⟩
              exact ⟨_, accounts_goOn idle frames demanded later⟩
          | nested inner token? =>
              by_cases room : outer.length + 1 < renderer.settings.maxDepth
              · have leads := leadsTo_push idle frames demanded room
                have opened := Frame.isIdle_of inner token?
                rcases induction _ (.single leads) opened (by rw [opened.receiving_null]; rfl) rfl
                  with ⟨account, within⟩
                cases ending : account.ending with
                | returned value =>
                    have reached := reaches_outer demanded within room idle frames ending
                    rcases induction _ reached idle rfl rfl with ⟨rest, later⟩
                    exact ⟨_, accounts_nested_returned demanded within room idle frames ending later⟩
                | failed failure | stranded failure =>
                    have nested := interpretNested_of_accounts within room
                    have failed : ∀ value, account.ending ≠ .returned value :=
                      fun value returned => Ending.noConfusion (ending.symm.trans returned)
                    exact ⟨_, accounts_nested_failed demanded nested
                      (Interpreter.ending_leave failed)⟩
              · exact ⟨_, accounts_nested_failed demanded (Interpreter.interpretNested_of_full room)
                  Interpreter.ending_reject⟩
          | finish value => exact ⟨_, accounts_finish idle frames demanded⟩
          | fail failure => exact ⟨_, accounts_fail demanded⟩

end Renderer

/-! ## From the root on -/

namespace Interpreter

open Renderer

variable {interpreter : Interpreter} {session : Session} {frame : Frame}

def renderer (interpreter : Interpreter) : Renderer :=
  .start interpreter.providers interpreter.settings interpreter.context

/-- With a frame for its root, a render gives what the interpreter concludes from its account. -/
theorem continued_push_of_account {account : Account} (idle : frame.IsIdle)
    (told : interpreter.interpretNested 0 [] frame [] session = some account) :
    continued interpreter.library interpreter.answers
        (interpreter.renderer.push interpreter.library frame session)
      = some (interpreter.conclude account) := by
  have tells := (tells_and_tellsNested interpreter).2 0 [] frame [] session account told
  rw [tells interpreter.renderer idle rfl rfl rfl rfl]
  rcases account with ⟨texts, ending, styles, after⟩
  cases ending with
  | returned value =>
      refine (congrArg (Option.map _)
        (continued_writing_of_empty _ _ rfl (Serializer.resultText _ value) after)).trans ?_
      unfold conclude
      dsimp only [renderer, Renderer.start, withStyles]
      cases Serializer.resultText interpreter.settings.autoescape value with
      | ok text => rfl
      | error fault => exact congrArg some (Transcript.after_texts _ after texts)
  | failed failure | stranded failure => exact congrArg some (Transcript.after_texts _ after texts)

/-- The render with a frame for its root ends if the interpretation does. -/
theorem exists_account_of_acc (idle : frame.IsIdle)
    (ends : 0 < interpreter.settings.maxDepth → Acc (LeadsTo interpreter.library interpreter.answers)
      (interpreter.renderer.withFrames [frame], session.enterFrame interpreter.context frame)) :
    ∃ account, interpreter.interpretNested 0 [] frame [] session = some account := by
  by_cases room : 0 < interpreter.settings.maxDepth
  · rcases exists_accounts idle (by rw [idle.receiving_null]; rfl) (ends room) with ⟨account, within⟩
    have found := within.interpreted
    rw [tokensOf_cons] at found
    exact ⟨_, interpretNested_of_room room found⟩
  · exact ⟨_, interpretNested_of_full room⟩

end Interpreter

namespace Run

open Renderer

variable (interpreter : Interpreter) (root : Value) (session : Session)

theorem transcript_start :
    (Run.start interpreter.renderer root).transcript interpreter.library interpreter.answers
        (.ok .null) session
      = match frameOf? root session with
        | some (frame, session) => continued interpreter.library interpreter.answers
            (interpreter.renderer.push interpreter.library frame session)
        | none => some ⟨[], some (.engine (.invalidComponent root root)), session⟩ := by
  rw [transcript_eq_transcribed]
  unfold resume begin start continued
  dsimp only
  cases frameOf? root session <;> rfl

/-- The frame of the root is the first one, and nothing is pending for it. -/
theorem areReady_root {frame : Frame} (idle : frame.IsIdle) :
    AreReady (interpreter.renderer.withFrames [frame]).frames :=
  .of_idle fun _ member => List.mem_singleton.mp member ▸ idle

theorem continued_push {frame : Frame} (idle : frame.IsIdle) :
    continued interpreter.library interpreter.answers
        (interpreter.renderer.push interpreter.library frame session)
      = (interpreter.interpretNested 0 [] frame [] session).map interpreter.conclude := by
  cases told : interpreter.interpretNested 0 [] frame [] session with
  | some account => exact Interpreter.continued_push_of_account idle told
  | none =>
      -- A render that has a transcript ends, and so the interpreter would have come to an account.
      refine Option.eq_none_iff_forall_ne_some.mpr fun transcript given => ?_
      have ends : 0 < interpreter.settings.maxDepth →
          Acc (LeadsTo interpreter.library interpreter.answers)
            (interpreter.renderer.withFrames [frame],
              session.enterFrame interpreter.context frame) := by
        intro room
        have pushed : interpreter.renderer.push interpreter.library frame session = _ :=
          push_of_room interpreter.library frame session room
        rw [pushed] at given
        exact acc_of_continued interpreter.library (areReady_root interpreter idle) given
      rcases Interpreter.exists_account_of_acc idle ends with ⟨account, found⟩
      rw [told] at found
      cases found

/-- The stack of frames does what the recursion does: with any event loop, a render gives the same
texts and ends with the same failure, if any, and in the same session. If the event loop brings no
body further from its end, both come to their end. -/
theorem transcript_eq_interpretRoot :
    (Run.start (.start interpreter.providers interpreter.settings interpreter.context) root).transcript
        interpreter.library interpreter.answers (.ok .null) session
      = interpreter.interpretRoot root session ∧
    (interpreter.answers.IsFaithful → (interpreter.interpretRoot root session).isSome) := by
  have started := transcript_start interpreter root session
  unfold Interpreter.interpretRoot
  cases framed : frameOf? root session with
  | none =>
      rw [framed] at started
      exact ⟨started, fun _ => rfl⟩
  | some found =>
      rcases found with ⟨frame, after⟩
      have idle := isIdle_frameOf framed
      rw [framed] at started
      constructor
      · refine started.trans ((continued_push interpreter after idle).trans ?_)
        exact Option.map_eq_bind
      · intro faithful
        obtain ⟨account, found⟩ := Interpreter.exists_account_of_acc idle fun _ =>
          acc_leadsTo interpreter.library faithful (areReady_root interpreter idle)
            (after.enterFrame interpreter.context frame)
        exact Option.isSome_iff_exists.mpr
          ⟨_, Option.bind_eq_some_iff.mpr ⟨account, found, rfl⟩⟩

/-- A paragraph is rendered to its end by both where whatever is waited for is cancelled. -/
theorem transcript_eq_interpretRoot_paragraph :
    cancelling.IsFaithful ∧
    ∃ transcript, (Run.start (.start [] Settings.standard 0) (.element 1 (.text "p") [] [])).transcript
        [] cancelling (.ok .null) .empty = some transcript ∧
      (Interpreter.mk [] cancelling [] Settings.standard 0).interpretRoot
        (.element 1 (.text "p") [] []) .empty = some transcript := by
  have agrees := transcript_eq_interpretRoot ⟨[], cancelling, [], Settings.standard, 0⟩
    (.element 1 (.text "p") [] []) .empty
  rcases Option.isSome_iff_exists.mp (agrees.2 isFaithful_cancelling) with ⟨transcript, found⟩
  exact ⟨isFaithful_cancelling, transcript, agrees.1.trans found, found⟩

end Run
end HtmlStream
