import HtmlStream.Renderer.Interpretation

/-!
One turn of a renderer is one demand of its innermost body. The renderer advances that body, waits
for the event loop where it has to, and acts on what the body asks for; the interpreter names the
same demand. The main statement is `answering_turn`.
-/
namespace HtmlStream

namespace Frame

def IsIdle (frame : Frame) : Prop :=
  frame.delivered = frame

/-- The frame with something pending that its body goes on with. -/
def receiving (frame : Frame) : Reply → Frame
  | .ok answer => { frame with answer }
  | .error failure => { frame with failure? := some failure }

theorem isIdle_of (routine : RoutineReference) (token? : Option Token) :
    (Frame.of routine token?).IsIdle := rfl

variable {frame : Frame}

theorem IsIdle.delivered_receiving (idle : frame.IsIdle) (reply : Reply) :
    (frame.receiving reply).delivered = frame := by
  cases reply <;> exact idle

theorem IsIdle.reply_receiving (idle : frame.IsIdle) (reply : Reply) :
    (frame.receiving reply).reply = reply := by
  have noFailure : frame.failure? = none := congrArg Frame.failure? idle.symm
  cases reply with
  | ok answer => simp [receiving, Frame.reply, noFailure]
  | error failure => rfl

theorem IsIdle.answer_receiving (idle : frame.IsIdle) (reply : Reply) :
    (frame.receiving reply).answer = reply.toOption.getD .null := by
  cases reply with
  | ok answer => rfl
  | error failure => exact congrArg Frame.answer idle.symm

theorem IsIdle.receiving_null (idle : frame.IsIdle) : frame.receiving (.ok .null) = frame := by
  have answer : frame.answer = .null := congrArg Frame.answer idle.symm
  simp only [receiving]
  rw [← answer]

@[simp] theorem routine_receiving (frame : Frame) (reply : Reply) :
    (frame.receiving reply).routine = frame.routine := by
  cases reply <;> rfl

end Frame

/-- The tokens that frames provide, innermost first. -/
def tokensOf (frames : List Frame) : List Token :=
  frames.filterMap Frame.token?

theorem tokensOf_cons (frame : Frame) (outer : List Frame) :
    tokensOf (frame :: outer) = frame.token?.toList ++ tokensOf outer := by
  unfold tokensOf
  cases found : frame.token? with
  | none => rw [List.filterMap_cons_none found, Option.toList_none, List.nil_append]
  | some token => rw [List.filterMap_cons_some found, Option.toList_some, List.singleton_append]

namespace Renderer

def interpreter (library : Library) (answers : LoopAnswers) (renderer : Renderer) :
    Interpreter where
  library
  answers
  providers := renderer.providers
  settings := renderer.settings
  context := renderer.context

def answering (library : Library) (answers : LoopAnswers) : Turned → Turned
  | (.wait wait, renderer, session) =>
      let (reply, session) := answers wait session
      renderer.afterWait library wait reply session
  | turned => turned

def withStyles (renderer : Renderer) (styles : StyleSet) : Renderer :=
  { renderer with styles }

def withFrames (renderer : Renderer) (frames : List Frame) : Renderer :=
  { renderer with frames }

def receive (renderer : Renderer) (reply : Reply) : Renderer :=
  match reply with
  | .ok value => renderer.answer value
  | .error failure => renderer.interrupt failure

def act (library : Library) (renderer : Renderer) : Demanded → Turned
  | (.write text, styles, session) => (.ofText text, renderer.withStyles styles, session)
  | (.goOn reply, styles, session) =>
      (.proceed, (renderer.withStyles styles).receive reply, session)
  | (.nested body token?, styles, session) =>
      (renderer.withStyles styles).push library (.of body token?) session
  | (.finish value, styles, session) => (renderer.withStyles styles).finish value session
  | (.fail failure, styles, session) => (.failed failure, renderer.withStyles styles, session)

variable (library : Library) (answers : LoopAnswers) {renderer : Renderer}

theorem labels_interpreter (session : Session) :
    (renderer.interpreter library answers).labels session = renderer.labels session := by
  unfold Interpreter.labels labels interpreter
  cases session.context? renderer.context <;> rfl

theorem isProviding_iff (token : Token) :
    renderer.isProviding token = true ↔ token ∈ tokensOf renderer.frames := by
  simp [isProviding, tokensOf]

theorem writing_eq_act (text : Except Fault String) (session : Session) :
    renderer.writing text session
      = renderer.act library (.ofText text, renderer.styles, session) := by
  cases text <;> rfl

def IsIdle (renderer : Renderer) : Prop :=
  ∀ frame ∈ renderer.frames.head?, frame.IsIdle

theorem receive_of_frames {frame : Frame} {outer : List Frame}
    (frames : renderer.frames = frame :: outer) (reply : Reply) :
    renderer.receive reply = renderer.withFrames (frame.receiving reply :: outer) := by
  cases reply <;> simp [receive, answer, interrupt, frames, withFrames, Frame.receiving]

theorem IsIdle.receive_null (idle : renderer.IsIdle) : renderer.receive (.ok .null) = renderer := by
  cases frames : renderer.frames with
  | nil => simp [receive, answer, frames]
  | cons frame outer =>
      have frameIdle : frame.IsIdle := idle frame (by simp [frames])
      rw [receive_of_frames frames, frameIdle.receiving_null, ← frames]
      rfl

theorem IsIdle.proceed_eq_act (idle : renderer.IsIdle) (session : Session) :
    (.proceed, renderer, session) = renderer.act library (.skip, renderer.styles, session) :=
  congrArg (fun after => (Turn.proceed, after, session)) idle.receive_null.symm

theorem runProvider_eq_act (token : Token) (provider : Provider) (session : Session) :
    renderer.runProvider library token provider session =
      let (demand, session) :=
        (renderer.interpreter library answers).provide token provider session
      renderer.act library (demand, renderer.styles, session) := by
  unfold runProvider Interpreter.provide
  dsimp only [interpreter]
  split
  · next failure after equal =>
      rw [equal]
      rfl
  · next result after equal =>
      rw [equal]
      cases result <;> rfl

theorem resolve_eq_act (token : Token) (session : Session) :
    renderer.resolve library token session =
      let (demand, session) := (renderer.interpreter library answers).request
        (tokensOf renderer.frames) token session
      renderer.act library (demand, renderer.styles, session) := by
  unfold resolve Interpreter.request
  rw [labels_interpreter]
  cases registered : renderer.providers.get? token with
  | none => simp only [interpreter, registered]; rfl
  | some provider =>
      have provided := renderer.runProvider_eq_act library answers token provider session
      have providing := renderer.isProviding_iff token
      simp only [interpreter, registered] at provided ⊢
      cases kind : provider.kind with
      | value => rfl
      | sync | async =>
          by_cases member : token ∈ tokensOf renderer.frames
          · simp only [providing.mpr member, member, if_true, reduceCtorEq, if_false]
            rfl
          · have absent : renderer.isProviding token = false :=
              Bool.eq_false_iff.mpr fun holds => member (providing.mp holds)
            simp only [absent, member, reduceCtorEq, if_false, Bool.false_eq_true]
            exact provided

theorem IsIdle.withStyles (idle : renderer.IsIdle) (styles : StyleSet) :
    (renderer.withStyles styles).IsIdle := idle

theorem IsIdle.writeStyle_eq_act (idle : renderer.IsIdle) (style : Style) (session : Session) :
    renderer.writeStyle style session = renderer.act library
      ((renderer.interpreter library answers).writeStyle style renderer.styles session) := by
  unfold writeStyle Interpreter.writeStyle
  cases recorded : Serializer.styleBlock renderer.styles style with
  | mk block? styles =>
      cases block? with
      | some block => rfl
      | none => exact (idle.withStyles styles).proceed_eq_act library session

theorem IsIdle.tag_eq_act (idle : renderer.IsIdle) (type : Value) (text : Except Fault String)
    (session : Session) :
    (if type.isText then renderer.writing text session else (.proceed, renderer, session))
      = renderer.act library (Interpreter.tagDemand type text, renderer.styles, session) := by
  unfold Interpreter.tagDemand
  split
  · exact writing_eq_act library text session
  · exact idle.proceed_eq_act library session

theorem unsupportedEffect_eq_act (producer : RoutineReference) (effect : Value)
    (session : Session) :
    (.failed (renderer.unsupportedEffect producer effect session), renderer, session)
      = renderer.act library ((renderer.interpreter library answers).refuse producer effect session,
          renderer.styles, session) := by
  unfold unsupportedEffect Interpreter.refuse
  rw [labels_interpreter]
  split <;> rfl

theorem IsIdle.handle_eq_act (idle : renderer.IsIdle) (producer : RoutineReference) (effect : Value)
    (session : Session) :
    renderer.handle library producer effect session =
      renderer.act library ((renderer.interpreter library answers).demandOf
        (tokensOf renderer.frames) producer effect renderer.styles session) := by
  unfold handle Interpreter.demandOf
  cases effect with
  | null => exact idle.proceed_eq_act library session
  | text | markup | integer | float | notANumber =>
      exact writing_eq_act library _ session
  | style style => exact idle.writeStyle_eq_act library answers style session
  | marker role type attributes children =>
      cases role with
      | opening | closing => exact idle.tag_eq_act library type _ session
      | unspecified => exact unsupportedEffect_eq_act library answers producer _ session
  | token token => exact resolve_eq_act library answers token session
  | element | routine => rfl
  | _ => exact unsupportedEffect_eq_act library answers producer _ session

theorem finishFailing_eq_act (failure : Failure) (session : Session) :
    renderer.finishFailing failure session
      = renderer.act library (.ofFailure failure, renderer.styles, session) := by
  cases failure with
  | raised kind message => cases kind <;> rfl
  | _ => rfl

/-! ## A turn -/

variable {frame : Frame} {outer : List Frame}

/-- A renderer without frames has come to its end. -/
theorem turn_of_empty (empty : renderer.frames = []) (session : Session) :
    renderer.turn library session = (.finished, renderer, session) := by
  unfold turn
  rw [empty]

theorem IsIdle.of_frames (idle : frame.IsIdle) :
    (renderer.withFrames (frame :: outer)).IsIdle := by
  intro innermost member
  cases member
  exact idle

theorem IsIdle.afterSettle_eq_act (idle : renderer.IsIdle) (pending : Pending)
    (session : Session) :
    let answered := answers (.settle pending) session
    let demanded := (renderer.interpreter library answers).await pending session
    renderer.afterWait library (.settle pending) answered.1 answered.2
      = renderer.act library (demanded.1, renderer.styles, demanded.2) := by
  unfold afterWait Interpreter.await
  dsimp only [interpreter]
  cases equal : answers (.settle pending) session with
  | mk reply session =>
      cases reply with
      | ok answer =>
          by_cases settled : session.isOver pending
          · simp only [settled, if_true]
            exact idle.proceed_eq_act library session
          · simp only [settled]
            rfl
      | error failure =>
          cases failure with
          | raised kind message => cases kind <;> rfl
          | _ => rfl

theorem IsIdle.afterStep_eq_act (idle : renderer.IsIdle) (generator : RoutineReference)
    (answer : Value) (session : Session) :
    let answered := answers (.step generator answer) session
    renderer.afterWait library (.step generator answer) answered.1 answered.2
      = renderer.act library ((renderer.interpreter library answers).demandOfAsync
          (tokensOf renderer.frames) generator answer renderer.styles session) := by
  unfold Interpreter.demandOfAsync
  dsimp only [interpreter]
  cases answers (.step generator answer) session with
  | mk reply session =>
      cases reply with
      | ok effect => exact idle.handle_eq_act library answers generator effect session
      | error failure => exact finishFailing_eq_act library failure session

theorem answering_writing (text : Except Fault String) (renderer : Renderer) (session : Session) :
    answering library answers (renderer.writing text session) = renderer.writing text session := by
  unfold writing
  split
  · unfold Turn.ofText
    split <;> rfl
  · rfl

theorem answering_finish (result : Value) (renderer : Renderer) (session : Session) :
    answering library answers (renderer.finish result session)
      = renderer.finish result session := by
  unfold finish
  split
  · rfl
  · unfold deliver
    split
    · rfl
    · exact answering_writing library answers _ _ _

theorem answering_push (frame : Frame) (renderer : Renderer) (session : Session) :
    answering library answers (renderer.push library frame session)
      = renderer.push library frame session := by
  unfold push
  split
  · split <;> rfl
  · rfl

/-- What a body asks for is granted without the event loop. -/
theorem answering_act (renderer : Renderer) (demanded : Demanded) :
    answering library answers (renderer.act library demanded)
      = renderer.act library demanded := by
  rcases demanded with ⟨demand, styles, session⟩
  cases demand with
  | write text => exact answering_writing library answers (.ok text) _ session
  | goOn reply => rfl
  | nested body token? => exact answering_push library answers _ _ session
  | finish value => exact answering_finish library answers value _ session
  | fail failure => rfl

theorem IsIdle.handleWait_eq_act (idle : renderer.IsIdle) (producer : RoutineReference)
    (pending : Pending) (session : Session) :
    answering library answers (renderer.handleWait library producer pending session) =
      let demanded := (renderer.interpreter library answers).demandOfWait
        (tokensOf renderer.frames) producer pending session
      renderer.act library (demanded.1, renderer.styles, demanded.2) := by
  have settled := idle.afterSettle_eq_act library answers pending session
  have waits : answering library answers
      (if producer.kind = .coroutine then (.wait (.settle pending), renderer, session)
        else (.failed (.fault .coroutineInGenerator), renderer, session)) =
      let demanded := if producer.kind = .coroutine
        then (renderer.interpreter library answers).await pending session
        else (.fail (.fault .coroutineInGenerator), session)
      renderer.act library (demanded.1, renderer.styles, demanded.2) := by
    split
    · exact settled
    · rfl
  cases pending with
  | value value =>
      cases value with
      | token token =>
          have resolved := renderer.resolve_eq_act library answers token session
          exact (congrArg _ resolved).trans (answering_act library answers _ _)
      | _ => exact waits
  | _ => exact waits

theorem IsIdle.react_eq_act (idle : renderer.IsIdle) (producer : RoutineReference)
    (progress : Progress) (session : Session) :
    answering library answers (renderer.react library producer progress session) =
      renderer.act library ((renderer.interpreter library answers).demandAt
        (tokensOf renderer.frames) producer renderer.styles (progress, session)) := by
  cases progress with
  | produced effect =>
      have handled := idle.handle_eq_act library answers producer effect session
      exact (congrArg _ handled).trans (answering_act library answers _ _)
  | waiting pending => exact idle.handleWait_eq_act library answers producer pending session
  | returned value => exact answering_finish library answers value _ session
  | raised failure =>
      have ended := renderer.finishFailing_eq_act library failure session
      exact (congrArg _ ended).trans (answering_act library answers _ _)

/-- The innermost frame is advanced with what is pending for it, and gets what it asks for. -/
theorem answering_turn (idle : frame.IsIdle) (reply : Reply)
    (frames : renderer.frames = frame.receiving reply :: outer) (session : Session) :
    answering library answers (renderer.turn library session) =
      (renderer.withFrames (frame :: outer)).act library
        ((renderer.interpreter library answers).advance (outer.length + 1)
          (tokensOf (frame :: outer)) frame.routine reply renderer.styles session) := by
  have ready : (renderer.withFrames (frame :: outer)).IsIdle := .of_frames idle
  unfold turn Interpreter.advance
  simp only [frames, idle.delivered_receiving, idle.reply_receiving, idle.answer_receiving,
    Frame.isAsyncGenerator, Frame.routine_receiving, List.length_cons, beq_iff_eq]
  by_cases async : frame.routine.kind = .asyncGenerator
  · simp only [async, if_true]
    exact ready.afterStep_eq_act library answers frame.routine _ _
  · simp only [async, if_false]
    exact ready.react_eq_act library answers frame.routine _ _

/-! ## Turns that are no waits -/

variable {library answers}

theorem writing_ne_wait (renderer : Renderer) (text : Except Fault String) (session : Session)
    (wait : Wait) : (renderer.writing text session).1 ≠ .wait wait := by
  cases text with
  | ok text =>
      unfold writing Turn.ofText
      dsimp only
      split <;> simp
  | error fault => simp [writing]

theorem push_ne_wait (renderer : Renderer) (frame : Frame) (session : Session) (wait : Wait) :
    (renderer.push library frame session).1 ≠ .wait wait := by
  unfold push
  split
  · split <;> simp
  · simp

theorem finish_ne_wait (renderer : Renderer) (value : Value) (session : Session) (wait : Wait) :
    (renderer.finish value session).1 ≠ .wait wait := by
  unfold finish
  split
  · simp
  · unfold deliver
    split
    · simp
    · exact writing_ne_wait _ _ _ wait

theorem act_ne_wait (renderer : Renderer) (demanded : Demanded) (wait : Wait) :
    (renderer.act library demanded).1 ≠ .wait wait := by
  rcases demanded with ⟨demand, styles, session⟩
  cases demand with
  | write text => exact (renderer.withStyles styles).writing_ne_wait (.ok text) session wait
  | goOn reply => simp [act]
  | nested body token? => exact push_ne_wait (renderer.withStyles styles) _ session wait
  | finish value => exact finish_ne_wait (renderer.withStyles styles) value session wait
  | fail failure => simp [act]

end Renderer
end HtmlStream
