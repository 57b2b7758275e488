import HtmlStream.Renderer.Transcript

/-!
Interpretation: what a render amounts to, as a recursion over bodies. Where the renderer keeps a
stack of frames, the interpreter calls itself: a body that is nested in another one is interpreted
to its end, and the other one goes on with its result. All that is handed down is how deep bodies
are nested, which tokens are being provided and which styles are written already.
-/
namespace HtmlStream

/-- What stays the same throughout a render. -/
structure Interpreter where
  library : Library
  answers : LoopAnswers
  providers : Registry
  settings : Settings
  context : Nat

inductive Ending where
  | returned (value : Value)
  | failed (failure : Failure)
  /-- A failure, after which a body could not be closed. Those around it stay as they are. -/
  | stranded (failure : Failure)

/-- What the interpretation of a body came to: the texts in order, and what it leaves. -/
structure Account where
  texts : List String
  ending : Ending
  styles : StyleSet
  session : Session

namespace Account

def after (account : Account) (texts : List String) : Account :=
  { account with texts := texts ++ account.texts }

end Account

/-- What a body wants when it has been advanced. -/
inductive Demand where
  | write (text : String)
  /-- Nothing but to go on. -/
  | goOn (reply : Reply)
  /-- Another body first, which may provide a token. -/
  | nested (body : RoutineReference) (token? : Option Token)
  | finish (value : Value)
  | fail (failure : Failure)

namespace Demand

def skip : Demand := .goOn (.ok .null)

def ofText : Except Fault String → Demand
  | .ok text => .write text
  | .error fault => .fail (.fault fault)

/-- An async generator signals by a failure that it has ended. -/
def ofFailure : Failure → Demand
  | .raised .endOfAsyncIteration _ => .finish .null
  | failure => .fail failure

end Demand

/-- A demand, with the styles that are written then and the session. -/
abbrev Demanded := Demand × StyleSet × Session

namespace Interpreter

/-- The labels of the tokens that are being provided, outermost first. -/
def labels (interpreter : Interpreter) (session : Session) : List String :=
  match session.context? interpreter.context with
  | some context => context.contextStack
  | none => []

/-! ## Demands -/

/-- The body that a provider's factory makes for a token. -/
def provide (interpreter : Interpreter) (token : Token) (provider : Provider)
    (session : Session) : Demand × Session :=
  let session := session.noteRequest token provider
  match session.call interpreter.library (Session.resume interpreter.library) provider.source [] with
  | (.ok (.routine body), session) => (.nested body (some token), session)
  | (.ok other, session) => (.fail (.engine (.invalidComponent provider.source other)), session)
  | (.error failure, session) => (.fail failure, session)

/-- A token stands for a value, or for what a body returns that is made for it. While that body is
at work the token must not be asked for again. -/
def request (interpreter : Interpreter) (tokens : List Token) (token : Token) (session : Session) :
    Demand × Session :=
  match interpreter.providers.get? token with
  | none =>
      (.fail (.engine (.missingContext (.token token)
        (interpreter.labels session ++ [token.label]))), session)
  | some provider =>
      if provider.kind = .value then (.goOn (.ok provider.source), session)
      else if token ∈ tokens then
        (.fail (.engine (.contextCycle (.token token) (interpreter.labels session))), session)
      else interpreter.provide token provider session

def writeStyle (interpreter : Interpreter) (style : Style) (styles : StyleSet)
    (session : Session) : Demanded :=
  match Serializer.styleBlock styles style with
  | (some block, styles) => (.write block, styles, session.countStyle interpreter.context)
  | (none, styles) => (.skip, styles, session)

/-- A tag whose type is a text is written, one of any other type is skipped. -/
def tagDemand (type : Value) (text : Except Fault String) : Demand :=
  if type.isText then .ofText text else .skip

/-- An effect that stands for nothing. It is shown in the failure, unless it cannot be written. -/
def refuse (interpreter : Interpreter) (producer : RoutineReference) (effect : Value)
    (session : Session) : Demand :=
  if effect.isWritable then
    .fail (.engine (.runtime (.unsupportedEffect (Value.routine producer).describe effect)
      (interpreter.labels session)))
  else .fail (.fault .integerTooLong)

/-- What an effect asks for: text, tags and styles are written, nothing is skipped, elements and
bodies come first, tokens are resolved. -/
def demandOf (interpreter : Interpreter) (tokens : List Token) (producer : RoutineReference)
    (effect : Value) (styles : StyleSet) (session : Session) : Demanded :=
  match effect with
  | .null => (.skip, styles, session)
  | .text _ | .markup _ | .integer _ | .float _ | .notANumber _ =>
      (.ofText (Serializer.text interpreter.settings.autoescape effect), styles, session)
  | .style style => interpreter.writeStyle style styles session
  | .marker .opening type attributes _ =>
      let text := Serializer.openingTag interpreter.settings.autoescape ⟨type, attributes⟩
      (tagDemand type text, styles, session)
  | .marker .closing type attributes _ =>
      (tagDemand type (Serializer.closingTag ⟨type, attributes⟩), styles, session)
  | .token token =>
      let (demand, session) := interpreter.request tokens token session
      (demand, styles, session)
  | .element identity type attributes children =>
      let node : Element := ⟨identity, type, attributes, children⟩
      let (body, session) := session.addRoutine .generator "element" node.body
      (.nested body none, styles, session)
  | .routine body => (.nested body none, styles, session)
  | other => (interpreter.refuse producer other session, styles, session)

/-! ## Bodies -/

/-- What an async generator asks for next. The event loop advances it. -/
def demandOfAsync (interpreter : Interpreter) (tokens : List Token) (body : RoutineReference)
    (answer : Value) (styles : StyleSet) (session : Session) : Demanded :=
  match interpreter.answers (.step body answer) session with
  | (.ok effect, session) => interpreter.demandOf tokens body effect styles session
  | (.error failure, session) => (.ofFailure failure, styles, session)

/-- A body waits for the event loop. It goes on with nothing, for it reads itself what it waited
for, which fails if that is not over. It only receives its cancellation. -/
def await (interpreter : Interpreter) (pending : Pending) (session : Session) : Demand × Session :=
  match interpreter.answers (.settle pending) session with
  | (.ok _, session) =>
      if session.isOver pending then (.skip, session)
      else (.goOn (.error (.fault .waitNotOver)), session)
  | (.error (.raised .cancelled message), session) =>
      (.goOn (.error (.raised .cancelled message)), session)
  | (.error failure, session) => (.fail failure, session)

/-- What a body asks for that waits: a token, or the event loop. Only a coroutine can wait. -/
def demandOfWait (interpreter : Interpreter) (tokens : List Token) (body : RoutineReference)
    (pending : Pending) (session : Session) : Demand × Session :=
  match pending with
  | .value (.token token) => interpreter.request tokens token session
  | pending =>
      if body.kind = .coroutine then interpreter.await pending session
      else (.fail (.fault .coroutineInGenerator), session)

/-- What a body asks for that has come so far. -/
def demandAt (interpreter : Interpreter) (tokens : List Token) (body : RoutineReference)
    (styles : StyleSet) : Progress × Session → Demanded
  | (.produced effect, session) => interpreter.demandOf tokens body effect styles session
  | (.waiting pending, session) =>
      let (demand, session) := interpreter.demandOfWait tokens body pending session
      (demand, styles, session)
  | (.returned value, session) => (.finish value, styles, session)
  | (.raised failure, session) => (.ofFailure failure, styles, session)

/-- Advance a body that is nested in `depth - 1` others with a reply, up to what it asks for. -/
def advance (interpreter : Interpreter) (depth : Nat) (tokens : List Token)
    (body : RoutineReference) (reply : Reply) (styles : StyleSet) (session : Session) : Demanded :=
  let session := session.withLiveFrames depth
  if body.kind = .asyncGenerator then
    interpreter.demandOfAsync tokens body (reply.toOption.getD .null) styles session
  else
    interpreter.demandAt tokens body styles (session.resume interpreter.library body.index reply)

/-! ## The recursion -/

/-- Leave a body around which there are `depth` others. After a failure it is closed. -/
def leave (interpreter : Interpreter) (depth : Nat) (frame : Frame) (account : Account) : Account :=
  match account.ending with
  | .returned _ =>
      { account with session := account.session.leaveFrame interpreter.context frame }
  | .failed _ =>
      let session :=
        (account.session.leaveFrame interpreter.context frame).withLiveFrames depth
      match session.closeFrame interpreter.library frame with
      | (none, session) => { account with session }
      | (some closing, session) => { account with ending := .stranded closing, session }
  | .stranded _ => account

/-- A body that would be nested too deep is closed at once. -/
def reject (interpreter : Interpreter) (frame : Frame) (styles : StyleSet) (session : Session) :
    Account :=
  match session.closeFrame interpreter.library frame with
  | (none, session) =>
      let depth := interpreter.settings.maxDepth
      let failure := Failure.engine (.depthExceeded depth none (interpreter.labels session))
      ⟨[], .failed failure, styles, session⟩
  | (some closing, session) => ⟨[], .failed closing, styles, session⟩

-- The calls below stand in tactic blocks so that the fixed points do not record source positions.

mutual
/-- Interpret a body from a reply to its end, inside `depth - 1` others. -/
def interpret (interpreter : Interpreter) (depth : Nat) (tokens : List Token)
    (body : RoutineReference) (reply : Reply) (styles : StyleSet) (session : Session) :
    Option Account :=
  match interpreter.advance depth tokens body reply styles session with
  | (.write text, styles, session) => do
      let rest ← (by exact interpret interpreter depth tokens body :
        Reply → StyleSet → Session → Option Account) (.ok .null) styles session
      return rest.after (piecesOf text)
  | (.goOn reply, styles, session) =>
      (by exact interpret interpreter depth tokens body :
        Reply → StyleSet → Session → Option Account) reply styles session
  | (.nested inner token?, styles, session) => do
      let account ← (by exact interpretNested interpreter depth tokens :
        Frame → StyleSet → Session → Option Account) (.of inner token?) styles session
      match account.ending with
      | .returned value => do
          let rest ← (by exact interpret interpreter depth tokens body :
            Reply → StyleSet → Session → Option Account) (.ok value) account.styles account.session
          return rest.after account.texts
      | _ => return account
  | (.finish value, styles, session) => some ⟨[], .returned value, styles, session⟩
  | (.fail failure, styles, session) => some ⟨[], .failed failure, styles, session⟩
partial_fixpoint

/-- Interpret a body that comes first, inside `depth` others. -/
def interpretNested (interpreter : Interpreter) (depth : Nat) (tokens : List Token) (frame : Frame)
    (styles : StyleSet) (session : Session) : Option Account :=
  if depth < interpreter.settings.maxDepth then do
    let account ← (by exact interpret interpreter :
      Nat → List Token → RoutineReference → Reply → StyleSet → Session → Option Account)
        (depth + 1) (frame.token?.toList ++ tokens) frame.routine (.ok .null) styles
        (session.enterFrame interpreter.context frame)
    return interpreter.leave depth frame account
  else some (interpreter.reject frame styles session)
partial_fixpoint
end

/-- The transcript of a render whose root came to an account. -/
def conclude (interpreter : Interpreter) (account : Account) : Transcript :=
  match account.ending with
  | .returned value =>
      match Serializer.resultText interpreter.settings.autoescape value with
      | .ok text => ⟨account.texts ++ piecesOf text, none, account.session⟩
      | .error fault => ⟨account.texts, some (.fault fault), account.session⟩
  | .failed failure | .stranded failure => ⟨account.texts, some failure, account.session⟩

/-- Interpret a root, which has to be something that can be driven. -/
def interpretRoot (interpreter : Interpreter) (root : Value) (session : Session) :
    Option Transcript :=
  match Renderer.frameOf? root session with
  | some (frame, session) => do
      return interpreter.conclude (← interpreter.interpretNested 0 [] frame [] session)
  | none => some ⟨[], some (.engine (.invalidComponent root root)), session⟩

end Interpreter
end HtmlStream
