import HtmlStream.Route.Render

/-!
Receptions: everything that the consumer of a stream receives who takes all chunks. A stream that
never ends has none. What a run hands out on its own is the same thing before it is buffered and
encoded.
-/
namespace HtmlStream

/-- The chunks of a stream in order, the failure that ended it if one did, and the session after
it. -/
structure Reception where
  chunks : List Bytes
  failure? : Option Failure
  session : Session

namespace Reception

def after (reception : Reception) (chunks : List Bytes) : Reception :=
  { reception with chunks := chunks ++ reception.chunks }

end Reception

namespace ByteStream

/-- Take all chunks of a stream, each as soon as it is there. -/
def received (library : Library) (stream : ByteStream) (session : Session) : Option Reception :=
  match stream.nextWaiting library session with
  | (.chunk bytes, stream, session) => do
      -- The call stands in a tactic block so that the fixed point does not record its source position.
      let rest ← (by exact received library : ByteStream → Session → Option Reception) stream session
      return rest.after [bytes]
  | (.finished, _, session) | (.waiting _, _, session) => some ⟨[], none, session⟩
  | (.failed failure, _, session) => some ⟨[], some failure, session⟩
partial_fixpoint

end ByteStream

/-- A run that is driven with an answer hands out texts and then ends, with a failure or without
one. Where it has to wait, it goes on with what the event loop answers. -/
inductive Run.Hands (library : Library) (mode : RenderMode) :
    Reply → Run → Session → List String → Option Failure → Prop
  | text {reply : Reply} {run next : Run} {session after : Session} {text : String}
      {texts : List String} {failure? : Option Failure}
      (handed : run.nextText library mode reply session = (.chunk text, next, after))
      (later : Hands library mode (.ok .null) next after texts failure?) :
      Hands library mode reply run session (text :: texts) failure?
  | waits {reply : Reply} {run next : Run} {session after : Session} {wait : LoopWait}
      {texts : List String} {failure? : Option Failure}
      (handed : run.nextText library mode reply session = (.waiting wait, next, after))
      (later : Hands library mode (after.await library wait).1 next (after.await library wait).2
        texts failure?) :
      Hands library mode reply run session texts failure?
  | finishes {reply : Reply} {run next : Run} {session after : Session}
      (handed : run.nextText library mode reply session = (.finished, next, after)) :
      Hands library mode reply run session [] none
  | fails {reply : Reply} {run next : Run} {session after : Session} {failure : Failure}
      (handed : run.nextText library mode reply session = (.failed failure, next, after)) :
      Hands library mode reply run session [] (some failure)

namespace Route

/-- The render of the route that begins in a session hands out texts and then ends. -/
def Hands (library : Library) (route : Route) (mode : RenderMode) (session : Session)
    (texts : List String) (failure? : Option Failure) : Prop :=
  ∃ rendering entered,
    (ByteStream.ofRoute route mode).enter library session = (.ok rendering, entered) ∧
      rendering.run.Hands library mode (.ok .null) entered texts failure?

end Route
end HtmlStream
