import HtmlStream.Route.Stream

/-!
Rendering: whole pages, and streams whose chunks are recorded as they reach their consumer.
-/
namespace HtmlStream

/-- How many chunks a consumer takes who takes all of them. -/
def chunkLimit : Nat := 1 <<< 62

/-- How often a consumer waits who gives up at some time. -/
def settleLimit : Nat := 1 <<< 62

inductive Consumption where
  | finished
  | closed
  | failed (failure : Failure)

namespace ByteStream

/-- The next chunk, however long its consumer has to wait for it. -/
def nextWaiting (library : Library) (stream : ByteStream) (session : Session) : BytesDelivered :=
  session.obtain library (fun reply stream session => stream.next library reply session)
    (.ok .null) stream

/-- The next chunk, recorded when it reaches the consumer. -/
def take (library : Library) (stream : ByteStream) (session : Session) : BytesDelivered :=
  match stream.nextWaiting library session with
  | (.chunk bytes, stream, session) => (.chunk bytes, stream, session.record (.chunk bytes))
  | delivered => delivered

/-- Consume at most `count` chunks, and close the stream after the last of them without looking for
its end. -/
def consume (library : Library) : (count : Nat) → ByteStream → Session → Consumption × Session
  | 0, stream, session =>
      match stream.close library session with
      | (none, _, session) => (.closed, session)
      | (some failure, _, session) => (.failed failure, session)
  | count + 1, stream, session =>
      match stream.take library session with
      | (.chunk _, stream, session) => consume library count stream session
      | (.failed failure, _, session) => (.failed failure, session)
      | (.finished, _, session) | (.waiting _, _, session) => (.finished, session)

end ByteStream

/-! ## Whole pages -/

/-- A page under way: its stream, and the chunks that were read, last one first. -/
structure PageReader where
  stream : ByteStream
  read : List Bytes

namespace PageReader

def start (route : Route) (mode : RenderMode) : PageReader := ⟨.ofRoute route mode, []⟩

def text (page : PageReader) : String :=
  String.ofList (page.stream.route.settings.codec.decode page.read.reverse.flatten)

/-- Read the rest of a page, or until the event loop has to run. -/
def readOn (library : Library) (reply : Reply) (page : PageReader) (session : Session) :
    Delivery String × PageReader × Session :=
  match page.stream.next library reply session with
  | (.chunk bytes, stream, session) =>
      -- The call stands in a tactic block so that the fixed point does not record its source position.
      (by exact readOn library : Reply → PageReader → Session →
          Delivery String × PageReader × Session)
        (.ok .null) ⟨stream, bytes :: page.read⟩ session
  | (.finished, stream, session) => (.chunk page.text, { page with stream }, session)
  | (.failed failure, stream, session) => (.failed failure, { page with stream }, session)
  | (.waiting wait, stream, session) => (.waiting wait, { page with stream }, session)
partial_fixpoint

end PageReader

namespace Route

def pageOf : Delivery String → Except Failure String
  | .chunk text => .ok text
  | .failed failure => .error failure
  | .finished | .waiting _ => .ok ""

def render (library : Library) (mode : RenderMode) (route : Route) (session : Session) :
    Except Failure String × Session :=
  let (delivery, _, session) :=
    session.obtain library (PageReader.readOn library) (.ok .null) (PageReader.start route mode)
  (pageOf delivery, session)

end Route

/-! ## Several pages together -/

/-- One of several renders that the consumer runs together. -/
structure JointRender where
  page : PageReader
  result? : Option (Except Failure String)

namespace JointRender

/-- One step of the render with number `index`. The consumer is told when all have ended. -/
def step (library : Library) : Session.RenderStep (Array JointRender) :=
  fun index reply renders session =>
    match renders[index]? with
    | none => (renders, session)
    | some render =>
        let worker : Worker := .render index
        let (delivery, page, session) :=
          render.page.readOn library reply (session.switchTo worker)
        let session := session.withLoop fun loop => loop.setContext worker session.current
        match delivery with
        | .waiting wait =>
            (renders.setIfInBounds index { render with page }, session.beginWait worker wait)
        | delivery =>
            let renders := renders.setIfInBounds index ⟨page, some (Route.pageOf delivery)⟩
            if renders.all fun render => render.result?.isSome then
              (renders, session.schedule (.tell .consumer))
            else (renders, session)

end JointRender

/-- Begin the render with number `index`, in the context that is current now. -/
def Session.scheduleRender (session : Session) (index : Nat) : Session :=
  let worker : Worker := .render index
  session.withLoop fun loop =>
    (loop.setContext worker session.current).schedule (.resume worker (.ok .null))

namespace Route

/-- The texts of `count` renders that take turns on the event loop. The consumer waits for all of
them, and fails if its wait is cancelled. -/
def renderTogether (library : Library) (route : Route) (count : Nat) (session : Session) :
    Except Failure (List (Except Failure String)) × Session :=
  if count = 0 then (.ok [], session)
  else
    let renders := Array.replicate count ⟨PageReader.start route .async, none⟩
    let started := (List.range count).foldl Session.scheduleRender session
    let waiting := started.withLoop fun loop =>
      loop.beginWait .consumer (.renders count false)
    let (reply, renders, session) :=
      waiting.runUntilConsumer library (JointRender.step library) stepsPerWait renders
    (reply.map fun _ => renders.toList.filterMap JointRender.result?,
      { session with current := started.current })

end Route
end HtmlStream
