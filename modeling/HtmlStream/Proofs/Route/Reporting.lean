import HtmlStream.Proofs.Renderer.Reporting
import HtmlStream.Proofs.Route.Candor
import HtmlStream.Proofs.Route.Shadowing

/-!
What the reports of whole streams tell about the context stack. A stream goes from stage to stage up
to a last one, at which its render raises the error that its consumer receives. The main statement
is `received_reports`.
-/
namespace HtmlStream

open Renderer Run

/-! ## From stage to stage -/

/-- What the last turn of a render came to; one that goes on waiting is still at its wait. -/
def Stage.reached : Stage → Turned
  | .turned latest => latest
  | .waiting wait _ renderer session => (.wait wait, renderer, session)

/-- How a render goes on with a wait that is over or takes the event loop. -/
def Stage.ofWait (library : Library) (renderer : Renderer) (wait : Wait) :
    WaitProgress × Session → Stage
  | (.over reply, session) => .turned (renderer.afterWait library wait reply session)
  | (.pending pending, session) => .waiting wait pending renderer session

namespace ByteStream

/-- The stage after one, with what the buffer holds back by then; none where the stream ends. -/
def stageAfter? (library : Library) (stream : ByteStream) (buffer : TextBuffer) :
    Stage → Option (TextBuffer × Stage)
  | .turned (.proceed, renderer, session) =>
      some (buffer, .turned (renderer.turn library session))
  | .turned (.chunk text, renderer, session) =>
      match buffer.accept text with
      | (none, kept) => some (kept, .turned (.proceed, renderer, session))
      | (some released, kept) =>
          match stream.encode released with
          | .ok _ => some (kept, .turned (.proceed, renderer, session))
          | .error _ => none
  | .turned (.wait wait, renderer, session) =>
      match stream.mode with
      | .sync => none
      | .async => some (buffer, .ofWait library renderer wait (session.beginRunWait library wait))
  | .turned (.finished, _, _) | .turned (.failed _, _, _) => none
  | .waiting wait pending renderer session =>
      let (reply, session) := session.await library pending
      some (buffer, .ofWait library renderer wait (session.continueRunWait library wait reply))

/-- A stream that goes on from a stage ends because its render raises an error while certain frames
are live: a turn fails with the error, or has to wait without an event loop. -/
inductive RaisesFrom (library : Library) (stream : ByteStream) (error : EngineError) :
    TextBuffer → Stage → List Frame → Prop
  | fails {buffer : TextBuffer} {renderer : Renderer} {session : Session} :
      RaisesFrom library stream error buffer (.turned (.failed (.engine error), renderer, session))
        renderer.frames
  | refuses {buffer : TextBuffer} {wait : Wait} {renderer : Renderer} {session : Session}
      (sync : stream.mode = .sync)
      (refusal : error = .runtime .waitInSyncRender (renderer.labels session)) :
      RaisesFrom library stream error buffer (.turned (.wait wait, renderer, session))
        renderer.frames
  | goesOn {buffer kept : TextBuffer} {stage next : Stage} {frames : List Frame}
      (goes : stream.stageAfter? library buffer stage = some (kept, next))
      (later : RaisesFrom library stream error kept next frames) :
      RaisesFrom library stream error buffer stage frames

/-- The frames that are live then are determined by where the stream goes on from. -/
theorem RaisesFrom.unique {library : Library} {stream : ByteStream} {error : EngineError}
    {buffer : TextBuffer} {stage : Stage} {frames others : List Frame}
    (raises : stream.RaisesFrom library error buffer stage frames)
    (alike : stream.RaisesFrom library error buffer stage others) : frames = others := by
  induction raises with
  | fails =>
      cases alike with
      | fails => rfl
      | goesOn goes => cases goes
  | refuses sync =>
      cases alike with
      | refuses => rfl
      | goesOn goes => simp [stageAfter?, sync] at goes
  | goesOn goes later induction =>
      cases alike with
      | fails => cases goes
      | refuses sync => simp [stageAfter?, sync] at goes
      | goesOn others rest =>
          cases goes.symm.trans others
          exact induction rest

end ByteStream

/-! ## One stage -/

/-- A render is sound, all bodies are candid, and a failure of the last turn is plain or reports the
tokens that the render resolves. -/
structure Stage.Tells (start : Renderer) (stage : Stage) : Prop where
  sound : IsSound start [] stage.reached
  tells : Renderer.Tells stage.reached

namespace Stage.Tells

variable {library : Library} {start renderer : Renderer} {session : Session} {wait : Wait}
  (candidLibrary : library.IsCandid)

include candidLibrary

theorem turn (told : Tells start (.turned (.proceed, renderer, session))) :
    Tells start (.turned (renderer.turn library session)) where
  sound := told.sound.turn library
  tells := tells_turn candidLibrary told.tells.candid told.tells.plain

omit candidLibrary in
theorem handsOut {text : String} (told : Tells start (.turned (.chunk text, renderer, session))) :
    Tells start (.turned (.proceed, renderer, session)) where
  sound := { told.sound with waiting := nofun, finished := nofun }
  tells := tells_of_goesOn told.tells.candid told.tells.plain trivial

/-- Whatever a wait comes to, the render stays sound. -/
theorem ofWait {stage : Stage} (told : Tells start stage)
    (waits : stage.reached = (.wait wait, renderer, session)) {progress : WaitProgress}
    {after : Session} (evolves : session.Evolves renderer.context after)
    (plain : progress.IsPlain) (candid : after.IsCandid) :
    Tells start (.ofWait library renderer wait (progress, after)) := by
  obtain ⟨sound, tells⟩ := told
  rw [waits] at sound tells
  obtain reply | another := progress
  · exact ⟨isSound_course library sound (.isAnswered .here evolves reply),
      tells_afterWait candidLibrary candid tells.plain wait plain⟩
  · have context : renderer.context = start.context :=
      congrArg (fun given => given.2.2) sound.given_eq
    rw [context] at evolves
    exact ⟨{ sound with stack := evolves.stack _ sound.stack },
      tells_of_unfailing candid tells.plain nofun⟩

/-- What one stage keeps. -/
theorem next {stream : ByteStream} {buffer kept : TextBuffer} {stage later : Stage}
    (told : Tells start stage) (goes : stream.stageAfter? library buffer stage = some (kept, later)) :
    Tells start later := by
  obtain ⟨turn, renderer, session⟩ | ⟨wait, pending, renderer, session⟩ := stage
  · cases turn with
    | proceed =>
        cases goes
        exact told.turn candidLibrary
    | chunk text =>
        dsimp only [ByteStream.stageAfter?] at goes
        split at goes
        · cases goes
          exact told.handsOut
        · split at goes <;> cases goes
          exact told.handsOut
    | wait wait =>
        obtain ⟨plain, candid⟩ :=
          Session.plainly_beginRunWait told.tells.candid candidLibrary wait
        have evolves := Session.evolves_beginRunWait library renderer.context session wait
        dsimp only [ByteStream.stageAfter?] at goes
        split at goes <;> cases goes
        exact told.ofWait candidLibrary rfl evolves plain candid
    | finished | failed => cases goes
  · have candid : session.IsCandid := told.tells.candid
    obtain ⟨answer, awaited⟩ := Session.candidly_await candid candidLibrary pending
    obtain ⟨plain, after⟩ := Session.plainly_continueRunWait awaited candidLibrary wait answer
    have evolves := (Session.evolves_await library renderer.context session pending).trans
      (Session.evolves_continueRunWait library _ _ wait (session.await library pending).1)
    cases goes
    exact told.ofWait candidLibrary rfl evolves plain after

/-- The induction is on the stages up to the one at which the error is raised. -/
theorem reports {stream : ByteStream} {error : EngineError} {buffer : TextBuffer} {stage : Stage}
    {frames : List Frame} (told : Tells start stage)
    (raises : stream.RaisesFrom library error buffer stage frames) (report : error.IsReport) :
    error.IsBlank ∨ error.Reports (labelsOf frames) := by
  induction raises with
  | @fails _ renderer session =>
      have labels : renderer.labels session = labelsOf renderer.frames := told.sound.labels_eq
      cases told.tells.told _ rfl with
      | plain plain => exact .inl (plain report)
      | reports reports => exact .inr (labels ▸ reports)
  | refuses sync refusal =>
      subst refusal
      exact .inr told.sound.labels_eq
  | goesOn goes later induction => exact induction (told.next candidLibrary goes)

end Stage.Tells

/-! ## Where a stream ends -/

section Ends

variable {library : Library} (candidLibrary : library.IsCandid)

include candidLibrary

/-- Closing frames comes to a plain failure, or leaves an error as it is. -/
theorem Session.IsCandid.isBlank_or_eq_of_closeFrames {session : Session} (candid : session.IsCandid)
    {context : Nat} {frames : List Frame} {failure : Failure} {error : EngineError}
    (raised : (session.closeFrames library context frames).1.getD failure = .engine error)
    (report : error.IsReport) : error.IsBlank ∨ failure = .engine error := by
  have closing := (candid.closeFrames candidLibrary context frames).1
  cases closed : (session.closeFrames library context frames).1 with
  | none => exact .inr (by simpa [closed] using raised)
  | some other =>
      rw [closed] at raised
      cases raised
      exact .inl (closing _ closed report)

namespace ByteStream

variable {stream : ByteStream} {context : Nat} {outer : Option Nat} {error : EngineError}
  {session last : Session}

omit candidLibrary

/-- A failure that leaves a stream is the engine's only if it was before. -/
theorem eq_of_leaving {mode : RenderMode} {failure : Failure}
    (left : leaving mode failure = .engine error) : failure = .engine error := by
  cases mode with
  | sync => exact left
  | async =>
      unfold leaving leavingAsync at left
      dsimp only at left
      split at left
      · cases left
      · exact left

theorem ne_engine_of_encode {text : String} {failure : Failure}
    (encoded : stream.encode text = .error failure) : failure ≠ .engine error := by
  unfold encode at encoded
  cases coded : stream.route.settings.codec.encode text.toList <;> rw [coded] at encoded <;>
    cases encoded
  nofun

theorem remains_ne_engine (mode : RenderMode) (buffer : TextBuffer) :
    (stream.remains buffer).2.map (leaving mode) ≠ some (.engine error) := by
  unfold remains
  intro failed
  split at failed
  · cases failed
  · split at failed
    · cases failed
    · next encoded =>
        exact ne_engine_of_encode encoded (eq_of_leaving (Option.some.inj failed))

include candidLibrary

/-- Where a text cannot be encoded, the failure may be one of closing what is live. -/
theorem isBlank_of_failRendering (candid : session.IsCandid) {rendering : Rendering} {text : String}
    {failure : Failure} {closed : ByteStream} (encoded : stream.encode text = .error failure)
    (failed : stream.failRendering library rendering failure session
      = (.failed (.engine error), closed, last)) (report : error.IsReport) : error.IsBlank := by
  have refused : failure ≠ .engine error := ne_engine_of_encode encoded
  unfold failRendering at failed
  split at failed
  · injections failed
    exact absurd (eq_of_leaving ‹_›) refused
  · injections failed
    have raised := eq_of_leaving ‹_›
    have closing : (session.closeFrames library rendering.run.renderer.context
        rendering.run.renderer.frames).1.getD failure = .engine error := by
      cases closes : (session.closeFrames library rendering.run.renderer.context
          rendering.run.renderer.frames).1 with
      | none => exact absurd (by simpa [closes] using raised) refused
      | some other =>
          rw [closes] at raised
          exact @eq_of_leaving error .async other raised
    exact (candid.isBlank_or_eq_of_closeFrames candidLibrary closing report).resolve_right refused

/-- An error that a stream ends with is blank or raised at its last stage. The induction is on the
stages. -/
theorem raisesFrom_of_renders {start : Renderer} {buffer : TextBuffer} {stage : Stage}
    {chunks : List Bytes} {failure? : Option Failure}
    (renders : stream.RendersFrom library context outer buffer stage chunks failure? last)
    (told : stage.Tells start) (failed : failure? = some (.engine error)) (report : error.IsReport) :
    error.IsBlank ∨ ∃ frames, stream.RaisesFrom library error buffer stage frames := by
  have goesOn : ∀ {buffer kept : TextBuffer} {stage next : Stage},
      stage.Tells start → stream.stageAfter? library buffer stage = some (kept, next) →
      (next.Tells start → error.IsBlank ∨ ∃ frames, stream.RaisesFrom library error kept next frames) →
      error.IsBlank ∨ ∃ frames, stream.RaisesFrom library error buffer stage frames :=
    fun told goes later => (later (told.next candidLibrary goes)).imp_right
      fun ⟨frames, raises⟩ => ⟨frames, .goesOn goes raises⟩
  induction renders with
  | turn later induction => exact goesOn told rfl (induction · failed)
  | held accepted later induction =>
      exact goesOn told (by simp [stageAfter?, accepted]) (induction · failed)
  | released accepted encoded later induction =>
      exact goesOn told (by simp [stageAfter?, accepted, encoded]) (induction · failed)
  | unencodable accepted encoded failing =>
      cases failed
      exact .inl (isBlank_of_failRendering candidLibrary told.tells.candid encoded failing report)
  | @refused _ renderer between after wait refusal run sync refuses =>
      cases failed
      have refused := Delivery.failed.inj (congrArg Prod.fst refuses)
      exact (told.tells.candid.isBlank_or_eq_of_closeFrames candidLibrary refused report).imp_right
        fun refusal => ⟨_, .refuses sync (Failure.engine.inj refusal).symm⟩
  | answered async begins later induction =>
      exact goesOn told (by simp [stageAfter?, async, begins, Stage.ofWait]) (induction · failed)
  | waits async begins later induction =>
      exact goesOn told (by simp [stageAfter?, async, begins, Stage.ofWait]) (induction · failed)
  | goesOn async continues later induction =>
      exact goesOn told (by simp [stageAfter?, continues, Stage.ofWait]) (induction · failed)
  | waitsAgain async continues later induction =>
      exact goesOn told (by simp [stageAfter?, continues, Stage.ofWait]) (induction · failed)
  | finishes buffer renderer session => exact absurd failed (remains_ne_engine _ buffer)
  | fails aborts =>
      cases aborts
      have raised := eq_of_leaving (Option.some.inj failed)
      refine (told.tells.candid.isBlank_or_eq_of_closeFrames candidLibrary raised report).imp_right ?_
      rintro rfl
      exact ⟨_, .fails⟩

end ByteStream

end Ends

/-! ## Whole streams -/

namespace ByteStream

/-- A stream that begins in a session raises an error while certain frames are live. -/
def RaisesWith (library : Library) (stream : ByteStream) (session : Session) (error : EngineError)
    (frames : List Frame) : Prop :=
  ∃ renderer root buffer context outer entered,
    stream.enter library session
        = (.ok ⟨.start renderer root, buffer, context, outer⟩, entered) ∧
      stream.RaisesFrom library error buffer (.turned (renderer.opening library root entered)) frames

theorem candid_enter {library : Library} (candidLibrary : library.IsCandid) (stream : ByteStream)
    {session : Session} (candid : session.IsCandid) :
    (∀ failure, (stream.enter library session).1 = .error failure → failure.IsPlain) ∧
      (stream.enter library session).2.IsCandid := by
  have noted : ((session.enterContext (some stream.route.name) stream.route.settings.maxDepth
      none).2.diagnose .route ("Rendering route " ++ stream.route.name ++ modeRemark stream.mode)
      ).IsCandid := candid.of_eq rfl rfl
  obtain ⟨plain, rooted⟩ := Session.candidly_root noted candidLibrary stream.route
  unfold enter
  dsimp only
  generalize stream.route.root library _ = given at plain rooted
  rcases given with ⟨reply, after⟩
  cases reply with
  | ok root => exact ⟨nofun, rooted⟩
  | error failure =>
      refine ⟨?_, rooted⟩
      rintro _ ⟨⟩
      exact plain

/-- If bodies raise no reports of their own, then every report that the consumer of a stream receives
was raised while certain frames were live, and has the labels of exactly the tokens that these
provide, outermost first, followed by that of a token that is not provided; unless it is one about
a child of an element or about a value that a coroutine waits for, which has no labels at all. -/
theorem received_reports {library : Library} (candidLibrary : library.IsCandid) {route : Route}
    {mode : RenderMode} {session last : Session} (candid : session.IsCandid) {chunks : List Bytes}
    {error : EngineError}
    (received : (ofRoute route mode).received library session
      = some ⟨chunks, some (.engine error), last⟩) (report : error.IsReport) :
    error.IsBlank ∨ ∃ frames, (ofRoute route mode).RaisesWith library session error frames ∧
      error.Reports (labelsOf frames) := by
  obtain ⟨others, failure?, ended, renders⟩ := exists_renders library (ofRoute route mode) session
  cases received.symm.trans (renders.received library)
  obtain ⟨plain, candidEntered⟩ := candid_enter candidLibrary (ofRoute route mode) candid
  generalize failed : some (Failure.engine error) = failure? at renders
  cases renders with
  | refuses refused =>
      rw [refused] at plain
      have raised := plain _ rfl
      rw [eq_of_leaving (Option.some.inj failed).symm] at raised
      exact .inl (raised report)
  | @enters renderer root buffer context outer entered _ _ _ empty began later =>
      obtain ⟨_, _, same, _, within, stacked⟩ := exists_start_of_enter library began
      cases same
      rw [began] at candidEntered
      have idle : renderer.IsPlain := by simp [Renderer.IsPlain, empty]
      have told : Stage.Tells renderer (.turned (renderer.opening library root entered)) :=
        ⟨isSound_opening library root empty (within ▸ stacked),
          tells_opening candidLibrary candidEntered idle root⟩
      cases raisesFrom_of_renders candidLibrary later told failed.symm report with
      | inl blank => exact .inl blank
      | inr raises =>
          obtain ⟨frames, raises⟩ := raises
          exact (told.reports candidLibrary raises report).imp_right fun reports =>
            ⟨frames, ⟨renderer, root, buffer, context, outer, entered, began, raises⟩, reports⟩

end ByteStream

/-- If its frames can be closed, a run that is aborted fails with what it is aborted for. -/
theorem Run.exists_abort {library : Library} {renderer : Renderer} {session : Session}
    (closes : (session.closeFrames library renderer.context renderer.frames).1 = none)
    (failure : Failure) :
    ∃ run after, abort library failure renderer session = (.failed failure, run, after) := by
  unfold abort Run.closeFrames
  rcases closing : session.closeFrames library renderer.context renderer.frames with
    ⟨failure?, frames, closed⟩
  rw [closing] at closes
  cases closes
  exact ⟨_, _, rfl⟩

/-! ## A page with a provider that fails -/

namespace Sample

/-- A page that asks for a theme, and its provider. -/
def failingLibrary (provides : Routine) : Library :=
  [⟨pageReference, ⟨[], [], [], none⟩, fun _ => .suspend (.effect (.token theme)) .finish⟩,
    ⟨provider, ⟨[], [], [], none⟩, fun _ => provides⟩]

def failingSession : Session :=
  { Session.empty with registry := [(theme, ⟨.sync, .component provider⟩)] }

/-- A provider that asks for a token without a provider. -/
def askingLibrary : Library :=
  failingLibrary (.suspend (.effect (.token ⟨1, some "font"⟩)) .finish)

/-- A provider that shows an element with a child that cannot be shown. -/
def showingLibrary : Library :=
  failingLibrary (.suspend (.effect (.element 0 .fragment [] [.object 1 "thing"])) .finish)

theorem isCandid_failingLibrary {provides : Routine} (candid : provides.IsCandid) :
    (failingLibrary provides).IsCandid := by
  intro component member bindings
  simp only [failingLibrary, List.mem_cons, List.not_mem_nil, or_false] at member
  rcases member with rfl | rfl
  · exact fun _ plain => plain
  · exact candid

theorem isCandid_failingSession : failingSession.IsCandid := by
  constructor
  · intro index object found
    simp [failingSession, Session.empty, Session.routine?] at found
  · intro worker reply member
    cases member

/-- What comes of the child. -/
def childError : EngineError := .runtime (.unsupportedChild (.object 1 "thing")) []

/-- The element is shown in the third turn after the root was put on the stack, while the theme is
being provided. -/
theorem turnsOf_showingLibrary :
    ∃ renderer session, turnsOf showingLibrary (.routine ⟨.generator, 0, "Page"⟩) failingSession 3
        = (.failed (.engine childError), renderer, session) ∧
      labelsOf renderer.frames = ["theme"] ∧
      (Session.closeFrames showingLibrary renderer.context renderer.frames session).1 = none := by
  refine ⟨_, _, Prod.ext ?_ rfl, ?_, ?_⟩ <;> cbv

/-- The page ends there. -/
theorem ends_showingLibrary :
    ∃ frames last, labelsOf frames = ["theme"] ∧
      (ByteStream.ofRoute themedRoute .sync).RendersFrom showingLibrary 0 none (.empty 0)
        (.turned (turnsOf showingLibrary (.routine ⟨.generator, 0, "Page"⟩) failingSession 3)) []
        (some (.engine childError)) last ∧
      (ByteStream.ofRoute themedRoute .sync).RaisesFrom showingLibrary childError (.empty 0)
        (.turned (turnsOf showingLibrary (.routine ⟨.generator, 0, "Page"⟩) failingSession 3))
        frames := by
  obtain ⟨renderer, session, reached, labels, closes⟩ := turnsOf_showingLibrary
  obtain ⟨run, after, aborts⟩ := Run.exists_abort closes (.engine childError)
  rw [reached]
  exact ⟨renderer.frames, _, labels, .fails aborts, .fails⟩

end Sample

namespace ByteStream

/-- Every report that the consumer of a stream receives has the labels of exactly the tokens whose
providers were live when it was raised. -/
def ReportsLiveTokens (library : Library) (stream : ByteStream) (session : Session) : Prop :=
  ∀ chunks error last, stream.received library session = some ⟨chunks, some (.engine error), last⟩ →
    error.IsReport → ∃ frames, stream.RaisesWith library session error frames ∧
      error.Reports (labelsOf frames)

/-- The provider's own request is reported after the theme that it provides. -/
theorem received_reports_font :
    ∃ last frames, (ofRoute Sample.themedRoute .sync).received Sample.askingLibrary
        Sample.failingSession = some ⟨[], some (.engine
          (.missingContext (.token ⟨1, some "font"⟩) ["theme", "font"])), last⟩ ∧
      (ofRoute Sample.themedRoute .sync).RaisesWith Sample.askingLibrary Sample.failingSession
        (.missingContext (.token ⟨1, some "font"⟩) ["theme", "font"]) frames ∧
      labelsOf frames = ["theme"] := by
  have renders : (ofRoute Sample.themedRoute .sync).Renders Sample.askingLibrary
      Sample.failingSession [] (some (.engine
        (.missingContext (.token ⟨1, some "font"⟩) ["theme", "font"]))) _ :=
    .enters rfl rfl (.turn (.turn (.fails rfl)))
  have received := renders.received Sample.askingLibrary
  have candid : Sample.askingLibrary.IsCandid :=
    Sample.isCandid_failingLibrary fun _ plain => plain
  cases received_reports candid Sample.isCandid_failingSession received trivial with
  | inl blank => cases blank
  | inr reported =>
      obtain ⟨frames, raises, reports⟩ := reported
      refine ⟨_, frames, received, raises, ?_⟩
      have same : ["theme"] ++ ["font"] = labelsOf frames ++ ["font"] := reports
      exact (List.append_cancel_right same).symm

/-- The element is one of the provider's, but is reported without the theme. -/
theorem not_reportsLiveTokens_child :
    ¬ (ofRoute Sample.themedRoute .sync).ReportsLiveTokens Sample.showingLibrary
      Sample.failingSession := by
  intro claimed
  obtain ⟨frames, last, labels, fails, raised⟩ := Sample.ends_showingLibrary
  have began : (ofRoute Sample.themedRoute .sync).enter Sample.showingLibrary Sample.failingSession
      = (.ok ⟨.start (.start Sample.failingSession.registry Settings.standard 0)
          (.routine ⟨.generator, 0, "Page"⟩), .empty 0, 0, none⟩,
        ((ofRoute Sample.themedRoute .sync).enter Sample.showingLibrary Sample.failingSession).2) :=
    rfl
  have renders : (ofRoute Sample.themedRoute .sync).Renders Sample.showingLibrary
      Sample.failingSession [] (some (.engine Sample.childError)) last :=
    .enters rfl began (.turn (.turn (.turn fails)))
  obtain ⟨others, ⟨_, _, _, _, _, _, entered, raises⟩, reports⟩ :=
    claimed _ _ _ (renders.received Sample.showingLibrary) trivial
  cases began.symm.trans entered
  rw [raises.unique (.goesOn rfl (.goesOn rfl (.goesOn rfl raised))), labels] at reports
  cases reports

end ByteStream

end HtmlStream
