import HtmlStream.Proofs.Renderer.Circularity
import HtmlStream.Proofs.Route.Reporting

/-!
What the message of a reported cycle says. It shows the labels of the tokens that are being provided, up
from the outermost one, and last the token that is requested again, which one of them is. A token with a
name is called the same both times, one without a name is not. The main statement is `received_cycle`.
-/
namespace HtmlStream

open Renderer

/-! ## Labels around a frame -/

theorem labelsOf_around {frame : Frame} {token : Token} (provides : frame.token? = some token)
    (inner outer : List Frame) :
    labelsOf (inner ++ frame :: outer) = labelsOf outer ++ token.label :: labelsOf inner := by
  simp [labelsOf, tokensOf, provides]

theorem labelsOf_congr {frames others : List Frame}
    (same : frames.map Frame.token? = others.map Frame.token?) : labelsOf frames = labelsOf others := by
  have tokens : ∀ frames : List Frame, tokensOf frames = (frames.map Frame.token?).filterMap id := by
    intro frames
    rw [List.filterMap_map]
    rfl
  rw [labelsOf, labelsOf, tokens, tokens, same]

/-- A token that is provided once is provided by one frame among others that do not provide it. -/
theorem exists_split_of_mem_tokensOf {frames : List Frame} {token : Token}
    (provided : token ∈ tokensOf frames) (distinct : (tokensOf frames).Nodup) :
    ∃ inner frame outer, frames = inner ++ frame :: outer ∧ frame.token? = some token ∧
      ∀ other ∈ inner ++ outer, Frame.token? other ≠ some token := by
  obtain ⟨frame, member, provides⟩ := List.mem_filterMap.mp provided
  obtain ⟨inner, outer, rfl⟩ := List.append_of_mem member
  refine ⟨inner, frame, outer, rfl, provides, fun other elsewhere again => ?_⟩
  have own : tokensOf (inner ++ frame :: outer) = tokensOf inner ++ token :: tokensOf outer := by
    simp [tokensOf, provides]
  have within : token ∈ tokensOf (inner ++ outer) := List.mem_filterMap.mpr ⟨other, elsewhere, again⟩
  have split : tokensOf (inner ++ outer) = tokensOf inner ++ tokensOf outer := by simp [tokensOf]
  rw [own] at distinct
  rw [split] at within
  exact (List.nodup_middle.mp distinct).notMem within

theorem Token.describe_eq_label_iff (token : Token) :
    (Value.token token).describe = token.label ↔ token.shownName?.isSome := by
  have described : (Value.token token).describe = token.shownName?.getD "Context" := rfl
  rw [described, Token.label]
  cases named : token.shownName? with
  | some name => simp
  | none => simp [Token.inspect, named]

/-! ## From stage to stage -/

namespace Stage.Tells

variable {library : Library} {start renderer : Renderer} {session : Session} {stage : Stage}
  (candidLibrary : library.IsCandid)

include candidLibrary

theorem recurs_next {stream : ByteStream} {buffer kept : TextBuffer} {later : Stage}
    (told : Tells start stage) (goes : stream.stageAfter? library buffer stage = some (kept, later)) :
    Recurs later.reached := by
  have ofWait : ∀ (wait : Wait) (renderer : Renderer) {progress : WaitProgress} {after : Session},
      progress.IsPlain → after.IsCandid →
      Recurs (Stage.ofWait library renderer wait (progress, after)).reached := by
    intro wait renderer progress after plain candid
    obtain reply | pending := progress
    · exact recurs_afterWait candidLibrary candid wait plain
    · exact recurs_of_wait wait
  obtain ⟨turn, renderer, session⟩ | ⟨wait, pending, renderer, session⟩ := stage
  · have candid : session.IsCandid := told.tells.candid
    cases turn with
    | proceed =>
        cases goes
        exact recurs_turn candidLibrary candid told.tells.plain
    | chunk text =>
        dsimp only [ByteStream.stageAfter?] at goes
        split at goes
        · cases goes
          exact recurs_of_goesOn trivial
        · split at goes <;> cases goes
          exact recurs_of_goesOn trivial
    | wait wait =>
        obtain ⟨plain, after⟩ := Session.plainly_beginRunWait candid candidLibrary wait
        dsimp only [ByteStream.stageAfter?] at goes
        split at goes <;> cases goes
        exact ofWait wait renderer plain after
    | finished | failed => cases goes
  · have candid : session.IsCandid := told.tells.candid
    obtain ⟨answer, awaited⟩ := Session.candidly_await candid candidLibrary pending
    obtain ⟨plain, after⟩ := Session.plainly_continueRunWait awaited candidLibrary wait answer
    cases goes
    exact ofWait wait renderer plain after

/-- The induction is on the stages up to the one at which the cycle is found. -/
theorem recurs_of_raises {stream : ByteStream} {buffer : TextBuffer} {context : Value}
    {labels : List String} {frames : List Frame} (told : Tells start stage)
    (recurs : Recurs stage.reached)
    (raises : stream.RaisesFrom library (.contextCycle context labels) buffer stage frames) :
    (∃ token ∈ tokensOf frames, context = .token token) ∧ (tokensOf frames).Nodup := by
  induction raises with
  | fails => exact ⟨recurs context labels rfl, told.sound.distinct⟩
  | refuses sync refusal => cases refusal
  | goesOn goes later induction =>
      exact induction (told.next candidLibrary goes) (told.recurs_next candidLibrary goes)

end Stage.Tells

/-! ## Whole streams -/

namespace EngineError

/-- The message of a cycle that is shown by labels. -/
def cycleText (labels : List String) : String :=
  "Circular context dependency: " ++ " → ".intercalate labels

end EngineError

namespace ByteStream

/-- A report that is not blank is raised by the render, which is sound from its opening on. -/
theorem exists_opening_of_received {library : Library} (candidLibrary : library.IsCandid)
    {route : Route} {mode : RenderMode} {session last : Session} (candid : session.IsCandid)
    {chunks : List Bytes} {error : EngineError}
    (received : (ofRoute route mode).received library session
      = some ⟨chunks, some (.engine error), last⟩)
    (report : error.IsReport) (shown : ¬ error.IsBlank) :
    ∃ renderer root buffer context outer entered frames,
      (ofRoute route mode).enter library session
          = (.ok ⟨.start renderer root, buffer, context, outer⟩, entered) ∧
        entered.IsCandid ∧ Stage.Tells renderer (.turned (renderer.opening library root entered)) ∧
        (ofRoute route mode).RaisesFrom library error buffer
          (.turned (renderer.opening library root entered)) frames := by
  obtain ⟨others, failure?, ended, renders⟩ := exists_renders library (ofRoute route mode) session
  cases received.symm.trans (renders.received library)
  obtain ⟨plain, candidEntered⟩ := candid_enter candidLibrary (ofRoute route mode) candid
  generalize failed : some (Failure.engine error) = failure? at renders
  cases renders with
  | refuses refused =>
      rw [refused] at plain
      have raised := plain _ rfl
      rw [eq_of_leaving (Option.some.inj failed).symm] at raised
      exact absurd (raised report) shown
  | @enters renderer root buffer context outer entered _ _ _ empty began later =>
      obtain ⟨_, _, same, _, within, stacked⟩ := exists_start_of_enter library began
      cases same
      rw [began] at candidEntered
      have idle : renderer.IsPlain := by simp [Renderer.IsPlain, empty]
      have told : Stage.Tells renderer (.turned (renderer.opening library root entered)) :=
        ⟨isSound_opening library root empty (within ▸ stacked),
          tells_opening candidLibrary candidEntered idle root⟩
      have raises := raisesFrom_of_renders candidLibrary later told failed.symm report
      obtain ⟨frames, raises⟩ := raises.resolve_left shown
      exact ⟨renderer, root, buffer, context, outer, entered, frames, began, candidEntered, told,
        raises⟩

/-- If bodies raise no reports of their own, then every cycle that the consumer of a stream receives is
one of a token that exactly one of the live frames provided when it was raised. The message shows the
labels of the tokens provided around that frame, the token's own label and the labels of those provided
inside of it, each in the order of the requests, and last what the token is called, which is its label
again if and only if it has a name. -/
theorem received_cycle {library : Library} (candidLibrary : library.IsCandid) {route : Route}
    {mode : RenderMode} {session last : Session} (candid : session.IsCandid) {chunks : List Bytes}
    {context : Value} {labels : List String}
    (received : (ofRoute route mode).received library session
      = some ⟨chunks, some (.engine (.contextCycle context labels)), last⟩) :
    ∃ token inner frame outer, context = .token token ∧
      (ofRoute route mode).RaisesWith library session (.contextCycle context labels)
        (inner ++ frame :: outer) ∧
      frame.token? = some token ∧ (∀ other ∈ inner ++ outer, Frame.token? other ≠ some token) ∧
      (∀ palette, (EngineError.contextCycle context labels).message palette
        = EngineError.cycleText
          (labelsOf outer ++ token.label :: labelsOf inner ++ [context.describe])) ∧
      (context.describe = token.label ↔ token.shownName?.isSome) := by
  obtain ⟨renderer, root, buffer, number, before, entered, frames, began, candidEntered, told, raises⟩ :=
    exists_opening_of_received candidLibrary candid received trivial nofun
  have recurs : Recurs (renderer.opening library root entered) :=
    recurs_opening candidLibrary candidEntered root
  obtain ⟨⟨token, provided, rfl⟩, distinct⟩ := told.recurs_of_raises candidLibrary recurs raises
  obtain ⟨inner, frame, outer, rfl, provides, alone⟩ := exists_split_of_mem_tokensOf provided distinct
  have reported : labels = labelsOf (inner ++ frame :: outer) :=
    (told.reports candidLibrary raises trivial).resolve_left nofun
  have shown := reported.trans (labelsOf_around provides inner outer)
  refine ⟨token, inner, frame, outer, rfl, ⟨renderer, root, buffer, number, before, entered, began,
    raises⟩, provides, alone, fun palette => ?_, token.describe_eq_label_iff⟩
  rw [← shown]
  rfl

end ByteStream

/-! ## A page whose providers ask for each other -/

namespace Sample

/-- A page that fails after some turns and whose frames can then be closed. -/
theorem fails_of_turns {library : Library} {turns : Nat → Turned}
    (taken : ∀ count, turns (count + 1) = (turns count).2.1.turn library (turns count).2.2)
    {count : Nat} (going : ∀ earlier < count, (turns earlier).1 = .proceed) {error : EngineError}
    {renderer : Renderer} {session : Session}
    (failed : turns count = (.failed (.engine error), renderer, session))
    (closes : (session.closeFrames library renderer.context renderer.frames).1 = none) :
    ∃ last, (ByteStream.ofRoute themedRoute .sync).RendersFrom library 0 none (.empty 0)
        (.turned (turns 0)) [] (some (.engine error)) last ∧
      (ByteStream.ofRoute themedRoute .sync).RaisesFrom library error (.empty 0) (.turned (turns 0))
        renderer.frames := by
  induction count generalizing turns with
  | zero =>
      obtain ⟨run, after, aborts⟩ := Run.exists_abort closes (.engine error)
      rw [failed]
      exact ⟨_, .fails aborts, .fails⟩
  | succ count induction =>
      obtain ⟨last, renders, raises⟩ := @induction (fun count => turns (count + 1))
        (fun later => taken (later + 1)) (fun earlier less => going (earlier + 1) (by omega)) failed
      have first : turns 0 = (.proceed, (turns 0).2.1, (turns 0).2.2) :=
        Prod.ext (going 0 (by omega)) rfl
      rw [taken 0] at renders raises
      rw [first]
      exact ⟨last, .turn renders, .goesOn rfl raises⟩

def font : Token := ⟨1, some "font"⟩

def fontProvider : ComponentReference := ⟨"Font", some .generator, true⟩

/-- A page that asks for a token; its provider asks for the font, and that of the font for the token
again. -/
def circularLibrary (token : Token) : Library :=
  [⟨pageReference, ⟨[], [], [], none⟩, fun _ => .suspend (.effect (.token token)) .finish⟩,
    ⟨provider, ⟨[], [], [], none⟩, fun _ => .suspend (.effect (.token font)) .finish⟩,
    ⟨fontProvider, ⟨[], [], [], none⟩, fun _ => .suspend (.effect (.token token)) .finish⟩]

def circularSession (token : Token) : Session :=
  { Session.empty with
    registry := [(token, ⟨.sync, .component provider⟩), (font, ⟨.sync, .component fontProvider⟩)] }

/-- The theme without a name. -/
def unnamed : Token := ⟨0, none⟩

theorem isCandid_circularLibrary (token : Token) : (circularLibrary token).IsCandid := by
  intro component member bindings
  simp only [circularLibrary, List.mem_cons, List.not_mem_nil, or_false] at member
  rcases member with rfl | rfl | rfl <;> exact fun _ plain => plain

theorem isCandid_circularSession (token : Token) : (circularSession token).IsCandid := by
  constructor
  · intro index object found
    simp [circularSession, Session.empty, Session.routine?] at found
  · intro worker reply member
    cases member

/-- The turns of the page that asks for a token. -/
def circularTurns (token : Token) : Nat → Turned :=
  turnsOf (circularLibrary token) (.routine ⟨.generator, 0, "Page"⟩) (circularSession token)

/-- The page fails when the token is asked for again, with a frame for each of the three bodies. -/
def FailsCircularly (token : Token) (label : String) : Prop :=
  ∃ last frames, (ByteStream.ofRoute themedRoute .sync).received (circularLibrary token)
      (circularSession token)
      = some ⟨[], some (.engine (.contextCycle (.token token) [label, "font"])), last⟩ ∧
    frames.map Frame.token? = [some font, some token, none] ∧
    ∀ others, (ByteStream.ofRoute themedRoute .sync).RaisesWith (circularLibrary token)
      (circularSession token) (.contextCycle (.token token) [label, "font"]) others → others = frames

/-- It fails in the third turn after it was put on the stack. -/
theorem failsCircularly {token : Token} {label : String}
    (going : (List.range 3).map (fun count => (circularTurns token count).1)
      = [.proceed, .proceed, .proceed])
    (failed : ∃ renderer session, circularTurns token 3
        = (.failed (.engine (.contextCycle (.token token) [label, "font"])), renderer, session) ∧
      renderer.frames.map Frame.token? = [some font, some token, none] ∧
      (Session.closeFrames (circularLibrary token) renderer.context renderer.frames session).1
        = none) :
    FailsCircularly token label := by
  obtain ⟨renderer, session, failed, tokens, closes⟩ := failed
  have proceeds : ∀ earlier < 3, (circularTurns token earlier).1 = .proceed := by
    intro earlier less
    have entry := congrArg (fun turns => turns[earlier]?) going
    match earlier, less with
    | 0, _ | 1, _ | 2, _ => exact Option.some.inj entry
  obtain ⟨last, renders, raises⟩ := fails_of_turns (fun _ => rfl) proceeds failed closes
  have began : (ByteStream.ofRoute themedRoute .sync).enter (circularLibrary token)
      (circularSession token)
      = (.ok ⟨.start (.start (circularSession token).registry Settings.standard 0)
          (.routine ⟨.generator, 0, "Page"⟩), .empty 0, 0, none⟩,
        ((ByteStream.ofRoute themedRoute .sync).enter (circularLibrary token)
          (circularSession token)).2) :=
    rfl
  have ends : (ByteStream.ofRoute themedRoute .sync).Renders (circularLibrary token)
      (circularSession token) []
      (some (.engine (.contextCycle (.token token) [label, "font"]))) last :=
    .enters rfl began renders
  refine ⟨last, renderer.frames, ends.received (circularLibrary token), tokens, ?_⟩
  rintro others ⟨_, _, _, _, _, _, entered, raised⟩
  cases began.symm.trans entered
  exact raised.unique raises

theorem failsCircularly_theme : FailsCircularly theme "theme" := by
  apply failsCircularly
  · cbv
  · refine ⟨_, _, Prod.ext ?_ rfl, ?_, ?_⟩ <;> cbv

theorem failsCircularly_unnamed : FailsCircularly unnamed "<Context at 0x0>" := by
  apply failsCircularly
  · cbv
  · refine ⟨_, _, Prod.ext ?_ rfl, ?_, ?_⟩ <;> cbv

end Sample

namespace ByteStream

/-- Every cycle that the consumer of a stream receives is shown by a chain of labels that ends with the
one at the place of the frame that provides the token. -/
def ClosesCycles (library : Library) (stream : ByteStream) (session : Session) : Prop :=
  ∀ chunks context labels last,
    stream.received library session
      = some ⟨chunks, some (.engine (.contextCycle context labels)), last⟩ →
    ∃ token inner frame outer, context = .token token ∧
      stream.RaisesWith library session (.contextCycle context labels) (inner ++ frame :: outer) ∧
      frame.token? = some token ∧
      ∀ palette, (EngineError.contextCycle context labels).message palette
        = EngineError.cycleText (labelsOf outer ++ token.label :: labelsOf inner ++ [token.label])

/-- The provider of the font is at work for that of the theme when the theme is asked for again. -/
theorem received_cycle_theme :
    ∃ last inner frame outer, (ofRoute Sample.themedRoute .sync).received
        (Sample.circularLibrary Sample.theme) (Sample.circularSession Sample.theme)
        = some ⟨[], some (.engine (.contextCycle (.token Sample.theme) ["theme", "font"])), last⟩ ∧
      (inner ++ frame :: outer).map Frame.token? = [some Sample.font, some Sample.theme, none] ∧
      Frame.token? frame = some Sample.theme ∧
      "Circular context dependency: theme → font → theme"
        = EngineError.cycleText (labelsOf outer ++ "theme" :: labelsOf inner ++ ["theme"]) := by
  obtain ⟨last, frames, received, tokens, only⟩ := Sample.failsCircularly_theme
  obtain ⟨token, inner, frame, outer, same, raised, provides, -, shown, -⟩ :=
    received_cycle (Sample.isCandid_circularLibrary Sample.theme)
      (Sample.isCandid_circularSession Sample.theme) received
  cases same
  exact ⟨last, inner, frame, outer, received, only _ raised ▸ tokens, provides, shown .plain⟩

/-- Without a name, the token is labelled in one way and called in another. -/
theorem not_closesCycles_unnamed :
    ¬ (ofRoute Sample.themedRoute .sync).ClosesCycles (Sample.circularLibrary Sample.unnamed)
      (Sample.circularSession Sample.unnamed) := by
  intro closes
  obtain ⟨last, frames, received, tokens, only⟩ := Sample.failsCircularly_unnamed
  obtain ⟨token, inner, frame, outer, same, raised, provides, shown⟩ := closes _ _ _ _ received
  cases same
  have chain : labelsOf outer ++ Sample.unnamed.label :: labelsOf inner = ["<Context at 0x0>", "font"] := by
    rw [← labelsOf_around provides, only _ raised]
    let providers : List Frame := [.of ⟨.generator, 2, "Font"⟩ (some Sample.font),
      .of ⟨.generator, 1, "Theme"⟩ (some Sample.unnamed), .of ⟨.generator, 0, "Page"⟩ none]
    have called : labelsOf frames = labelsOf providers := labelsOf_congr tokens
    exact called
  have message := shown .plain
  rw [chain] at message
  exact absurd message (by decide)

end ByteStream

end HtmlStream
