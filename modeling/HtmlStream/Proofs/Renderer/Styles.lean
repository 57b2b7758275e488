import HtmlStream.Proofs.Element.Repetition
import HtmlStream.Proofs.Renderer.Course

/-!
Styles are written once, where they are met first. A render is recorded together with the pieces of
a page that it comes across, whatever bodies they come from; the texts that it hands out are those
of the pieces, less the styles that are met again. The main statement is `styles_written_once`. Its
second part compares two renders: one of them receives nothing for a style that it has received
before, and neither its texts nor what it comes to are any different.
-/
namespace HtmlStream

/-! ## What a turn adds to a page -/

/-- The texts that a turn hands out. -/
def Turn.texts : Turn → List String
  | .chunk text => [text]
  | _ => []

namespace PagePiece

/-- The pieces that a turn adds to a page after the renderer has received an effect. -/
def ofTurn (effect? : Option Value) (turn : Turn) : List PagePiece :=
  match effect?, turn with
  | some (.style sheet), _ => [.style sheet]
  | _, .chunk content => [.text content]
  | _, _ => []

theorem ofTurn_of_plain {effect? : Option Value} (plain : ∀ sheet, effect? ≠ some (.style sheet))
    (turn : Turn) : ofTurn effect? turn = turn.texts.map .text := by
  unfold ofTurn
  split
  · exact absurd rfl (plain _)
  · rfl
  · next other =>
      cases turn with
      | chunk content => exact absurd rfl (other content)
      | _ => rfl

/-- A style that is met first is not left out. -/
theorem unrepeated_ofTurn {written : List Nat} {effect? : Option Value}
    (first : ∀ sheet, effect? = some (.style sheet) → sheet.identity ∉ written) (turn : Turn) :
    unrepeated written (ofTurn effect? turn) = ofTurn effect? turn := by
  by_cases plain : ∀ sheet, effect? ≠ some (.style sheet)
  · rw [ofTurn_of_plain plain, unrepeated_texts]
  · rcases not_forall_not.mp plain with ⟨sheet, rfl⟩
    exact unrepeated_first (first sheet rfl) []

end PagePiece

/-! ## Effects that are replaced -/

namespace Progress

def effect? : Progress → Option Value
  | .produced effect => some effect
  | _ => none

def replacing (replace : Value → Value) : Progress → Progress
  | .produced effect => .produced (replace effect)
  | progress => progress

end Progress

namespace Wait

/-- The effect that answers a wait: the event loop brings those of async generators. -/
def effect? : Wait → Reply → Option Value
  | .step _ _, .ok effect => some effect
  | _, _ => none

def replacing (replace : Value → Value) : Wait → Reply → Reply
  | .step _ _, .ok effect => .ok (replace effect)
  | _, reply => reply

end Wait

/-- Effects as they were yielded. -/
def asYielded (_ : List PagePiece) (effect : Value) : Value := effect

/-- Nothing instead of a style that is among some pieces already. -/
def repeatsAsNull (pieces : List PagePiece) (effect : Value) : Value :=
  match effect with
  | .style sheet => if sheet.identity ∈ PagePiece.identities pieces then .null else effect
  | _ => effect

namespace Renderer

/-- What the innermost body comes to, unless only the event loop can advance it. -/
def advanced? (library : Library) (renderer : Renderer) (session : Session) :
    Option (RoutineReference × Progress × Renderer × Session) :=
  match renderer.frames with
  | [] => none
  | frame :: outer =>
      if frame.isAsyncGenerator then none
      else
        let (progress, session) := Session.resume library frame.routine.index frame.reply
          (session.withLiveFrames (outer.length + 1))
        some (frame.routine, progress, renderer.withFrames (frame.delivered :: outer), session)

/-- The effect that a body yields in a turn. -/
def yielded? (library : Library) (renderer : Renderer) (session : Session) : Option Value :=
  (renderer.advanced? library session).bind fun (_, progress, _) => progress.effect?

/-- A turn in which the renderer receives something else for what a body yields. -/
def turnWith (library : Library) (replace : Value → Value) (renderer : Renderer)
    (session : Session) : Turned :=
  match renderer.advanced? library session with
  | some (producer, progress, renderer, session) =>
      renderer.react library producer (progress.replacing replace) session
  | none => renderer.turn library session

end Renderer

namespace Session

/-- The number of style blocks that a render context counts. -/
def emitted? (session : Session) (context : Nat) : Option Nat :=
  (session.context? context).map RenderContext.stylesEmitted

/-- Others have counted some style blocks in a render context meanwhile. -/
def CountsElsewhere (context counted : Nat) (before after : Session) : Prop :=
  after.emitted? context = (before.emitted? context).map (· + counted)

theorem CountsElsewhere.none (context : Nat) (session : Session) :
    session.CountsElsewhere context 0 session := by
  simp [CountsElsewhere]

end Session

namespace Renderer

/-- How a render comes from one turn to another, with the pieces that it comes across on the way,
the texts that it hands out and the number of styles that others count meanwhile. What bodies yield
is replaced in a way that may depend on the pieces before. Whenever the render pauses, anything may
go on, and whatever is waited for may be answered in any way. -/
inductive Recorded (library : Library) (policy : List PagePiece → Value → Value) (first : Turned) :
    List PagePiece → List String → Nat → Turned → Prop
  | here : Recorded library policy first [] [] 0 first
  | turns {pieces : List PagePiece} {texts : List String} {elsewhere : Nat} {renderer : Renderer}
      {session : Session}
      (recorded : Recorded library policy first pieces texts elsewhere
        (.proceed, renderer, session)) :
      Recorded library policy first
        (pieces ++ PagePiece.ofTurn ((renderer.yielded? library session).map (policy pieces))
          (renderer.turnWith library (policy pieces) session).1)
        texts elsewhere (renderer.turnWith library (policy pieces) session)
  | handsOut {pieces : List PagePiece} {texts : List String} {elsewhere : Nat} {text : String}
      {renderer : Renderer} {session later : Session}
      (recorded : Recorded library policy first pieces texts elsewhere
        (.chunk text, renderer, session))
      {counted : Nat} (counts : session.CountsElsewhere renderer.context counted later) :
      Recorded library policy first pieces (texts ++ [text]) (elsewhere + counted)
        (.proceed, renderer, later)
  | isAnswered {pieces : List PagePiece} {texts : List String} {elsewhere : Nat} {wait : Wait}
      {renderer : Renderer} {session later : Session}
      (recorded : Recorded library policy first pieces texts elsewhere
        (.wait wait, renderer, session))
      {counted : Nat} (counts : session.CountsElsewhere renderer.context counted later)
      (reply : Reply) :
      Recorded library policy first
        (pieces ++ PagePiece.ofTurn ((wait.effect? reply).map (policy pieces))
          (renderer.afterWait library wait (wait.replacing (policy pieces) reply) later).1)
        texts (elsewhere + counted)
        (renderer.afterWait library wait (wait.replacing (policy pieces) reply) later)

end Renderer

/-! ## What has nothing to do with styles -/

namespace Session

variable {session : Session} {context : Nat} {counted : Option Nat}

theorem emitted?_modifyContext_of_keeps {index : Nat} {change : RenderContext → RenderContext}
    (keeps : ∀ current, (change current).stylesEmitted = current.stylesEmitted) :
    (session.modifyContext index change).emitted? context = session.emitted? context := by
  simp only [emitted?, context?, modifyContext, Array.getElem?_modify]
  split
  · simp only [Option.map_map, Function.comp_def, keeps]
  · rfl

theorem emitted?_countStyle (session : Session) (context : Nat) :
    (session.countStyle context).emitted? context = (session.emitted? context).map (· + 1) := by
  simp only [emitted?, context?, countStyle, modifyContext, Array.getElem?_modify, if_pos,
    Option.map_map]
  rfl

theorem emitted?_enterFrame (frame : Frame) :
    (session.enterFrame context frame).emitted? context = session.emitted? context := by
  unfold enterFrame
  split
  · refine emitted?_modifyContext_of_keeps ?_
    exact fun _ => rfl
  · rfl

theorem emitted?_leaveFrame (frame : Frame) :
    (session.leaveFrame context frame).emitted? context = session.emitted? context := by
  unfold leaveFrame
  split
  · refine emitted?_modifyContext_of_keeps ?_
    exact fun _ => rfl
  · rfl

/-- Bodies do not count styles. -/
theorem keptByBodies_emitted (context : Nat) (counted : Option Nat) :
    KeptByBodies fun session => session.emitted? context = counted where
  blind same _ _ _ _ := same
  enroll same _ := same
  withMeta same _ _ _ := by
    refine Eq.trans (emitted?_modifyContext_of_keeps ?_) same
    exact fun _ => rfl

theorem emitted?_closeFrame (library : Library) (same : session.emitted? context = counted)
    (frame : Frame) : (session.closeFrame library frame).2.emitted? context = counted := by
  unfold closeFrame
  split
  · exact same
  · exact (keptByBodies_emitted context counted).closeRoutine library same frame.routine.index

end Session

namespace Renderer

/-- The styles of a renderer are left as they are, and none is counted. -/
structure KeepsStyles (renderer : Renderer) (counted : Option Nat) (turned : Turned) : Prop where
  styles_eq : turned.2.1.styles = renderer.styles
  context_eq : turned.2.1.context = renderer.context
  emitted_eq : turned.2.2.emitted? renderer.context = counted

theorem KeepsStyles.of_withFrames {renderer : Renderer} {counted : Option Nat} {turned : Turned}
    {frames : List Frame} (keeps : KeepsStyles (renderer.withFrames frames) counted turned) :
    KeepsStyles renderer counted turned :=
  ⟨keeps.styles_eq, keeps.context_eq, keeps.emitted_eq⟩

section Keeping

variable (library : Library) {renderer : Renderer} {session : Session} {counted : Option Nat}

theorem keepsStyles_withFrames (turn : Turn) (frames : List Frame)
    (same : session.emitted? renderer.context = counted) :
    KeepsStyles renderer counted (turn, renderer.withFrames frames, session) :=
  ⟨rfl, rfl, same⟩

variable (same : session.emitted? renderer.context = counted)

include same

theorem keepsStyles_same (turn : Turn) : KeepsStyles renderer counted (turn, renderer, session) :=
  ⟨rfl, rfl, same⟩

theorem keepsStyles_answer (turn : Turn) (value : Value) :
    KeepsStyles renderer counted (turn, renderer.answer value, session) := by
  unfold answer
  split <;> exact ⟨rfl, rfl, same⟩

theorem keepsStyles_interrupt (turn : Turn) (failure : Failure) :
    KeepsStyles renderer counted (turn, renderer.interrupt failure, session) := by
  unfold interrupt
  split <;> exact ⟨rfl, rfl, same⟩

theorem keepsStyles_writing (text : Except Fault String) :
    KeepsStyles renderer counted (renderer.writing text session) := by
  cases text <;> exact keepsStyles_same same _

theorem keepsStyles_push (frame : Frame) :
    KeepsStyles renderer counted (renderer.push library frame session) := by
  by_cases full : renderer.settings.maxDepth ≤ renderer.frames.length
  · rw [push_of_full library full]
    exact keepsStyles_same (Session.emitted?_closeFrame library same frame) _
  · rw [push_of_room library frame session (Nat.lt_of_not_le full)]
    exact keepsStyles_withFrames _ _ ((Session.emitted?_enterFrame frame).trans same)

theorem keepsStyles_runProvider (token : Token) (provider : Provider) :
    KeepsStyles renderer counted (renderer.runProvider library token provider session) := by
  unfold runProvider
  have kept := Session.keptByBodies_emitted renderer.context counted
  have noted : (session.noteRequest token provider).emitted? renderer.context = counted :=
    kept.diagnose same .renderer _
  have called := kept.call library noted provider.source []
  dsimp only
  generalize Session.call library _ _ _ _ = result at called ⊢
  rcases result with ⟨reply, after⟩
  cases reply with
  | error failure => exact keepsStyles_same called _
  | ok value =>
      cases value with
      | routine body => exact keepsStyles_push library called _
      | _ => exact keepsStyles_same called _

theorem keepsStyles_resolve (token : Token) :
    KeepsStyles renderer counted (renderer.resolve library token session) := by
  unfold resolve
  split
  · exact keepsStyles_same same _
  · split
    · exact keepsStyles_answer same _ _
    all_goals
      split
      · exact keepsStyles_same same _
      · exact keepsStyles_runProvider library same token _

theorem keepsStyles_handleWait (producer : RoutineReference) (pending : Pending) :
    KeepsStyles renderer counted (renderer.handleWait library producer pending session) := by
  unfold handleWait
  split
  · exact keepsStyles_resolve library same _
  · split <;> exact keepsStyles_same same _

theorem keepsStyles_deliver (value : Value) :
    KeepsStyles renderer counted (renderer.deliver value session) := by
  unfold deliver
  split
  · exact keepsStyles_answer same _ value
  · exact keepsStyles_writing same _

theorem keepsStyles_finish (value : Value) :
    KeepsStyles renderer counted (renderer.finish value session) := by
  unfold finish
  split
  · exact keepsStyles_same same _
  · next frame outer _ =>
      have left : (session.leaveFrame renderer.context frame).emitted?
          (renderer.withFrames outer).context = counted :=
        (Session.emitted?_leaveFrame frame).trans same
      exact .of_withFrames (keepsStyles_deliver left value)

theorem keepsStyles_finishFailing (failure : Failure) :
    KeepsStyles renderer counted (renderer.finishFailing failure session) := by
  unfold finishFailing
  split
  · exact keepsStyles_finish same .null
  · exact keepsStyles_same same _

/-- An effect that is not a style. -/
theorem keepsStyles_handle (producer : RoutineReference) {effect : Value}
    (plain : ∀ sheet, effect ≠ .style sheet) :
    KeepsStyles renderer counted (renderer.handle library producer effect session) := by
  unfold handle
  cases effect with
  | token token => exact keepsStyles_resolve library same token
  | style sheet => exact absurd rfl (plain sheet)
  | marker role type attributes children =>
      cases role with
      | opening | closing =>
          dsimp only
          split
          · exact keepsStyles_writing same _
          · exact keepsStyles_same same _
      | unspecified => exact keepsStyles_same same _
  | null => exact keepsStyles_same same _
  | text | markup | integer | float | notANumber => exact keepsStyles_writing same _
  | element =>
      have added := (Session.keptByBodies_emitted renderer.context counted).addRoutine same
        .generator "element"
      exact keepsStyles_push library (added _) _
  | routine => exact keepsStyles_push library same _
  | _ => exact keepsStyles_same same _

end Keeping

/-! ## One turn -/

/-- What comes of an effect, if there is one: a style is written by a renderer that has the same
styles, and anything else has nothing to do with them. -/
inductive Adds (renderer : Renderer) (counted : Option Nat) : Option Value → Turned → Prop
  | style (sheet : Style) {writer : Renderer} {session : Session} (turn : Turn)
      (keeps : KeepsStyles renderer counted (turn, writer, session)) :
      Adds renderer counted (some (.style sheet)) (writer.writeStyle sheet session)
  | other {effect? : Option Value} {turned : Turned}
      (plain : ∀ sheet, effect? ≠ some (.style sheet))
      (keeps : KeepsStyles renderer counted turned) : Adds renderer counted effect? turned

theorem Adds.none {renderer : Renderer} {counted : Option Nat} {turned : Turned}
    (keeps : KeepsStyles renderer counted turned) : Adds renderer counted none turned :=
  .other (fun _ equal => by cases equal) keeps

theorem Adds.of_withFrames {renderer : Renderer} {counted : Option Nat} {effect? : Option Value}
    {turned : Turned} {frames : List Frame}
    (adds : Adds (renderer.withFrames frames) counted effect? turned) :
    Adds renderer counted effect? turned := by
  cases adds with
  | style sheet turn keeps => exact .style sheet turn keeps.of_withFrames
  | other plain keeps => exact .other plain keeps.of_withFrames

section Adding

variable (library : Library) {renderer : Renderer} {session : Session} {counted : Option Nat}
  (same : session.emitted? renderer.context = counted)

include same

theorem adds_handle (producer : RoutineReference) (effect : Value) :
    Adds renderer counted (some effect) (renderer.handle library producer effect session) := by
  by_cases styled : ∃ sheet, effect = .style sheet
  · rcases styled with ⟨sheet, rfl⟩
    exact .style sheet .proceed (keepsStyles_same same _)
  · have plain : ∀ sheet, effect ≠ .style sheet := fun sheet equal => styled ⟨sheet, equal⟩
    exact .other (fun sheet equal => plain sheet (Option.some.inj equal))
      (keepsStyles_handle library same producer plain)

theorem adds_react (producer : RoutineReference) (progress : Progress) :
    Adds renderer counted progress.effect?
      (renderer.react library producer progress session) := by
  cases progress with
  | produced effect => exact adds_handle library same producer effect
  | waiting pending => exact .none (keepsStyles_handleWait library same producer pending)
  | returned value => exact .none (keepsStyles_finish same value)
  | raised failure => exact .none (keepsStyles_finishFailing same failure)

/-- The innermost body is advanced, or the turn comes to nothing that has to do with styles. -/
theorem adds_turn :
    Adds renderer counted (renderer.yielded? library session) (renderer.turn library session) := by
  unfold yielded? advanced? turn
  cases live : renderer.frames with
  | nil => exact .none (keepsStyles_same same _)
  | cons frame outer =>
      dsimp only
      split
      · exact .none (keepsStyles_withFrames _ (frame.delivered :: outer) same)
      · let quiet := renderer.withFrames (frame.delivered :: outer)
        have noted : (session.withLiveFrames (outer.length + 1)).emitted? quiet.context = counted :=
          same
        have resumed := (Session.keptByBodies_emitted quiet.context counted).resume library noted
          frame.routine.index frame.reply
        exact .of_withFrames (adds_react library resumed frame.routine _)

theorem adds_afterWait (wait : Wait) (reply : Reply) :
    Adds renderer counted (wait.effect? reply)
      (renderer.afterWait library wait reply session) := by
  cases wait with
  | step generator answer =>
      cases reply with
      | ok effect => exact adds_handle library same generator effect
      | error failure => exact .none (keepsStyles_finishFailing same failure)
  | settle pending =>
      refine .none ?_
      unfold afterWait
      split <;> first
        | cases ‹Wait.settle pending = Wait.step _ _›
        | exact keepsStyles_interrupt same _ _
        | exact keepsStyles_same same _
        | skip
      split
      · exact keepsStyles_same same _
      · exact keepsStyles_interrupt same _ _

end Adding

/-! ## What is on record -/

theorem ofText_markup (sheet : Style) :
    Turn.ofText (PagePiece.style sheet).markup = .chunk (PagePiece.style sheet).markup := by
  refine if_neg fun empty => ?_
  have noCharacters := congrArg String.toList (String.isEmpty_iff.mp empty)
  simp [PagePiece.markup] at noCharacters

theorem writeStyle_again {renderer : Renderer} {written : List Nat} {sheet : Style}
    (records : renderer.styles.Records written) (again : sheet.identity ∈ written)
    (session : Session) : renderer.writeStyle sheet session = (.proceed, renderer, session) := by
  unfold writeStyle
  rw [records.styleBlock_again again]

theorem writeStyle_first {renderer : Renderer} {written : List Nat} {sheet : Style}
    (records : renderer.styles.Records written) (first : sheet.identity ∉ written)
    (session : Session) :
    renderer.writeStyle sheet session
      = (.chunk (PagePiece.style sheet).markup,
          renderer.withStyles (.style sheet :: renderer.styles),
          session.countStyle renderer.context) := by
  unfold writeStyle
  rw [records.styleBlock_first first, ← ofText_markup]
  rfl

/-- A record of a render that began with `count` style blocks in its context: the texts are those of
its pieces, each style once, and as many styles have been counted. -/
structure IsRecord (context count : Nat) (pieces : List PagePiece) (texts : List String)
    (elsewhere : Nat) (turned : Turned) : Prop where
  context_eq : turned.2.1.context = context
  records : turned.2.1.styles.Records (PagePiece.writtenAfter [] pieces)
  texts_eq : texts ++ turned.1.texts = (PagePiece.unrepeated [] pieces).map PagePiece.markup
  emitted_eq : turned.2.2.emitted? context
    = some (count + (PagePiece.identities (PagePiece.unrepeated [] pieces)).length + elsewhere)

namespace IsRecord

variable {context count elsewhere : Nat} {pieces : List PagePiece} {texts : List String}

theorem of_eq {turned : Turned} {others : List PagePiece}
    (same : PagePiece.unrepeated [] others = PagePiece.unrepeated [] pieces)
    (record : IsRecord context count pieces texts elsewhere turned) :
    IsRecord context count others texts elsewhere turned where
  context_eq := record.context_eq
  records := by
    rw [← PagePiece.writtenAfter_unrepeated, same, PagePiece.writtenAfter_unrepeated]
    exact record.records
  texts_eq := same ▸ record.texts_eq
  emitted_eq := same ▸ record.emitted_eq

/-- The render pauses, and others may have counted styles meanwhile. -/
theorem pause {turn : Turn} {renderer : Renderer} {session later : Session}
    (record : IsRecord context count pieces texts elsewhere (turn, renderer, session))
    {counted : Nat} (counts : session.CountsElsewhere renderer.context counted later) :
    IsRecord context count pieces texts (elsewhere + counted) (turn, renderer, later) where
  context_eq := record.context_eq
  records := record.records
  texts_eq := record.texts_eq
  emitted_eq := by
    have counts : later.emitted? context = (session.emitted? context).map (· + counted) :=
      record.context_eq ▸ counts
    have before : session.emitted? context = some _ := record.emitted_eq
    rw [counts, before, Option.map_some, Nat.add_assoc]

/-- A text is handed out. -/
theorem handOut {text : String} {renderer : Renderer} {session : Session}
    (record : IsRecord context count pieces texts elsewhere (.chunk text, renderer, session)) :
    IsRecord context count pieces (texts ++ [text]) elsewhere (.proceed, renderer, session) where
  context_eq := record.context_eq
  records := record.records
  texts_eq := (List.append_nil _).trans record.texts_eq
  emitted_eq := record.emitted_eq

theorem add {renderer : Renderer} {session : Session} {turn : Turn} {effect? : Option Value}
    {turned : Turned} (record : IsRecord context count pieces texts elsewhere (turn, renderer, session))
    (silent : turn.texts = [])
    (adds : Adds renderer (session.emitted? renderer.context) effect? turned) :
    IsRecord context count (pieces ++ PagePiece.ofTurn effect? turned.1) texts elsewhere
      turned := by
  rcases record with ⟨rfl, records, texts_eq, emitted_eq⟩
  rw [silent, List.append_nil] at texts_eq
  dsimp only at records emitted_eq
  cases adds with
  | other plain keeps =>
      rw [PagePiece.ofTurn_of_plain plain]
      have unrepeated : PagePiece.unrepeated [] (pieces ++ turned.1.texts.map .text)
          = PagePiece.unrepeated [] pieces ++ turned.1.texts.map .text := by
        rw [PagePiece.unrepeated_append, PagePiece.unrepeated_texts]
      refine ⟨keeps.context_eq, ?_, ?_, ?_⟩
      · rw [keeps.styles_eq, (PagePiece.writes_textOf [] pieces).writtenAfter_append,
          PagePiece.writtenAfter_texts]
        exact records
      · rw [unrepeated, List.map_append, ← texts_eq, List.map_map]
        exact congrArg (texts ++ ·) (List.map_id _).symm
      · rw [unrepeated, PagePiece.identities_append, PagePiece.identities_texts, List.append_nil]
        exact keeps.emitted_eq.trans emitted_eq
  | @style sheet writer after _ keeps =>
      rcases keeps with ⟨styles_eq, context_eq, counted⟩
      dsimp only at styles_eq context_eq counted
      rw [← styles_eq] at records
      rw [emitted_eq] at counted
      by_cases again : sheet.identity ∈ PagePiece.writtenAfter [] pieces
      · have unrepeated : PagePiece.unrepeated [] (pieces ++ [.style sheet])
            = PagePiece.unrepeated [] pieces := by
          rw [PagePiece.unrepeated_append, PagePiece.unrepeated_again again, PagePiece.unrepeated,
            List.append_nil]
        rw [writeStyle_again records again]
        refine of_eq unrepeated ⟨context_eq, records, ?_, counted⟩
        rw [← texts_eq]
        exact List.append_nil texts
      · have unrepeated : PagePiece.unrepeated [] (pieces ++ [.style sheet])
            = PagePiece.unrepeated [] pieces ++ [.style sheet] := by
          rw [PagePiece.unrepeated_append, PagePiece.unrepeated_first again, PagePiece.unrepeated]
        rw [writeStyle_first records again]
        refine ⟨context_eq, ?_, ?_, ?_⟩
        · rw [show PagePiece.ofTurn _ _ = [.style sheet] from rfl,
            (PagePiece.writes_textOf [] pieces).writtenAfter_append,
            PagePiece.writtenAfter, if_neg again]
          exact records.cons
        · rw [show PagePiece.ofTurn _ _ = [.style sheet] from rfl, unrepeated, List.map_append,
            ← texts_eq]
          rfl
        · rw [show PagePiece.ofTurn _ _ = [.style sheet] from rfl, unrepeated,
            PagePiece.identities_append]
          dsimp only
          rw [context_eq, Session.emitted?_countStyle, counted]
          simp
          omega

end IsRecord

/-! ## Repetitions that are silenced -/

/-- What a renderer receives after some pieces: an effect itself, or nothing for a style that is
among the pieces already. -/
inductive Silences (pieces : List PagePiece) : Value → Value → Prop
  | same (effect : Value) : Silences pieces effect effect
  | again {sheet : Style} (again : sheet.identity ∈ PagePiece.identities pieces) :
      Silences pieces (.style sheet) .null

theorem silences_repeatsAsNull (pieces : List PagePiece) (effect : Value) :
    Silences pieces effect (repeatsAsNull pieces effect) := by
  unfold repeatsAsNull
  split
  · split
    · next again => exact .again again
    · exact .same _
  · exact .same _

/-- A way to replace effects that changes nothing but repetitions. -/
def Silent (policy : List PagePiece → Value → Value) : Prop :=
  ∀ pieces effect, Silences pieces effect (policy pieces effect)

theorem silent_asYielded : Silent asYielded := fun _ effect => .same effect

theorem silent_repeatsAsNull : Silent repeatsAsNull := silences_repeatsAsNull

/-- A turn that advances a body is what comes of that. -/
theorem turn_of_advanced (library : Library) {renderer quiet : Renderer} {session after : Session}
    {producer : RoutineReference} {progress : Progress}
    (advanced : renderer.advanced? library session = some (producer, progress, quiet, after)) :
    renderer.turn library session = quiet.react library producer progress after ∧
      quiet.styles = renderer.styles := by
  unfold advanced? at advanced
  unfold turn
  cases live : renderer.frames with
  | nil =>
      rw [live] at advanced
      cases advanced
  | cons frame outer =>
      rw [live] at advanced
      dsimp only at advanced ⊢
      split at advanced
      · cases advanced
      · next notAsync =>
          cases advanced
          rw [if_neg notAsync]
          exact ⟨rfl, rfl⟩

section Silencing

variable (library : Library) {pieces : List PagePiece} {replace : Value → Value}
  (silences : ∀ effect, Silences pieces effect (replace effect)) {renderer : Renderer}

include silences

theorem handle_replaced (records : renderer.styles.Records (PagePiece.writtenAfter [] pieces))
    (producer : RoutineReference) (effect : Value) (session : Session) :
    renderer.handle library producer (replace effect) session
      = renderer.handle library producer effect session := by
  have silenced := silences effect
  generalize replace effect = shown at silenced
  cases silenced with
  | same => rfl
  | again again =>
      have written := (PagePiece.mem_writtenAfter [] pieces).mpr (.inr again)
      exact (writeStyle_again records written session).symm

theorem turnWith_eq_turn (records : renderer.styles.Records (PagePiece.writtenAfter [] pieces))
    (session : Session) :
    renderer.turnWith library replace session = renderer.turn library session := by
  unfold turnWith
  split
  · next producer progress quiet after advanced =>
      rcases turn_of_advanced library advanced with ⟨turn_eq, styles_eq⟩
      rw [turn_eq]
      cases progress with
      | produced effect => exact handle_replaced library silences (styles_eq ▸ records) _ effect _
      | _ => rfl
  · rfl

theorem afterWait_replacing (records : renderer.styles.Records (PagePiece.writtenAfter [] pieces))
    (wait : Wait) (reply : Reply) (session : Session) :
    renderer.afterWait library wait (wait.replacing replace reply) session
      = renderer.afterWait library wait reply session := by
  cases wait with
  | step generator answer =>
      cases reply with
      | ok effect => exact handle_replaced library silences records generator effect session
      | error failure => rfl
  | settle pending => rfl

/-- What is left of the pieces is the same whether a repetition is silenced or not. -/
theorem unrepeated_replacing {counted : Option Nat} {effect? : Option Value} {turned : Turned}
    (records : renderer.styles.Records (PagePiece.writtenAfter [] pieces))
    (adds : Adds renderer counted effect? turned) :
    PagePiece.unrepeated [] (pieces ++ PagePiece.ofTurn (effect?.map replace) turned.1)
      = PagePiece.unrepeated [] (pieces ++ PagePiece.ofTurn effect? turned.1) := by
  cases effect? with
  | none => rfl
  | some effect =>
      have silenced := silences effect
      rw [Option.map_some]
      generalize replace effect = shown at silenced
      cases silenced with
      | same => rfl
      | again again =>
          have written := (PagePiece.mem_writtenAfter [] pieces).mpr (.inr again)
          cases adds with
          | other plain => exact absurd rfl (plain _)
          | style sheet turn keeps =>
              have recorded := keeps.styles_eq ▸ records
              rw [writeStyle_again recorded written, PagePiece.unrepeated_append,
                PagePiece.unrepeated_append]
              exact congrArg _ (PagePiece.unrepeated_again written []).symm

end Silencing

/-! ## Whole renders -/

variable {library : Library} {policy other : List PagePiece → Value → Value} {first last : Turned}
  {pieces : List PagePiece} {texts : List String} {elsewhere context count : Nat}

/-- Where effects are received as they were yielded, a turn is the one that the renderer takes. -/
theorem Recorded.turn {renderer : Renderer} {session : Session}
    (recorded : Recorded library asYielded first pieces texts elsewhere
      (.proceed, renderer, session)) :
    Recorded library asYielded first
      (pieces ++ PagePiece.ofTurn (renderer.yielded? library session)
        (renderer.turn library session).1)
      texts elsewhere (renderer.turn library session) := by
  have turned : renderer.turnWith library (asYielded pieces) session
      = renderer.turn library session := by
    unfold turnWith
    split
    · next producer progress quiet after advanced =>
        rw [(turn_of_advanced library advanced).1]
        cases progress <;> rfl
    · rfl
  have next := recorded.turns
  rw [turned, show asYielded pieces = id from rfl, Option.map_id] at next
  exact next

/-- So is what comes of the answer to a wait. -/
theorem Recorded.answer {wait : Wait} {renderer : Renderer} {session later : Session}
    (recorded : Recorded library asYielded first pieces texts elsewhere
      (.wait wait, renderer, session))
    {counted : Nat} (counts : session.CountsElsewhere renderer.context counted later)
    (reply : Reply) :
    Recorded library asYielded first
      (pieces ++ PagePiece.ofTurn (wait.effect? reply)
        (renderer.afterWait library wait reply later).1)
      texts (elsewhere + counted) (renderer.afterWait library wait reply later) := by
  have answered : wait.replacing (asYielded pieces) reply = reply := by
    cases wait <;> cases reply <;> rfl
  have next := recorded.isAnswered counts reply
  rw [answered, show asYielded pieces = id from rfl, Option.map_id] at next
  exact next

/-- One turn of a render that is recorded in two ways. -/
theorem IsRecord.add_both (silent : Silent policy) (otherSilent : Silent other)
    {renderer : Renderer} {session : Session} {turn : Turn} {effect? : Option Value}
    {turned : Turned} {others : List PagePiece}
    (record : IsRecord context count pieces texts elsewhere (turn, renderer, session))
    (same : PagePiece.unrepeated [] others = PagePiece.unrepeated [] pieces)
    (quiet : turn.texts = [])
    (adds : Adds renderer (session.emitted? renderer.context) effect? turned) :
    IsRecord context count (pieces ++ PagePiece.ofTurn (effect?.map (policy pieces)) turned.1) texts
        elsewhere turned ∧
      PagePiece.unrepeated [] (others ++ PagePiece.ofTurn (effect?.map (other others)) turned.1)
        = PagePiece.unrepeated []
            (pieces ++ PagePiece.ofTurn (effect?.map (policy pieces)) turned.1) := by
  have left := unrepeated_replacing (silent pieces) record.records adds
  have otherLeft := unrepeated_replacing (otherSilent others) (record.of_eq same).records adds
  refine ⟨(record.add quiet adds).of_eq left, ?_⟩
  rw [left, otherLeft]
  exact PagePiece.unrepeated_append_congr same _

/-- A render is recorded faithfully, and it could have been recorded with any other way to silence
repetitions: then the same pieces are left, and everything else is the same. The induction is on the
record; the two renders take each turn together. -/
theorem Recorded.exists_other (silent : Silent policy) (otherSilent : Silent other)
    (starts : IsRecord context count [] [] 0 first)
    (recorded : Recorded library policy first pieces texts elsewhere last) :
    IsRecord context count pieces texts elsewhere last ∧
      ∃ others, Recorded library other first others texts elsewhere last ∧
        PagePiece.unrepeated [] others = PagePiece.unrepeated [] pieces := by
  induction recorded with
  | here => exact ⟨starts, [], .here, rfl⟩
  | @turns pieces texts elsewhere renderer session _ induction =>
      rcases induction with ⟨record, others, otherwise, same⟩
      have adds := adds_turn library (rfl : session.emitted? renderer.context = _)
      have next := otherwise.turns
      rw [turnWith_eq_turn library (otherSilent others) (record.of_eq same).records] at next
      rw [turnWith_eq_turn library (silent pieces) record.records]
      have added := record.add_both silent otherSilent same rfl adds
      exact ⟨added.1, _, next, added.2⟩
  | handsOut _ counts induction =>
      rcases induction with ⟨record, others, otherwise, same⟩
      exact ⟨record.handOut.pause counts, others, otherwise.handsOut counts, same⟩
  | @isAnswered pieces texts elsewhere wait renderer session later _ _ counts reply induction =>
      rcases induction with ⟨record, others, otherwise, same⟩
      have adds := adds_afterWait library (rfl : later.emitted? renderer.context = _) wait reply
      have next := otherwise.isAnswered counts reply
      rw [afterWait_replacing library (otherSilent others) (record.of_eq same).records] at next
      rw [afterWait_replacing library (silent pieces) record.records]
      have added := (record.pause counts).add_both silent otherSilent same rfl adds
      exact ⟨added.1, _, next, added.2⟩

/-- Whatever is received after some pieces, it is no style that is among them. -/
theorem not_mem_of_repeatsAsNull {effect : Value} {sheet : Style}
    (received : repeatsAsNull pieces effect = .style sheet) :
    sheet.identity ∉ PagePiece.identities pieces := by
  unfold repeatsAsNull at received
  split at received
  · split at received
    · cases received
    · next first =>
        cases received
        exact first
  · next plain => exact absurd received (plain sheet)

/-- A render that receives nothing for repetitions comes across none. -/
theorem Recorded.unrepeated_eq
    (recorded : Recorded library repeatsAsNull first pieces texts elsewhere last) :
    PagePiece.unrepeated [] pieces = pieces := by
  have adds : ∀ {pieces : List PagePiece} (effect? : Option Value) (turn : Turn),
      PagePiece.unrepeated [] pieces = pieces →
      PagePiece.unrepeated [] (pieces ++ PagePiece.ofTurn (effect?.map (repeatsAsNull pieces)) turn)
        = pieces ++ PagePiece.ofTurn (effect?.map (repeatsAsNull pieces)) turn := by
    intro pieces effect? turn same
    rw [PagePiece.unrepeated_append, same, PagePiece.unrepeated_ofTurn]
    intro sheet styled written
    rcases Option.map_eq_some_iff.mp styled with ⟨effect, _, received⟩
    rcases (PagePiece.mem_writtenAfter [] pieces).mp written with none | again
    · cases none
    · exact not_mem_of_repeatsAsNull received again
  induction recorded with
  | here => rfl
  | turns _ induction => exact adds _ _ induction
  | handsOut _ _ induction => exact induction
  | isAnswered _ _ _ induction => exact adds _ _ induction

/-! ## From the root on -/

section Opening

variable (library) (providers : Registry) (settings : Settings) (root : Value) {session : Session}

omit root in
theorem texts_push (frame : Frame) (renderer : Renderer) (session : Session) :
    (renderer.push library frame session).1.texts = [] := by
  by_cases full : renderer.settings.maxDepth ≤ renderer.frames.length
  · rw [push_of_full library full]
    rfl
  · rw [push_of_room library frame session (Nat.lt_of_not_le full)]
    rfl

theorem texts_opening (start : Renderer) (session : Session) :
    (start.opening library root session).1.texts = [] := by
  unfold opening
  cases frameOf? root session with
  | none => rfl
  | some found => exact texts_push library found.1 start found.2

theorem isRecord_opening (counts : session.emitted? context = some count) :
    IsRecord context count [] [] 0
      ((start providers settings context).opening library root session) := by
  have opens : KeepsStyles (start providers settings context) (some count)
      ((start providers settings context).opening library root session) := by
    unfold opening
    cases root with
    | element identity type attributes children =>
        have added := (Session.keptByBodies_emitted context (some count)).addRoutine counts
          .generator "element" (Element.body ⟨identity, type, attributes, children⟩)
        exact keepsStyles_push library added _
    | routine => exact keepsStyles_push library counts _
    | _ => exact keepsStyles_same counts _
  exact ⟨opens.context_eq, opens.styles_eq ▸ StyleSet.records_nil, texts_opening library root _ _,
    opens.emitted_eq⟩

/-- Styles are written once, where they are met first. At every turn of a render, the texts so far
are those of the pieces that it came across, in order, without the styles that stand further up
already. Of these pieces no two are the same style, but each style that was met is among them, with
everything before its first place before it; and so many styles have been counted in the render
context. It makes no difference to the texts, or to what the render comes to, whether the renderer
receives a style again or nothing. -/
theorem styles_written_once (counts : session.emitted? context = some count) :
    let first := (start providers settings context).opening library root session
    (∀ pieces texts elsewhere last,
      Recorded library asYielded first pieces texts elsewhere last →
        let shown := PagePiece.unrepeated [] pieces
        texts ++ last.1.texts = shown.map PagePiece.markup ∧
          (PagePiece.identities shown).Nodup ∧
          (∀ identity, identity ∈ PagePiece.identities shown
            ↔ identity ∈ PagePiece.identities pieces) ∧
          (∀ before sheet after, pieces = before ++ .style sheet :: after →
            sheet.identity ∉ PagePiece.identities before →
            ∃ rest, shown = PagePiece.unrepeated [] before ++ .style sheet :: rest) ∧
          last.2.2.emitted? context
            = some (count + (PagePiece.identities shown).length + elsewhere)) ∧
      ∀ shown texts elsewhere last,
        Recorded library repeatsAsNull first shown texts elsewhere last
          ↔ ∃ pieces, Recorded library asYielded first pieces texts elsewhere last ∧
              shown = PagePiece.unrepeated [] pieces := by
  intro first
  have starts := isRecord_opening library providers settings root counts
  refine ⟨fun pieces texts elsewhere last recorded => ?_,
    fun shown texts elsewhere last => ⟨fun recorded => ?_, ?_⟩⟩
  · have record := (recorded.exists_other silent_asYielded silent_asYielded starts).1
    refine ⟨record.texts_eq, PagePiece.nodup_identities_unrepeated [] pieces, fun identity => ?_, ?_,
      record.emitted_eq⟩
    · simp [PagePiece.mem_identities_unrepeated]
    · rintro before sheet after rfl met
      exact PagePiece.unrepeated_of_first met after
  · rcases (recorded.exists_other silent_repeatsAsNull silent_asYielded starts).2 with
      ⟨pieces, asYielded, same⟩
    exact ⟨pieces, asYielded, recorded.unrepeated_eq.symm.trans same.symm⟩
  · rintro ⟨pieces, recorded, rfl⟩
    rcases (recorded.exists_other silent_asYielded silent_repeatsAsNull starts).2 with
      ⟨shown, silenced, same⟩
    rw [← same, silenced.unrepeated_eq]
    exact silenced

end Opening

end Renderer

/-! ## Two style sheets with one text -/

namespace Sample

def sheet : Style := ⟨5, "p {}"⟩

def twin : Style := ⟨6, "p {}"⟩

/-- One render context, and a body that yields a style sheet twice and then its twin. -/
def styledSession : Session :=
  { Session.empty with
    contexts := #[.inside none none 500 none]
    routines := #[⟨.generator, .unstarted
      (.suspend (.effect (.style sheet)) fun _ => .suspend (.effect (.style sheet)) fun _ =>
        .suspend (.effect (.style twin)) fun _ => .finish (.ok .null))⟩] }

def unstyled : Renderer := .start [] Settings.standard 0

end Sample

namespace Renderer

/-- The twin is written as well, but nothing is written again. -/
theorem styles_written_once_twins :
    ∃ pieces texts last,
      Recorded [] asYielded (Sample.unstyled.opening [] Sample.page Sample.styledSession)
        pieces texts 0 last ∧
      PagePiece.identities pieces = [5, 5, 6] ∧
      texts ++ last.1.texts = ["<style>p {}</style>", "<style>p {}</style>"] ∧
      last.2.2.emitted? 0 = some 2 := by
  have counts : Sample.styledSession.emitted? 0 = some 0 := rfl
  have opened : Recorded [] asYielded
      (Sample.unstyled.opening [] Sample.page Sample.styledSession) _ _ _ (.proceed, _, _) := .here
  have written : Recorded [] asYielded _ _ _ _ (.chunk "<style>p {}</style>", _, _) := opened.turn
  have again : Recorded [] asYielded _ _ _ _ (.proceed, _, _) := (written.handsOut (.none 0 _)).turn
  have recorded := again.turn
  have shown := (styles_written_once [] [] Settings.standard Sample.page counts).1 _ _ _ _ recorded
  exact ⟨_, _, _, recorded, rfl, shown.1.trans rfl, shown.2.2.2.2.trans rfl⟩

end Renderer
end HtmlStream
