import HtmlStream.Proofs.Renderer.Agreement
import HtmlStream.Proofs.Renderer.Unlimited

/-!
The largest depth of a render is a guard and nothing else. A render with a largest depth takes the
turns of the unlimited one until a frame is to be opened beyond it; from there on bodies are only
closed. The main statement is `maxDepth_guards`.
-/
namespace HtmlStream

/-! ## Sessions that show other largest depths -/

/-- Two sessions are the same, but for the largest depths that their render contexts show; and no
body reads these. -/
structure Session.DiffersInDepth (left right : Session) : Prop where
  rest : ∃ contexts, right = { left with contexts }
  contexts : left.ContextsLookAlike (· ≠ .maxDepth) right
  readsOnly : left.ReadsOnly (· ≠ .maxDepth)

/-- What the event loop answers does not depend on the largest depths that render contexts show. -/
def LoopAnswers.IgnoreDepth (answers : LoopAnswers) : Prop :=
  ∀ wait {left right : Session}, left.DiffersInDepth right →
    Session.After Session.DiffersInDepth (answers wait left) (answers wait right)

namespace Session

/-- A change that render contexts have no part in makes no difference. -/
theorem DiffersInDepth.after {left right : Session} (differ : left.DiffersInDepth right)
    (change : Session → Session)
    (blind : ∀ contexts, change { left with contexts } = { change left with contexts })
    (contexts : (change left).contexts = left.contexts)
    (readsOnly : (change left).ReadsOnly (· ≠ .maxDepth)) :
    (change left).DiffersInDepth (change right) := by
  rcases differ with ⟨⟨others, rfl⟩, look, _⟩
  refine ⟨⟨others, blind others⟩, ?_, readsOnly⟩
  rw [blind others]
  intro index
  have here := look index
  unfold context? at here ⊢
  rwa [contexts]

theorem DiffersInDepth.modifyContext {left right : Session} (differ : left.DiffersInDepth right)
    (index : Nat) {change : RenderContext → RenderContext}
    (keeps : ∀ {context other : RenderContext}, context.LooksLike (· ≠ .maxDepth) other →
      (change context).LooksLike (· ≠ .maxDepth) (change other)) :
    (left.modifyContext index change).DiffersInDepth (right.modifyContext index change) where
  rest := by
    rcases differ.rest with ⟨contexts, rfl⟩
    exact ⟨_, rfl⟩
  contexts := differ.contexts.modifyContext index keeps
  readsOnly := differ.readsOnly

theorem renderCongruence_differsInDepth :
    RenderCongruence (· ≠ .maxDepth) DiffersInDepth where
  agrees differ := by
    rcases differ.rest with ⟨contexts, rfl⟩
    exact ⟨_, contexts, rfl⟩
  contexts := DiffersInDepth.contexts
  readsOnly := DiffersInDepth.readsOnly
  record differ event := differ.after (record · event) (fun _ => rfl) rfl differ.readsOnly
  withIdentity differ nextIdentity :=
    differ.after ({ · with nextIdentity }) (fun _ => rfl) rfl differ.readsOnly
  withRoutines differ routines readsOnly :=
    differ.after ({ · with routines }) (fun _ => rfl) rfl readsOnly
  enroll differ entry := differ.after (enroll · entry) (fun _ => rfl) rfl differ.readsOnly
  withLoop differ change := differ.after (withLoop · change) (fun _ => rfl) rfl differ.readsOnly
  withMeta differ index key value := differ.modifyContext index fun looks =>
    { looks with metadata := by simp only [RenderContext.setMeta, looks.metadata] }
  readsStack := nofun
  withLiveFrames differ count :=
    differ.after (withLiveFrames · count) (fun _ => rfl) rfl differ.readsOnly
  modifyContext differ index _ keeps := differ.modifyContext index keeps

/-- Renders with different largest depths begin in sessions that differ in nothing else. -/
theorem DiffersInDepth.enterContext {left right : Session} (differ : left.DiffersInDepth right)
    (routeName : Option String) (given : Option Bindings) (depth other : Int) :
    (left.enterContext routeName depth given).2.DiffersInDepth
      (right.enterContext routeName other given).2 := by
  rcases differ with ⟨⟨contexts, rfl⟩, look, readsOnly⟩
  have sizes : contexts.size = left.contexts.size := by
    have metadata := congrArg Array.size look.metadata_eq
    rwa [Array.size_map, Array.size_map] at metadata
  have outer : left.currentContext?.map RenderContext.metadata
      = { left with contexts }.currentContext?.map RenderContext.metadata := by
    unfold currentContext?
    cases left.current with
    | none => rfl
    | some index => exact (look.map_metadata index).symm
  refine ⟨⟨_, by unfold Session.enterContext addContext; rw [← sizes]⟩, ?_, readsOnly⟩
  intro index
  unfold Session.enterContext addContext context?
  dsimp only
  rw [Array.getElem?_push, Array.getElem?_push, sizes]
  split
  · refine .some ⟨fun _ => rfl, fun differs => absurd rfl differs, fun _ => rfl, fun _ => rfl, ?_⟩
    unfold RenderContext.inside
    rw [outer]
  · exact look index

end Session

theorem ignoreDepth_cancelling : Renderer.cancelling.IgnoreDepth :=
  fun _ _ _ differ => ⟨rfl, differ⟩

namespace Renderer

open Run

variable {library : Library} {answers : LoopAnswers}

/-! ## The same turns -/

/-- A render with a largest depth has come to what the unlimited one has come to. -/
def Accords (depth : Nat) (positive : 0 < depth) (free limited : Turned) : Prop :=
  free.2.1.frames.length ≤ depth ∧ ∃ later, free.2.2.DiffersInDepth later ∧
    limited = (free.1, free.2.1.withDepth depth positive, later)

/-- The unlimited render has opened a frame on as many others as the largest depth allows, and a
render with this depth has tried to. -/
def IsRefused (library : Library) (depth : Nat) (positive : 0 < depth) (free limited : Turned) :
    Prop :=
  ∃ (frame : Frame) (opener : Renderer) (between : Session),
    free = (.proceed, opener.withFrames (frame :: opener.frames),
      between.enterFrame opener.context frame) ∧
    opener.frames.length = depth ∧
    IsAlike Session.DiffersInDepth
      ((opener.withDepth depth positive).push library frame between) limited

theorem accords_or_isRefused {intent : Intent} {depth room : Nat} {positive : 0 < depth}
    {limited : Turned} (within : intent.frames.length ≤ depth) (roomy : intent.frames.length < room)
    (alike : IsAlike Session.DiffersInDepth (intent.within library depth positive) limited) :
    let free := intent.within library room (Nat.zero_lt_of_lt roomy)
    Accords depth positive free limited ∨ IsRefused library depth positive free limited := by
  intro free
  rcases limited with ⟨turn, renderer, later⟩
  cases intent with
  | settles turned =>
      rcases alike with ⟨rfl, rfl, differ⟩
      exact .inl ⟨within, later, differ, rfl⟩
  | opens frame opener session =>
      have opened : free = (.proceed, (opener.withDepth room _).withFrames (frame :: opener.frames),
          session.enterFrame opener.context frame) :=
        push_of_room library frame session roomy
      rcases Nat.lt_or_eq_of_le within with less | full
      · have pushed : Intent.within library depth positive (.opens frame opener session)
            = (.proceed, (opener.withDepth depth positive).withFrames (frame :: opener.frames),
              session.enterFrame opener.context frame) :=
          push_of_room library frame session less
        rw [pushed] at alike
        rcases alike with ⟨rfl, rfl, differ⟩
        rw [opened]
        exact .inl ⟨less, later, differ, rfl⟩
      · exact .inr ⟨frame, opener.withDepth room _, session, opened, full, alike⟩

/-! ## A whole render -/

variable (readable : library.ReadsOnly (· ≠ .maxDepth)) (ignore : answers.IgnoreDepth)
  {start : Renderer} (empty : start.frames = []) (root : Value) {left right : Session}
  (differ : left.DiffersInDepth right) {depth : Nat} (positive : 0 < depth)

/-- The limited render has come to where the unlimited one is, and has handed out the same texts. -/
def Follows (library : Library) (answers : LoopAnswers) (depth : Nat) (positive : 0 < depth)
    (first : Turned) (reached : List String × Turned) : Prop :=
  ∃ limited, Accords depth positive reached.2 limited ∧
    continued library answers first
      = (continued library answers limited).map (Transcript.after · reached.1)

/-- The unlimited render has opened a frame that the limited one is refused after the same texts. -/
def FallsShort (library : Library) (answers : LoopAnswers) (depth : Nat) (positive : 0 < depth)
    (first : Turned) (reached : List String × Turned) : Prop :=
  ∃ limited, IsRefused library depth positive reached.2 limited ∧
    continued library answers first
      = (continued library answers limited).map (Transcript.after · reached.1)

include readable differ in
theorem isAlike_opening (renderer : Renderer) :
    IsAlike Session.DiffersInDepth (renderer.opening library root left)
      (renderer.opening library root right) := by
  have congruence := Session.renderCongruence_differsInDepth
  unfold opening
  rcases frameOf?_alike congruence differ root with
    ⟨onLeft, onRight⟩ | ⟨frame, leftAfter, rightAfter, onLeft, onRight, differAfter⟩
  · rw [onLeft, onRight]
    exact ⟨rfl, rfl, differ⟩
  · rw [onLeft, onRight]
    exact isAlike_push readable congruence differAfter renderer frame

include readable ignore in
/-- From where the limited render accords with the unlimited one, its next turn does as well, unless
it is refused a frame. -/
theorem accords_or_isRefused_turn {renderer : Renderer} (ready : AreReady renderer.frames)
    (within : renderer.frames.length ≤ depth) {session later : Session}
    (differ : session.DiffersInDepth later) :
    let free := answering library answers (renderer.withRoom.turn library session)
    let limited :=
      answering library answers ((renderer.withDepth depth positive).turn library later)
    Accords depth positive free limited ∨ IsRefused library depth positive free limited := by
  rcases exists_intent_of_turn ready session with ⟨intent, few, taken⟩
  have alike := isAlike_answering readable Session.renderCongruence_differsInDepth differ
    (renderer.withDepth depth positive) ignore
  have free : answering library answers (renderer.withRoom.turn library session)
      = intent.within library (renderer.frames.length + 1) (Nat.succ_pos _) :=
    taken _ _
  rw [taken] at alike
  rw [free]
  exact accords_or_isRefused (few.trans within) (Nat.lt_succ_of_le few) alike

include readable ignore in
theorem follows_or_fallsShort {first : Turned} {reached : List String × Turned}
    (follows : Follows library answers depth positive first reached)
    (ready : reached.2.1.GoesOn → AreReady reached.2.2.1.frames) :
    Follows library answers depth positive first (goOnFreely library answers reached) ∨
      FallsShort library answers depth positive first (goOnFreely library answers reached) := by
  rcases reached with ⟨texts, turn, renderer, session⟩
  rcases follows with ⟨_, ⟨within, later, differ, rfl⟩, same⟩
  cases turn with
  | proceed =>
      rw [continued_proceed] at same
      rcases accords_or_isRefused_turn readable ignore positive (ready trivial) within differ with
        accords | refused
      · exact .inl ⟨_, accords, same⟩
      · exact .inr ⟨_, refused, same⟩
  | chunk text =>
      refine .inl ⟨(.proceed, renderer.withDepth depth positive, later),
        ⟨within, later, differ, rfl⟩, ?_⟩
      rw [same, continued_chunk, Option.map_map]
      exact congrArg (Option.map · _) (funext fun rest => rest.after_after texts [text])
  | wait | finished | failed => exact .inl ⟨_, ⟨within, later, differ, rfl⟩, same⟩

include readable ignore empty differ

/-- The limited render comes to whatever the unlimited one comes to, until it is refused a frame.
The induction is on the turns of the unlimited render. -/
theorem follows_or_has_fallen_short (turns : Nat) :
    let first := (start.withDepth depth positive).opening library root right
    Follows library answers depth positive first
        (unlimited library answers start root left turns) ∨
      ∃ earlier ≤ turns, FallsShort library answers depth positive first
        (unlimited library answers start root left earlier) := by
  intro first
  induction turns with
  | zero =>
      rcases exists_intent_of_opening library start root left with ⟨intent, none, opened⟩
      have alike := isAlike_opening readable root differ (start.withDepth depth positive)
      rw [opened] at alike
      have few : intent.frames.length = 0 := by rw [none, empty]; rfl
      have free : (unlimited library answers start root left 0).2
          = intent.within library (start.frames.length + 1) (Nat.succ_pos _) :=
        opened _ _
      have same : continued library answers first
          = (continued library answers first).map (Transcript.after · []) :=
        Option.map_id'.symm
      have roomy : intent.frames.length < start.frames.length + 1 := few ▸ Nat.succ_pos _
      unfold Follows FallsShort
      rcases accords_or_isRefused (few ▸ Nat.zero_le depth) roomy alike with accords | refused
      · rw [← free] at accords
        exact .inl ⟨first, accords, same⟩
      · rw [← free] at refused
        exact .inr ⟨0, Nat.le_refl 0, first, refused, same⟩
  | succ turns induction =>
      rcases induction with follows | ⟨earlier, before, short⟩
      · rcases follows_or_fallsShort readable ignore positive follows
          (areReady_unlimited library answers root left empty turns) with follows | short
        · exact .inl follows
        · exact .inr ⟨turns + 1, Nat.le_refl _, short⟩
      · exact .inr ⟨earlier, Nat.le_succ_of_le before, short⟩

omit readable ignore empty differ

/-! ## How renders end -/

/-- Close a frame that there is no room for, and then the live ones. The first result is what is
raised last, if anything. -/
def refuse (library : Library) (renderer : Renderer) (frame : Frame) (session : Session) :
    Option Failure × Session :=
  let refused := session.closeFrame library frame
  let closed := refused.2.closeFrames library renderer.context renderer.frames
  (closed.1.or refused.1, closed.2.2)

include readable in
/-- A render that is refused a frame closes it and the live ones, and fails. -/
theorem exists_continued_of_full (answers : LoopAnswers) {renderer : Renderer}
    (full : renderer.settings.maxDepth ≤ renderer.frames.length) {frame : Frame}
    {session : Session} {limited : Turned}
    (alike : IsAlike Session.DiffersInDepth (renderer.push library frame session) limited) :
    ∃ after, (renderer.refuse library frame session).2.DiffersInDepth after ∧
      continued library answers limited
        = some ⟨[], some ((renderer.refuse library frame session).1.getD
            (.engine (.depthExceeded renderer.settings.maxDepth none
              (renderer.labels (session.closeFrame library frame).2)))), after⟩ := by
  have fails : renderer.push library frame session
      = (.failed ((session.closeFrame library frame).1.getD
          (.engine (.depthExceeded renderer.settings.maxDepth none
            (renderer.labels (session.closeFrame library frame).2)))), renderer,
        (session.closeFrame library frame).2) := by
    unfold push
    rw [if_pos full]
    rcases session.closeFrame library frame with ⟨_ | failure, refused⟩ <;> rfl
  rcases alike.exists with ⟨turn, _, _, later, pushed, rfl, differ⟩
  cases fails.symm.trans pushed
  have closes := Session.isAlike_closeFrames readable Session.renderCongruence_differsInDepth
    differ renderer.context renderer.frames
  refine ⟨_, closes.2.2, ?_⟩
  rw [continued_failed]
  dsimp only
  rw [← closes.1]
  unfold refuse
  rw [Option.getD_or]


theorem length_le_of_peak_le (enough : peak library answers start root left ≤ depth)
    (turns : Nat) : (unlimited library answers start root left turns).2.2.1.frames.length ≤ depth :=
  Nat.cast_le.mp ((le_iSup _ turns).trans enough)

theorem not_isRefused_of_within {free limited : Turned} (within : free.2.1.frames.length ≤ depth) :
    ¬ IsRefused library depth positive free limited := by
  rintro ⟨frame, opener, between, rfl, full, _⟩
  have more : opener.frames.length + 1 ≤ depth := within
  omega

include readable in
/-- Where the unlimited render ends, one with a largest depth does that has followed it. -/
theorem continued_of_endsUnlimited {first : Turned}
    (follows : ∀ turns, Follows library answers depth positive first
      (unlimited library answers start root left turns))
    {texts : List String} {failure? : Option Failure}
    (ends : EndsUnlimited library answers start root left texts failure?) :
    ∃ after, continued library answers first = some ⟨texts, failure?, after⟩ := by
  cases ends with
  | @finishes turns texts renderer last reached =>
      have there := follows turns
      rw [reached] at there
      rcases there with ⟨_, ⟨_, later, _, rfl⟩, same⟩
      exact ⟨later, same.trans (congrArg some (Transcript.after_texts _ later texts))⟩
  | @fails turns texts renderer last failure reached =>
      have there := follows turns
      rw [reached] at there
      rcases there with ⟨_, ⟨_, later, differ, rfl⟩, same⟩
      rw [continued_failed] at same
      have closes := Session.isAlike_closeFrames readable Session.renderCongruence_differsInDepth
        differ renderer.context renderer.frames
      refine ⟨(later.closeFrames library renderer.context renderer.frames).2.2, same.trans ?_⟩
      rw [closes.1]
      exact congrArg some (Transcript.after_texts _ _ texts)

include readable ignore empty in
/-- Where there is room for all frames, the next turn of the limited render accords with that of the
unlimited one. -/
theorem accords_turn_of_within (within : ∀ turns,
      (unlimited library answers start root left turns).2.2.1.frames.length ≤ depth)
    {turns : Nat} {texts : List String} {renderer : Renderer} {session later : Session}
    (reached : unlimited library answers start root left turns
      = (texts, .proceed, renderer, session))
    (differ : session.DiffersInDepth later) :
    Accords depth positive (answering library answers (renderer.withRoom.turn library session))
      (answering library answers ((renderer.withDepth depth positive).turn library later)) := by
  have ready := areReady_unlimited library answers root left empty turns
    (by rw [reached]; trivial)
  have fits := within turns
  have more := within (turns + 1)
  rw [reached] at ready fits
  rw [unlimited_succ_of_proceed reached] at more
  exact (accords_or_isRefused_turn readable ignore positive ready fits differ).resolve_right
    (not_isRefused_of_within positive more)

include readable ignore empty in
/-- If a render with a largest depth comes to its end where there is room for all frames, the
unlimited one does. The induction is on the turns that the render with a largest depth still has. -/
theorem exists_endsUnlimited (within : ∀ turns,
      (unlimited library answers start root left turns).2.2.1.frames.length ≤ depth)
    {before : Renderer × Session} (ends : Acc (LeadsTo library answers) before) {turns : Nat}
    {texts : List String} {renderer : Renderer} {session : Session}
    (reached : unlimited library answers start root left turns
      = (texts, .proceed, renderer, session))
    (same : before.1 = renderer.withDepth depth positive)
    (differ : session.DiffersInDepth before.2) :
    ∃ texts failure?, EndsUnlimited library answers start root left texts failure? := by
  induction ends generalizing turns texts renderer session with
  | intro before _ induction =>
      rcases before with ⟨_, later⟩
      cases same
      have accords :=
        accords_turn_of_within readable ignore empty root positive within reached differ
      have next := unlimited_succ_of_proceed reached
      have never := unlimited_ne_wait library answers root left empty (turns + 1)
      rw [next] at never
      generalize answering library answers (renderer.withRoom.turn library session) = free
        at accords next never
      rcases free with ⟨turn, opened, after⟩
      rcases accords with ⟨_, afterLimited, differAfter, taken⟩
      have leads (goesOn : turn.GoesOn) : LeadsTo library answers
          (opened.withDepth depth positive, afterLimited)
          (renderer.withDepth depth positive, later) := by
        unfold LeadsTo
        rw [taken]
        exact ⟨goesOn, rfl⟩
      cases turn with
      | proceed => exact induction _ (leads trivial) next rfl differAfter
      | chunk text =>
          exact induction _ (leads trivial) (unlimited_succ_of_chunk next) rfl differAfter
      | wait wait => exact absurd rfl (never wait)
      | finished => exact ⟨_, _, .finishes next⟩
      | failed failure => exact ⟨_, _, .fails next⟩

include readable ignore empty differ in
/-- Where there is room for all frames, the unlimited render ends if a limited one does. -/
theorem exists_endsUnlimited_of_acc (within : ∀ turns,
      (unlimited library answers start root left turns).2.2.1.frames.length ≤ depth)
    (ends : ∀ renderer session, AreReady renderer.frames →
      (start.withDepth depth positive).opening library root right = (.proceed, renderer, session) →
      Acc (LeadsTo library answers) (renderer, session)) :
    ∃ texts failure?, EndsUnlimited library answers start root left texts failure? := by
  cases framed : frameOf? root left with
  | none =>
      have reached : unlimited library answers start root left 0
          = ([], .failed (.engine (.invalidComponent root root)), start.withRoom, left) := by
        unfold unlimited opening
        rw [framed]
      exact ⟨_, _, .fails reached⟩
  | some found =>
      let opened := start.withFrames (found.1 :: start.frames)
      have reached : unlimited library answers start root left 0
          = ([], .proceed, opened.withDepth (start.frames.length + 1) (Nat.succ_pos _),
            found.2.enterFrame start.context found.1) :=
        congrArg (Prod.mk []) (opening_of_room framed (Nat.lt_succ_self _))
      have ready : AreReady (opened.withDepth depth positive).frames := by
        have first := areReady_unlimited library answers root left empty 0
          (by rw [reached]; trivial)
        rwa [reached] at first
      have alike := isAlike_opening readable root differ (start.withDepth depth positive)
      have onLeft : (start.withDepth depth positive).opening library root left
          = (.proceed, opened.withDepth depth positive,
            found.2.enterFrame start.context found.1) := by
        have room : start.frames.length < depth := empty ▸ positive
        exact opening_of_room framed room
      rw [onLeft] at alike
      rcases alike.exists with ⟨_, _, _, later, same, onRight, differ⟩
      cases same
      exact exists_endsUnlimited readable ignore empty root positive within
        (ends _ later ready onRight) reached rfl differ

include readable ignore empty differ in
/-- With a largest depth that is enough, a render does what the unlimited one does. -/
theorem follows_of_peak_le (enough : peak library answers start root left ≤ depth) (turns : Nat) :
    Follows library answers depth positive
      ((start.withDepth depth positive).opening library root right)
      (unlimited library answers start root left turns) :=
  (follows_or_has_fallen_short readable ignore empty root differ positive turns).resolve_right
    fun ⟨earlier, _, _, refused, _⟩ =>
      not_isRefused_of_within positive (length_le_of_peak_le root enough earlier) refused

include readable ignore empty differ in
theorem transcript_iff_of_peak_le (enough : peak library answers start root left ≤ depth)
    (texts : List String) (failure? : Option Failure) :
    (∃ after, (Run.start (start.withDepth depth positive) root).transcript library answers
        (.ok .null) right = some ⟨texts, failure?, after⟩) ↔
      EndsUnlimited library answers start root left texts failure? := by
  have limitedEnds {texts : List String} {failure? : Option Failure}
      (ends : EndsUnlimited library answers start root left texts failure?) :
      ∃ after, continued library answers ((start.withDepth depth positive).opening library root
        right) = some ⟨texts, failure?, after⟩ :=
    continued_of_endsUnlimited readable root positive
      (follows_of_peak_le readable ignore empty root differ positive enough) ends
  rw [transcript_eq_continued library answers (show (start.withDepth depth positive).frames = []
    from empty)]
  refine ⟨fun ⟨after, given⟩ => ?_, limitedEnds⟩
  have acc (renderer : Renderer) (session : Session) (ready : AreReady renderer.frames)
      (opened : (start.withDepth depth positive).opening library root right
        = (.proceed, renderer, session)) :
      Acc (LeadsTo library answers) (renderer, session) := by
    rw [opened] at given
    exact acc_of_continued library ready given
  rcases exists_endsUnlimited_of_acc readable ignore empty root differ positive
    (length_le_of_peak_le root enough) acc with ⟨others, other?, ends⟩
  rcases limitedEnds ends with ⟨last, shown⟩
  cases given.symm.trans shown
  exact ends

include readable ignore empty differ in
/-- With a largest depth that is enough for all its frames, a render ends. -/
theorem isSome_transcript_of_peak_le (faithful : answers.IsFaithful)
    (enough : peak library answers start root left ≤ depth) :
    ((Run.start (start.withDepth depth positive) root).transcript library answers
      (.ok .null) right).isSome := by
  rcases exists_endsUnlimited_of_acc readable ignore empty root differ positive
    (length_le_of_peak_le root enough)
    (fun _ session ready _ => acc_leadsTo library faithful ready session) with
    ⟨texts, failure?, ends⟩
  rcases (transcript_iff_of_peak_le readable ignore empty root differ positive enough texts
    failure?).mpr ends with ⟨after, given⟩
  rw [given]
  rfl

/-- What the unlimited render does when it first has more live frames than a depth allows: after the
texts that it has handed out, it opens a frame on as many others as are allowed. -/
structure FirstExceeds (library : Library) (answers : LoopAnswers) (start : Renderer)
    (root : Value) (session : Session) (depth : Nat) (texts : List String) (frame : Frame)
    (opener : Renderer) (between : Session) : Prop where
  full : opener.frames.length = depth
  first : ∃ turns,
    unlimited library answers start root session turns
      = (texts, .proceed, opener.withFrames (frame :: opener.frames),
          between.enterFrame opener.context frame) ∧
    ∀ earlier < turns,
      (unlimited library answers start root session earlier).2.2.1.frames.length ≤ depth

/-- All texts of the unlimited render begin with those from before a depth is exceeded. -/
theorem FirstExceeds.texts_prefix {texts : List String} {frame : Frame} {opener : Renderer}
    {between : Session}
    (exceeds : FirstExceeds library answers start root left depth texts frame opener between)
    {complete : List String} {failure? : Option Failure}
    (ends : EndsUnlimited library answers start root left complete failure?) :
    texts <+: complete := by
  rcases exceeds.first with ⟨turns, reached, _⟩
  have early := texts_prefix_of_endsUnlimited library answers start root left ends turns
  rwa [reached] at early

include readable ignore empty differ in
/-- With a smaller depth, a render is refused the first frame that the unlimited one opens beyond
it. -/
theorem exists_refused_of_lt_peak (short : depth < peak library answers start root left) :
    ∃ (texts : List String) (frame : Frame) (opener : Renderer) (between after : Session),
      FirstExceeds library answers start root left depth texts frame opener between ∧
      (opener.refuse library frame between).2.DiffersInDepth after ∧
      (Run.start (start.withDepth depth positive) root).transcript library answers (.ok .null) right
        = some ⟨texts, some ((opener.refuse library frame between).1.getD
            (.engine (.depthExceeded depth none
              (opener.labels (between.closeFrame library frame).2)))), after⟩ := by
  have deeper : ∃ turns,
      depth < (unlimited library answers start root left turns).2.2.1.frames.length :=
    (lt_iSup_iff.mp short).imp fun _ deeper => Nat.cast_lt.mp deeper
  rcases follows_or_has_fallen_short readable ignore empty root differ positive (Nat.find deeper)
    with ⟨_, ⟨within, _⟩, _⟩ | ⟨turns, atMost, limited, ⟨frame, opener, between, free, full, alike⟩,
      same⟩
  · exact absurd (Nat.find_spec deeper) (Nat.not_lt.mpr within)
  · have reached : unlimited library answers start root left turns
        = (_, .proceed, opener.withFrames (frame :: opener.frames),
          between.enterFrame opener.context frame) := Prod.ext rfl free
    have exceeds : FirstExceeds library answers start root left depth _ frame opener between :=
      ⟨full, turns, reached, fun earlier before =>
        Nat.not_lt.mp (Nat.find_min deeper (before.trans_le atMost))⟩
    rcases exists_continued_of_full readable answers (Nat.le_of_eq full.symm) alike with
      ⟨after, differAfter, fails⟩
    refine ⟨_, frame, opener, between, after, exceeds, differAfter, ?_⟩
    rw [transcript_eq_continued library answers (show (start.withDepth depth positive).frames = []
      from empty), same, fails, Option.map_some, Transcript.after_texts]
    rfl

/-- The largest depth of a render is a guard and nothing else. With a depth that is enough for all
frames of the unlimited render, it hands out the same texts and ends in the same way; and it ends,
unless the event loop goes on forever. With a smaller one it hands out the same texts until a frame
is to be opened beyond the depth. Then this frame and the live ones are closed; nothing else happens
to any body, and unless that raises something, the render fails because its depth is exceeded. -/
theorem maxDepth_guards (readable : library.ReadsOnly (· ≠ .maxDepth))
    (ignore : answers.IgnoreDepth) (empty : start.frames = []) (root : Value)
    (differ : left.DiffersInDepth right) (positive : 0 < depth) :
    let limited := (Run.start (start.withDepth depth positive) root).transcript library answers
      (.ok .null) right
    (peak library answers start root left ≤ depth →
      (∀ texts failure?, (∃ after, limited = some ⟨texts, failure?, after⟩) ↔
        EndsUnlimited library answers start root left texts failure?) ∧
      (answers.IsFaithful → limited.isSome)) ∧
    (depth < peak library answers start root left →
      ∃ (texts : List String) (frame : Frame) (opener : Renderer) (between after : Session),
        FirstExceeds library answers start root left depth texts frame opener between ∧
        (∀ complete failure?, EndsUnlimited library answers start root left complete failure? →
          texts <+: complete) ∧
        (opener.refuse library frame between).2.DiffersInDepth after ∧
        limited = some ⟨texts, some ((opener.refuse library frame between).1.getD
          (.engine (.depthExceeded depth none
            (opener.labels (between.closeFrame library frame).2)))), after⟩) := by
  intro limited
  constructor
  · intro enough
    exact ⟨transcript_iff_of_peak_le readable ignore empty root differ positive enough,
      fun faithful =>
        isSome_transcript_of_peak_le readable ignore empty root differ positive faithful enough⟩
  · intro short
    rcases exists_refused_of_lt_peak readable ignore empty root differ positive short with
      ⟨texts, frame, opener, between, after, exceeds, closed, given⟩
    exact ⟨texts, frame, opener, between, after, exceeds,
      fun _ _ ends => exceeds.texts_prefix root ends, closed, given⟩

/-- A paragraph in a section takes two frames. With a largest depth of one, only the section
begins. -/
theorem maxDepth_guards_paragraph :
    let page : Value := .element 1 (.text "div") [] [.element 2 (.text "p") [] []]
    let start : Renderer := .start [] Settings.standard 0
    1 < peak [] cancelling start page (Session.empty.enterContext none 500 none).2 ∧
    ∃ after, (Run.start (start.withDepth 1 Nat.one_pos) page).transcript [] cancelling (.ok .null)
        (Session.empty.enterContext none 1 none).2
      = some ⟨["<div>"], some (.engine (.depthExceeded 1 none [])), after⟩ := by
  intro page start
  have same : Session.empty.DiffersInDepth Session.empty :=
    ⟨⟨_, rfl⟩, Session.contextsLookAlike_of_eq rfl, fun _ _ found => nomatch found⟩
  have differ := same.enterContext none none 500 1
  have two : (unlimited [] cancelling start page
      (Session.empty.enterContext none 500 none).2 3).2.2.1.frames.length = 2 := by cbv
  have short : 1 < peak [] cancelling start page (Session.empty.enterContext none 500 none).2 := by
    have deep : ((2 : Nat) : ℕ∞)
        ≤ peak [] cancelling start page (Session.empty.enterContext none 500 none).2 := by
      rw [← two]
      exact le_iSup (fun turns => ((unlimited [] cancelling start page _ turns).2.2.1.frames.length
        : ℕ∞)) 3
    exact lt_of_lt_of_le (by decide) deep
  have guards := maxDepth_guards (fun _ member => absurd member List.not_mem_nil)
    ignoreDepth_cancelling (show start.frames = [] from rfl) page differ Nat.one_pos
  rcases guards.2 short with
    ⟨texts, frame, opener, between, after, ⟨full, turns, reached, first⟩, _, _, given⟩
  -- The fourth turn of the unlimited render is the first with two frames, so it is the one given.
  have one (turns : Nat) (before : turns < 3) : (unlimited [] cancelling start page
      (Session.empty.enterContext none 500 none).2 turns).2.2.1.frames.length = 1 := by
    rcases turns with _ | _ | _ | turns
    · rfl
    · rfl
    · cbv
    · omega
  have third : turns = 3 := by
    rcases Nat.lt_trichotomy turns 3 with less | same | more
    · have count := one turns less
      rw [reached] at count
      cases Nat.succ.inj count ▸ full
    · exact same
    · exact absurd (first 3 more) (by rw [two]; decide)
  subst third
  rcases opener with ⟨providers, settings, context, written, live⟩
  cbv at reached
  cases reached
  refine ⟨short, after, given.trans ?_⟩
  cbv

end Renderer
end HtmlStream
