import HtmlStream.Proofs.Route.Reaching
import Mathlib

/-!
What a buffer makes of the texts of a run. It only joins texts that follow each other: a consumer
receives them in groups, each released as soon as it is long enough, and loses what was not released
yet if the run fails. The main statement is `delivers_of_perCharacter`.
-/
namespace HtmlStream

namespace TextBuffer

/-- What a buffer releases of the texts that a run hands out, and of what it still holds if the run
ends without a failure. -/
def regrouped (buffer : TextBuffer) (ended : Bool) : List String → List String
  | [] => if ended then buffer.remainder?.toList else []
  | text :: rest =>
      (buffer.accept text).1.toList ++ (buffer.accept text).2.regrouped ended rest

end TextBuffer

/-- Texts in groups that follow each other, as a buffer with a threshold releases them. What is held
at the end is no group. -/
structure IsGrouped (threshold : Nat) (failed : Bool) (texts : List String)
    (groups : List (List String)) (held : List String) : Prop where
  texts_eq : texts = groups.flatten ++ held
  /-- Only the last group may be shorter. -/
  long : ∀ group ∈ groups.dropLast, threshold ≤ (String.join group).length
  nonempty : ∀ group ∈ groups, String.join group ≠ ""
  /-- No group could have been released before its last text. -/
  prompt : ∀ group ∈ groups, (String.join group.dropLast).length < threshold
  short : (String.join held).length < threshold
  complete : failed = false → String.join held = ""

namespace TextBuffer

theorem regrouped_of_zero (ended : Bool) (texts : List String) :
    (empty 0).regrouped ended texts = texts := by
  induction texts with
  | nil => cases ended <;> rfl
  | cons text rest induction =>
      have released : (empty 0).accept text = (some text, empty 0) := by
        simp [accept, empty]
      rw [regrouped, released, induction]
      rfl

/-- Text that leaves less than the threshold pending is held back. -/
theorem accept_of_short {threshold : Nat} {held : List String} {text : String}
    (short : (String.join (held ++ [text])).length < threshold) :
    (TextBuffer.mk threshold (String.join held)).accept text
      = (none, ⟨threshold, String.join (held ++ [text])⟩) := by
  have joined : String.join (held ++ [text]) = String.join held ++ text := by simp
  rw [joined] at short ⊢
  exact if_neg (Nat.not_le.mpr short)

theorem accept_of_long {threshold : Nat} {held : List String} {text : String}
    (long : threshold ≤ (String.join (held ++ [text])).length) :
    (TextBuffer.mk threshold (String.join held)).accept text
      = (some (String.join (held ++ [text])), ⟨threshold, String.join []⟩) := by
  have joined : String.join (held ++ [text]) = String.join held ++ text := by simp
  rw [joined] at long ⊢
  exact if_pos long

end TextBuffer

theorem IsGrouped.cons {threshold : Nat} {failed : Bool} {texts first : List String} {last : String}
    {groups : List (List String)} {held : List String} (positive : 0 < threshold)
    (long : threshold ≤ (String.join (first ++ [last])).length)
    (prompt : (String.join first).length < threshold)
    (rest : IsGrouped threshold failed texts groups held) :
    IsGrouped threshold failed (first ++ last :: texts) ((first ++ [last]) :: groups) held where
  texts_eq := by simp [rest.texts_eq]
  long := by
    intro group member
    cases groups with
    | nil => cases member
    | cons next later =>
        rcases List.mem_cons.mp member with rfl | member
        · exact long
        · exact rest.long group member
  nonempty := by
    intro group member
    rcases List.mem_cons.mp member with rfl | member
    · intro none
      rw [none] at long
      exact absurd long (Nat.not_le.mpr positive)
    · exact rest.nonempty group member
  prompt := by
    intro group member
    rcases List.mem_cons.mp member with rfl | member
    · rwa [List.dropLast_concat]
    · exact rest.prompt group member
  short := rest.short
  complete := rest.complete

theorem join_flatten (groups : List (List String)) :
    String.join groups.flatten = String.join (groups.map String.join) := by
  induction groups with
  | nil => rfl
  | cons first rest induction => simp [induction]

theorem length_join_dropLast_le (texts : List String) :
    (String.join texts.dropLast).length ≤ (String.join texts).length := by
  rcases List.eq_nil_or_concat texts with rfl | ⟨first, last, rfl⟩
  · exact Nat.le_refl _
  · simp

/-- The texts that are held when the run ends are one more group, unless there is nothing in them. -/
theorem IsGrouped.last {threshold : Nat} {held : List String}
    (short : (String.join held).length < threshold) :
    IsGrouped threshold false held (if String.join held = "" then [] else [held])
      (if String.join held = "" then held else []) := by
  split
  · next nothing => exact ⟨by simp, by simp, by simp, by simp, short, fun _ => nothing⟩
  · next something =>
      have promptly := Nat.lt_of_le_of_lt (length_join_dropLast_le held) short
      have alone : ∀ {group}, group ∈ [held] → group = held := List.mem_singleton.mp
      exact ⟨by simp, by simp, fun _ member => alone member ▸ something,
        fun _ member => alone member ▸ promptly, Nat.zero_lt_of_lt short, fun _ => rfl⟩

/-- The groups that a buffer releases, beginning with what it holds. The induction is on the texts
that are still to come. -/
theorem TextBuffer.exists_groups {threshold : Nat} (positive : 0 < threshold) (ended : Bool)
    (held : List String) (short : (String.join held).length < threshold) (texts : List String) :
    ∃ groups remaining, IsGrouped threshold (!ended) (held ++ texts) groups remaining ∧
      (TextBuffer.mk threshold (String.join held)).regrouped ended texts
        = groups.map String.join := by
  induction texts generalizing held with
  | nil =>
      cases ended with
      | false => exact ⟨[], held, ⟨by simp, by simp, by simp, by simp, short, by simp⟩, rfl⟩
      | true =>
          rw [List.append_nil]
          refine ⟨_, _, .last short, ?_⟩
          by_cases nothing : String.join held = "" <;> simp [regrouped, remainder?, nothing]
  | cons text rest induction =>
      rw [regrouped]
      by_cases long : threshold ≤ (String.join (held ++ [text])).length
      · rw [accept_of_long long]
        rcases induction [] positive with ⟨groups, remaining, grouped, shown⟩
        refine ⟨_, remaining, grouped.cons positive long short, ?_⟩
        rw [shown]
        rfl
      · have stillShort := Nat.lt_of_not_le long
        rw [accept_of_short stillShort]
        rcases induction (held ++ [text]) stillShort with ⟨groups, remaining, grouped, shown⟩
        rw [List.append_assoc] at grouped
        exact ⟨groups, remaining, grouped, shown⟩

namespace ByteStream

open Run

variable {library : Library} {texts : List String} {failure? : Option Failure}
  {bytesIn : String → Bytes}

/-- What the buffer still holds is one more chunk if it can be encoded. -/
theorem remains_of_encodes {stream : ByteStream} {buffer : TextBuffer}
    (encodes : ∀ chunk ∈ buffer.remainder?.toList, stream.encode chunk = .ok (bytesIn chunk)) :
    stream.remains buffer = (buffer.remainder?.toList.map bytesIn, none) := by
  unfold remains
  cases remaining : buffer.remainder? with
  | none => rfl
  | some chunk =>
      have encoded : stream.encode chunk = .ok (bytesIn chunk) :=
        encodes chunk (remaining ▸ List.mem_cons_self)
      dsimp only
      rw [encoded]
      rfl

/-- A stream gives what its buffer makes of the texts that the run hands out, each of its chunks
encoded, and ends as the run does. The induction is on the run. -/
theorem gives_of_hands {stream : ByteStream} {run : Run} {reply : Reply} {session : Session}
    (hands : run.Hands library stream.mode reply session texts failure?) (buffer : TextBuffer)
    (context : Nat) (outer : Option Nat)
    (encodes : ∀ chunk ∈ buffer.regrouped failure?.isNone texts,
      stream.encode chunk = .ok (bytesIn chunk)) :
    ∃ last, stream.Gives library reply (.rendering ⟨run, buffer, context, outer⟩) session
      ((buffer.regrouped failure?.isNone texts).map bytesIn) failure? last := by
  induction hands generalizing buffer with
  | @text reply run next session after text texts failure? handed later induction =>
      rw [TextBuffer.regrouped] at encodes ⊢
      rcases accepted : buffer.accept text with ⟨_ | released, kept⟩
      · rw [accepted] at encodes
        rcases induction kept encodes with ⟨last, gives⟩
        exact ⟨last, gives.of_next_eq (next_of_held library handed accepted)⟩
      · rw [accepted] at encodes
        have first : stream.encode released = .ok (bytesIn released) :=
          encodes released List.mem_cons_self
        rcases induction kept fun chunk member =>
          encodes chunk (List.mem_cons_of_mem released member) with ⟨last, gives⟩
        exact ⟨last, .chunk (next_of_released library handed accepted first) gives⟩
  | waits handed later induction =>
      rcases induction buffer encodes with ⟨last, gives⟩
      exact ⟨last, .waits (next_of_waits library handed) gives⟩
  | finishes handed =>
      have gives := gives_of_drain
        (next_of_finished library stream ⟨_, buffer, context, outer⟩ handed)
      rw [remains_of_encodes encodes] at gives
      exact ⟨_, gives⟩
  | fails handed =>
      rcases next_of_failed library stream ⟨_, buffer, context, outer⟩ handed with
        ⟨later, last, failed⟩
      exact ⟨last, .fails failed⟩

/-- From the beginning of a render on, the stream of a route gives the regrouped texts. -/
theorem gives_of_route {route : Route} {mode : RenderMode} {session : Session}
    (hands : route.Hands library mode session texts failure?)
    (encodes : ∀ chunk ∈ (TextBuffer.empty route.settings.bufferSize).regrouped failure?.isNone
      texts, (ofRoute route mode).encode chunk = .ok (bytesIn chunk)) :
    ∃ last, (ofRoute route mode).Gives library (.ok .null) .unstarted session
      (((TextBuffer.empty route.settings.bufferSize).regrouped failure?.isNone texts).map bytesIn)
      failure? last := by
  rcases hands with ⟨⟨run, buffer, context, outer⟩, entered, began, hands⟩
  have buffered : buffer = .empty route.settings.bufferSize := by
    unfold enter at began
    dsimp only at began
    split at began
    · cases began
    · cases began
      rfl
  subst buffered
  rcases gives_of_hands hands _ context outer encodes with ⟨last, gives⟩
  refine ⟨last, gives.of_next_eq ?_⟩
  rw [next_rendering]
  show (ofRoute route mode).begin library session = _
  unfold begin
  rw [began]

end ByteStream

/-- With an event loop or without one, the consumer of a render that hands out these texts receives
these chunks, and the failure of the render if it fails. -/
def Route.Delivers (library : Library) (route : Route) (texts : List String)
    (failure? : Option Failure) (chunks : List Bytes) : Prop :=
  ∀ mode session, route.Hands library mode session texts failure? →
    ∃ after, (ByteStream.ofRoute route mode).received library session
      = some ⟨chunks, failure?, after⟩

namespace Route

variable {library : Library} {route : Route}

/-- The chunks of a render are the regrouped texts, encoded. -/
theorem delivers_regrouped {bytesIn : String → Bytes} {texts : List String}
    {failure? : Option Failure}
    (encodes : ∀ chunk ∈ (TextBuffer.empty route.settings.bufferSize).regrouped failure?.isNone
      texts, route.settings.codec.encode chunk.toList = .ok (bytesIn chunk)) :
    route.Delivers library texts failure?
      (((TextBuffer.empty route.settings.bufferSize).regrouped failure?.isNone texts).map
        bytesIn) := by
  intro mode session hands
  have encoded : ∀ chunk ∈ (TextBuffer.empty route.settings.bufferSize).regrouped failure?.isNone
      texts, (ByteStream.ofRoute route mode).encode chunk = .ok (bytesIn chunk) :=
    fun chunk member => congrArg (Except.mapError _) (encodes chunk member)
  rcases ByteStream.gives_of_route hands encoded with ⟨last, gives⟩
  exact ⟨last, (ByteStream.received_eq_receivedWith library _ session).trans gives.receivedWith⟩

/-- A buffer only moves the boundaries between chunks. With a codec that encodes each character for
itself, a render without a buffer delivers the texts as they are handed out. One with a buffer
delivers them in groups, each as soon as it reaches the threshold; a normal end delivers the rest,
and a failure loses it. -/
theorem delivers_of_perCharacter {bytesOf : Char → Bytes}
    (perCharacter : ∀ text, route.settings.codec.encode text = .ok (text.flatMap bytesOf))
    (texts : List String) (failure? : Option Failure) :
    (route.settings.bufferSize = 0 → route.Delivers library texts failure?
        (texts.map fun text => text.toList.flatMap bytesOf)) ∧
      (0 < route.settings.bufferSize → ∃ groups held,
        IsGrouped route.settings.bufferSize failure?.isSome texts groups held ∧
          String.join texts = String.join (groups.map String.join) ++ String.join held ∧
          route.Delivers library texts failure?
            (groups.map fun group => (String.join group).toList.flatMap bytesOf)) := by
  have delivers : route.Delivers library texts failure? _ :=
    delivers_regrouped fun chunk _ => perCharacter chunk.toList
  constructor
  · intro unbuffered
    rw [unbuffered, TextBuffer.regrouped_of_zero] at delivers
    exact delivers
  · intro positive
    rcases TextBuffer.exists_groups positive failure?.isNone [] positive texts with
      ⟨groups, held, grouped, shown⟩
    have failed : (!failure?.isNone) = failure?.isSome := by cases failure? <;> rfl
    rw [failed, List.nil_append] at grouped
    refine ⟨groups, held, grouped, ?_, ?_⟩
    · rw [grouped.texts_eq, String.join_append, join_flatten]
    · rw [show TextBuffer.empty route.settings.bufferSize = ⟨_, String.join []⟩ from rfl, shown,
        List.map_map] at delivers
      exact delivers

end Route

/-! ## A page in three texts -/

namespace Run

variable {library : Library} {context : Nat} {mode : RenderMode} {run : Run} {session : Session}
  {before : Renderer × Session} {turned : Turned}

/-- A run hands out the text that its next turn gives. -/
theorem hands_of_turn (taken : before.1.turn library before.2 = turned)
    (can : CanStream context run)
    (resumed : run.resume library (.ok .null) session = proceed library (.proceed, before))
    {text : String} (shown : turned.1 = .chunk text) {texts : List String}
    {failure? : Option Failure}
    (later : CanStream context ⟨turned.2.1, .atChunk⟩ →
      Hands library mode (.ok .null) ⟨turned.2.1, .atChunk⟩ turned.2.2 texts failure?) :
    run.Hands library mode (.ok .null) session (text :: texts) failure? := by
  rw [Renderer.proceed_turn, taken] at resumed
  rcases turned with ⟨turn, renderer, after⟩
  cases shown
  exact .text (nextText_of_handedOut library can resumed rfl)
    (later (canStream_of_advances library can ⟨text, resumed⟩))

/-- Nothing is seen of a turn after which a run just goes on. -/
theorem resume_of_proceeds (taken : before.1.turn library before.2 = turned)
    (proceeds : turned.1 = .proceed)
    (resumed : run.resume library (.ok .null) session = proceed library (.proceed, before)) :
    run.resume library (.ok .null) session = proceed library (.proceed, turned.2) := by
  rw [resumed, Renderer.proceed_turn, taken]
  rcases turned with ⟨turn, after⟩
  cases proceeds
  rfl

/-- A run hands out nothing more if its next turn is the last one. -/
theorem hands_of_end (taken : before.1.turn library before.2 = turned)
    (ended : turned.1 = .finished) (can : CanStream context run)
    (resumed : run.resume library (.ok .null) session = proceed library (.proceed, before)) :
    run.Hands library mode (.ok .null) session [] none := by
  rw [Renderer.proceed_turn, taken] at resumed
  rcases turned with ⟨turn, renderer, after⟩
  cases ended
  exact .finishes (nextText_of_handedOut library can resumed rfl)

end Run

namespace Sample

def spellingReference : ComponentReference := ⟨"Word", some .generator, true⟩

/-- A page that spells a word. -/
def spelling : Routine :=
  .suspend (.effect (.text "h")) fun _ =>
    .suspend (.effect (.text "é")) fun _ =>
      .suspend (.effect (.text "y")) .finish

def spellingLibrary : Library :=
  [⟨spellingReference, ⟨[], [], [], none⟩, fun _ => spelling⟩]

variable {encoding : String} {codec : Codec} (codec_eq : Codec.find? encoding = some codec)
  (bufferSize : Nat) (mode : RenderMode)

/-- The page in an encoding and with a buffer. -/
def spellingRoute : Route :=
  ⟨.component spellingReference, "word",
    { Settings.standard with encoding, codec, codec_eq, bufferSize }⟩

def spellingRenderer : Renderer :=
  .start [] (spellingRoute codec_eq bufferSize).settings 0

def spellingEntered : Session :=
  ((ByteStream.ofRoute (spellingRoute codec_eq bufferSize) mode).enter spellingLibrary
    Session.empty).2

/-- The render of the page as its turns follow one another. -/
def spellingTurns : Nat → Turned
  | 0 => (spellingRenderer codec_eq bufferSize).opening spellingLibrary
      (.routine ⟨.generator, 0, "Word"⟩) (spellingEntered codec_eq bufferSize mode)
  | turns + 1 => (spellingTurns turns).2.1.turn spellingLibrary (spellingTurns turns).2.2

theorem spellingTurns_eq :
    [spellingTurns codec_eq bufferSize mode 1, spellingTurns codec_eq bufferSize mode 2,
        spellingTurns codec_eq bufferSize mode 3, spellingTurns codec_eq bufferSize mode 4,
        spellingTurns codec_eq bufferSize mode 5].map Prod.fst
      = [.chunk "h", .chunk "é", .chunk "y", .proceed, .finished] := by
  cbv

theorem turn_spellingTurns (turns : Nat) :
    (spellingTurns codec_eq bufferSize mode turns).2.1.turn spellingLibrary
        (spellingTurns codec_eq bufferSize mode turns).2.2
      = spellingTurns codec_eq bufferSize mode (turns + 1) := rfl

theorem hands_spelling :
    (spellingRoute codec_eq bufferSize).Hands spellingLibrary mode Session.empty ["h", "é", "y"]
      none := by
  have taken := turn_spellingTurns codec_eq bufferSize mode
  rcases List.cons.inj (spellingTurns_eq codec_eq bufferSize mode) with ⟨first, later⟩
  rcases List.cons.inj later with ⟨second, later⟩
  rcases List.cons.inj later with ⟨third, later⟩
  rcases List.cons.inj later with ⟨fourth, later⟩
  have fifth := (List.cons.inj later).1
  refine ⟨⟨.start (spellingRenderer codec_eq bufferSize) (.routine ⟨.generator, 0, "Word"⟩),
    .empty bufferSize, 0, none⟩, spellingEntered codec_eq bufferSize mode, rfl, ?_⟩
  have begun : Run.resume spellingLibrary (.ok .null)
        (.start (spellingRenderer codec_eq bufferSize) (.routine ⟨.generator, 0, "Word"⟩))
        (spellingEntered codec_eq bufferSize mode)
      = Run.proceed spellingLibrary (.proceed, (spellingTurns codec_eq bufferSize mode 0).2) := rfl
  -- From here on only what the turns give matters, not what the renders are.
  generalize spellingTurns codec_eq bufferSize mode = turns
    at taken first second third fourth fifth begun
  refine Run.hands_of_turn (taken 0) (.start _ _ rfl rfl) begun first fun can => ?_
  refine Run.hands_of_turn (taken 1) can rfl second fun can => ?_
  refine Run.hands_of_turn (taken 2) can rfl third fun can => ?_
  exact Run.hands_of_end (taken 4) fifth can (Run.resume_of_proceeds (taken 3) fourth rfl)

end Sample

theorem Route.delivers_of_perCharacter_spelling :
    ∃ groups held, IsGrouped 2 false ["h", "é", "y"] groups held ∧
      ∃ after, (ByteStream.ofRoute (Sample.spellingRoute Settings.standard.codec_eq 2)
          .async).received Sample.spellingLibrary Session.empty
        = some ⟨groups.map fun group => (String.join group).toList.flatMap String.utf8EncodeChar,
            none, after⟩ := by
  have perCharacter : ∀ text,
      (Sample.spellingRoute Settings.standard.codec_eq 2).settings.codec.encode text
        = .ok (text.flatMap String.utf8EncodeChar) := fun _ => rfl
  rcases (Route.delivers_of_perCharacter perCharacter ["h", "é", "y"] none).2 (by decide) with
    ⟨groups, held, grouped, _, delivers⟩
  exact ⟨groups, held, grouped, delivers .async Session.empty (Sample.hands_spelling _ _ _)⟩

end HtmlStream
