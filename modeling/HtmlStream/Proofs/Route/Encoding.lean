import HtmlStream.Proofs.Codec.RoundTrip
import HtmlStream.Proofs.Route.Buffering

/-!
What a codec makes of the chunks of a render. Each chunk is encoded for itself, so with a codec that
writes a mark every chunk begins with one, and a page keeps all of them but the first in its text.
The main statement is `bytes_and_page_of_hands`.
-/
namespace HtmlStream

theorem TextBuffer.join_regrouped (buffer : TextBuffer) (texts : List String) :
    String.join (buffer.regrouped true texts) = buffer.pending ++ String.join texts := by
  induction texts generalizing buffer with
  | nil =>
      rw [regrouped, if_pos rfl, remainder?]
      split
      · next nothing => simp_all
      · simp
  | cons text rest induction =>
      rw [regrouped, String.join_append, induction]
      unfold accept
      dsimp only
      split <;> simp [empty, String.append_assoc]

/-! ## Pages -/

namespace PageReader

/-- A page is read from the chunks that its stream gives, and fails as its stream does. The
induction is on the stream. -/
theorem obtain_readOn {library : Library} {stream : ByteStream} {reply : Reply}
    {state : StreamState} {session last : Session} {chunks : List Bytes}
    {failure? : Option Failure}
    (gives : stream.Gives library reply state session chunks failure? last) (read : List Bytes) :
    ∃ page, session.obtain library (readOn library) reply ⟨stream.inState state, read⟩
      = (failure?.elim (.chunk (String.ofList
          (stream.route.settings.codec.decode (read.reverse ++ chunks).flatten))) .failed,
        page, last) := by
  induction gives generalizing read with
  | @chunk reply state later session after last bytes chunks failure? handed rest induction =>
      have same : readOn library reply ⟨stream.inState state, read⟩ session
          = readOn library (.ok .null) ⟨stream.inState later, bytes :: read⟩ after := by
        rw [readOn.eq_1, handed]
      rw [Session.obtain_congr same, List.append_cons, ← List.reverse_cons]
      exact induction (bytes :: read)
  | @waits reply state later session after last wait chunks failure? handed rest induction =>
      have waits : readOn library reply ⟨stream.inState state, read⟩ session
          = (.waiting wait, ⟨stream.inState later, read⟩, after) := by
        rw [readOn.eq_1, handed]
      rw [Session.obtain_of_waiting waits]
      exact induction read
  | @finishes reply state session last later handed =>
      have ends : readOn library reply ⟨stream.inState state, read⟩ session
          = (.chunk (text ⟨stream.inState state, read⟩), ⟨later, read⟩, last) := by
        rw [readOn.eq_1, handed]
      rw [Session.obtain_of_there (by simp [ends]), ends, List.append_nil]
      exact ⟨_, rfl⟩
  | @fails reply state session last later failure handed =>
      have ends : readOn library reply ⟨stream.inState state, read⟩ session
          = (.failed failure, ⟨later, read⟩, last) := by
        rw [readOn.eq_1, handed]
      rw [Session.obtain_of_there (by simp [ends]), ends]
      exact ⟨_, rfl⟩

end PageReader

namespace Route

/-- The consumer of a render receives the encoding of a text, and a page of it is this text. -/
def KeepsText (library : Library) (route : Route) (mode : RenderMode) (session : Session)
    (text : String) : Prop :=
  (∃ streamed after, (ByteStream.ofRoute route mode).received library session
      = some ⟨streamed, none, after⟩ ∧
    route.settings.codec.encode text.toList = .ok streamed.flatten) ∧
  ∃ last, route.render library mode session = (.ok text, last)

/-- What the buffer of a route makes of the texts of a whole render. -/
def chunks (route : Route) (texts : List String) : List String :=
  (TextBuffer.empty route.settings.bufferSize).regrouped true texts

theorem join_chunks (route : Route) (texts : List String) :
    String.join (route.chunks texts) = String.join texts := by
  rw [chunks, TextBuffer.join_regrouped]
  simp [TextBuffer.empty]

variable {library : Library} {route : Route} {mode : RenderMode} {session : Session}
  {texts : List String}

/-- Whatever is in a chunk can be encoded if it can be encoded in the whole text. -/
theorem chunk_covered {bytes : Bytes}
    (encodable : route.settings.codec.encode (String.join texts).toList = .ok bytes) :
    ∀ part ∈ (route.chunks texts).map String.toList, ∀ character ∈ part,
      route.settings.codec.Covers character := by
  intro part among character member
  refine (Codec.encode_eq_ok.mp encodable).1 character ?_
  rw [← join_chunks, String.toList_join, List.flatMap_def]
  exact List.mem_flatten.mpr ⟨part, among, member⟩

/-- A stream gives the encodings of the chunks, each with its own mark. -/
theorem gives_encoded {bytes : Bytes}
    (encodable : route.settings.codec.encode (String.join texts).toList = .ok bytes)
    (hands : route.Hands library mode session texts none) :
    ∃ last, (ByteStream.ofRoute route mode).Gives library (.ok .null) .unstarted session
      ((route.chunks texts).map fun chunk => route.settings.codec.markedBytes chunk.toList) none
      last := by
  refine ByteStream.gives_of_route hands fun chunk among => ?_
  have encoded : route.settings.codec.encode chunk.toList = .ok _ :=
    Codec.encode_eq_ok.mpr
      ⟨chunk_covered encodable _ (List.mem_map_of_mem among), rfl⟩
  exact congrArg (Except.mapError _) encoded

theorem received_of_hands {bytes : Bytes}
    (encodable : route.settings.codec.encode (String.join texts).toList = .ok bytes)
    (hands : route.Hands library mode session texts none) :
    ∃ after, (ByteStream.ofRoute route mode).received library session
      = some ⟨(route.chunks texts).map fun chunk =>
          route.settings.codec.markedBytes chunk.toList, none, after⟩ := by
  rcases gives_encoded encodable hands with ⟨last, gives⟩
  exact ⟨last, (ByteStream.received_eq_receivedWith library _ session).trans gives.receivedWith⟩

/-- A page has the marks between its chunks in its text. -/
theorem render_of_hands {bytes : Bytes}
    (encodable : route.settings.codec.encode (String.join texts).toList = .ok bytes)
    (hands : route.Hands library mode session texts none) :
    ∃ last, route.render library mode session
      = (.ok ((String.ofList route.settings.codec.mark).intercalate (route.chunks texts)),
        last) := by
  rcases gives_encoded encodable hands with ⟨last, gives⟩
  rcases PageReader.obtain_readOn gives [] with ⟨page, read⟩
  have shown : String.ofList (route.settings.codec.decode ((route.chunks texts).map fun chunk =>
        route.settings.codec.markedBytes chunk.toList).flatten)
      = (String.ofList route.settings.codec.mark).intercalate (route.chunks texts) := by
    refine String.toList_inj.mp ?_
    rw [String.toList_ofList, String.toList_intercalate, String.toList_ofList,
      ← Codec.decode_flatten (chunk_covered encodable), List.map_map]
    rfl
  refine ⟨last, ?_⟩
  unfold render
  rw [show PageReader.start route mode = ⟨(ByteStream.ofRoute route mode).inState .unstarted, []⟩
    from rfl, read]
  exact congrArg (fun text => (Except.ok text, last)) shown

theorem intercalate_eq_join {mark : String} {chunks : List String}
    (alone : mark = "" ∨ chunks.length = 1) : mark.intercalate chunks = String.join chunks := by
  rcases alone with rfl | single
  · induction chunks with
    | nil => rfl
    | cons first rest induction =>
        cases rest with
        | nil => simp
        | cons second rest =>
            rw [String.intercalate_cons_cons, induction, String.append_empty, ← String.join_cons]
  · rcases List.length_eq_one_iff.mp single with ⟨chunk, rfl⟩
    simp

/-- A render keeps its text if and only if the codec writes no mark or there is just one chunk. -/
theorem keepsText_iff {bytes : Bytes}
    (encodable : route.settings.codec.encode (String.join texts).toList = .ok bytes)
    (hands : route.Hands library mode session texts none) :
    route.KeepsText library mode session (String.join texts)
      ↔ route.settings.codec.mark = [] ∨ (route.chunks texts).length = 1 := by
  rcases received_of_hands encodable hands with ⟨after, received⟩
  rcases render_of_hands encodable hands with ⟨last, rendered⟩
  have whole : route.settings.codec.encode (String.join texts).toList
      = .ok (route.settings.codec.markedBytes
          ((route.chunks texts).map String.toList).flatten) := by
    rw [encodable, ← List.flatMap_def, ← String.toList_join, join_chunks,
      (Codec.encode_eq_ok.mp encodable).2]
  have bytes_iff := Codec.flatten_eq_markedBytes_iff route.settings.codec
    ((route.chunks texts).map String.toList)
  rw [List.map_map, List.length_map] at bytes_iff
  constructor
  · rintro ⟨⟨streamed, _, received', encoded⟩, _⟩
    cases received.symm.trans received'
    exact bytes_iff.mp (Except.ok.inj (whole.symm.trans encoded)).symm
  · intro alone
    have encoded := whole.trans (congrArg Except.ok (bytes_iff.mpr alone).symm)
    rw [intercalate_eq_join (alone.imp_left (congrArg String.ofList)), join_chunks] at rendered
    exact ⟨⟨_, after, received, encoded⟩, last, rendered⟩

/-- The consumer of a render receives the encoding of each chunk with a mark of its own, and a page
of the render is its text with a mark between any two chunks. So a codec that writes no mark keeps
every text whatever the buffer is, and one that writes a mark keeps it only in one chunk. -/
theorem bytes_and_page_of_hands {bytes : Bytes}
    (encodable : route.settings.codec.encode (String.join texts).toList = .ok bytes)
    (hands : route.Hands library mode session texts none) :
    (∃ after, (ByteStream.ofRoute route mode).received library session
        = some ⟨(route.chunks texts).map fun chunk =>
            route.settings.codec.markedBytes chunk.toList, none, after⟩) ∧
      (∃ last, route.render library mode session
        = (.ok ((String.ofList route.settings.codec.mark).intercalate (route.chunks texts)),
          last)) ∧
      (route.KeepsText library mode session (String.join texts)
        ↔ route.settings.codec.mark = [] ∨ (route.chunks texts).length = 1) :=
  ⟨received_of_hands encodable hands, render_of_hands encodable hands,
    keepsText_iff encodable hands⟩

end Route

namespace Sample

theorem utf16_eq : Codec.find? "utf-16" = some (.utf16 none) := by
  decide +kernel

theorem utf16_encodes (bufferSize : Nat) :
    (spellingRoute utf16_eq bufferSize).settings.codec.encode
        (String.join ["h", "é", "y"]).toList
      = .ok [0xff, 0xfe, 0x68, 0, 0xe9, 0, 0x79, 0] := by
  show Codec.encode (.utf16 none) _ = _
  decide +kernel

end Sample

/-- With a buffer that is large enough for the whole text there is one chunk, and nothing is
added to it. -/
theorem Route.bytes_and_page_of_hands_spelling :
    ∃ last, (Sample.spellingRoute Sample.utf16_eq 9).render Sample.spellingLibrary .async
      Session.empty = (.ok "héy", last) := by
  have rendered := (Route.bytes_and_page_of_hands (Sample.utf16_encodes 9)
    (Sample.hands_spelling Sample.utf16_eq 9 .async)).2.1
  have chunks_eq : (Sample.spellingRoute Sample.utf16_eq 9).chunks ["h", "é", "y"] = ["héy"] := by
    decide +kernel
  rw [chunks_eq] at rendered
  exact rendered

/-- Without a buffer there are three chunks: the marks of two of them are added to the text, and the
consumer receives them too. -/
theorem Route.not_keepsText_spelling :
    (Sample.spellingRoute Sample.utf16_eq 0).Hands Sample.spellingLibrary .sync Session.empty
        ["h", "é", "y"] none ∧
      (∃ last, (Sample.spellingRoute Sample.utf16_eq 0).render Sample.spellingLibrary .sync
        Session.empty = (.ok "h\ufeffé\ufeffy", last)) ∧
      ¬ (Sample.spellingRoute Sample.utf16_eq 0).KeepsText Sample.spellingLibrary .sync
        Session.empty (String.join ["h", "é", "y"]) := by
  have hands := Sample.hands_spelling Sample.utf16_eq 0 .sync
  have chunks_eq : (Sample.spellingRoute Sample.utf16_eq 0).chunks ["h", "é", "y"]
      = ["h", "é", "y"] := by
    decide +kernel
  refine ⟨hands, ?_, fun keeps => ?_⟩
  · have rendered := Route.render_of_hands (Sample.utf16_encodes 0) hands
    rw [chunks_eq] at rendered
    exact rendered
  · rcases (Route.keepsText_iff (Sample.utf16_encodes 0) hands).mp keeps with unmarked | single
    · exact absurd unmarked (List.cons_ne_nil _ _)
    · rw [chunks_eq] at single
      exact absurd single (by decide)

end HtmlStream
