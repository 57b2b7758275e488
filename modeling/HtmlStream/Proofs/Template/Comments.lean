import HtmlStream.Proofs.Template.Openers
import HtmlStream.Proofs.Template.Progress
import Mathlib.Data.List.Infix

/-!
Where comments end. The reader keeps the last two static characters of a comment, and holes leave them
alone. So a comment ends with the first terminator among the static characters: it is also the first
one in the source that messages show, unless a hole stands inside of an earlier one. The main statement
is `comments`.
-/
namespace HtmlStream.Template

variable {symbols opened inside rest after : List Symbol} {builder : Builder}
  {text : List Symbol → List Char}

/-- The text ends with the terminator of comments. -/
def EndsComment (text : List Char) : Prop :=
  "-->".toList <:+ text

instance (text : List Char) : Decidable (EndsComment text) :=
  inferInstanceAs (Decidable ("-->".toList <:+ text))

/-- The symbols in `inside` are followed by the first place where the text of what was read from
`rest` ends with the terminator. -/
structure IsFirstEnd (text : List Symbol → List Char) (inside rest : List Symbol) : Prop where
  within : inside <+: rest
  ends : EndsComment (text inside)
  first : ∀ shorter, shorter <+: inside → EndsComment (text shorter) → shorter = inside

/-- Reading is in the comment until it has read what is inside, and then it is in text. No node is
made on the way. -/
structure IsComment (symbols opened : List Symbol) (builder : Builder)
    (inside after : List Symbol) : Prop where
  stays : ∀ shorter longer, shorter ++ longer = inside → longer ≠ [] →
    ∃ tail, ReadsTo symbols (opened ++ shorter) (.comment tail) builder (longer ++ after)
  ends : ReadsTo symbols (opened ++ inside) (.text []) builder after

/-! ## Terminators -/

/-- One more character ends the comment if it follows two dashes. -/
theorem endsComment_concat (text : List Char) (character : Char) :
    EndsComment (text ++ [character]) ↔
      character = '>' ∧ text.reverse.take 2 = ['-', '-'] := by
  unfold EndsComment
  rw [← List.reverse_prefix, List.reverse_append]
  show '>' :: ['-', '-'] <+: character :: text.reverse ↔ _
  rw [List.cons_prefix_cons, List.prefix_iff_eq_take]
  exact and_congr eq_comm eq_comm

theorem not_endsComment_nil : ¬ EndsComment [] := by decide

/-- Characters that are in no placeholder are shown only where they stand. -/
theorem exists_lead_of_isSuffix {chars : List Char}
    (plain : ∀ character ∈ chars, character ∉ placeholder.toList)
    (ends : chars <:+ shownSource inside) : ∃ lead, inside = lead ++ chars.map .character := by
  induction inside using List.reverseRecOn generalizing chars with
  | nil => exact ⟨[], by rw [List.suffix_nil.mp ends]; rfl⟩
  | append_singleton earlier symbol induction =>
      rcases List.eq_nil_or_concat chars with rfl | ⟨others, last, rfl⟩
      · exact ⟨earlier ++ [symbol], (List.append_nil _).symm⟩
      rw [List.concat_eq_append] at plain ends ⊢
      rw [shownSource_append] at ends
      cases symbol with
      | hole index =>
          have member : last ∈ placeholder.toList := by
            rcases ends with ⟨lead, whole⟩
            have shown : shownSource [.hole index] = ['\x7b', '…'] ++ ['\x7d'] := rfl
            rw [shown, ← List.append_assoc, ← List.append_assoc] at whole
            rw [List.singleton_inj.mp (List.append_inj' whole rfl).2]
            decide
          exact absurd member (plain last (List.mem_append_right _ List.mem_cons_self))
      | character given =>
          rcases ends with ⟨lead, whole⟩
          have shown : shownSource [.character given] = [given] := rfl
          rw [shown, ← List.append_assoc] at whole
          rcases List.append_inj' whole rfl with ⟨before, same⟩
          cases same
          rcases induction (fun character member => plain character (List.mem_append_left _ member))
            ⟨lead, before⟩ with ⟨earlier, rfl⟩
          exact ⟨earlier, by rw [List.map_append, List.append_assoc]; rfl⟩

/-- A terminator that is shown stands among the static characters. -/
theorem endsComment_staticText (ends : EndsComment (shownSource inside)) :
    EndsComment (staticText inside) := by
  have apart : "-->".toList.all (fun character => !placeholder.toList.contains character)
      = true := by
    decide
  have plain : ∀ character ∈ "-->".toList, character ∉ placeholder.toList := by
    intro character member shown
    have absent := List.all_eq_true.mp apart character member
    rw [List.contains_iff_mem.mpr shown] at absent
    cases absent
  rcases exists_lead_of_isSuffix plain ends with ⟨lead, rfl⟩
  rw [staticText_append, staticText_map_character]
  exact List.suffix_append _ _

theorem exists_isFirstEnd (text : List Symbol → List Char) (within : inside <+: rest) :
    (∀ shorter, shorter <+: inside → ¬ EndsComment (text shorter)) ∨
      ∃ first, IsFirstEnd text first rest ∧ first <+: inside := by
  induction inside using List.reverseRecOn with
  | nil =>
      by_cases ends : EndsComment (text [])
      · have first : IsFirstEnd text [] rest :=
          ⟨within, ends, fun _ before _ => List.prefix_nil.mp before⟩
        exact .inr ⟨[], first, List.prefix_rfl⟩
      · exact .inl fun _ before => List.prefix_nil.mp before ▸ ends
  | append_singleton earlier symbol induction =>
      have before : earlier <+: earlier ++ [symbol] := List.prefix_append earlier [symbol]
      rcases induction (before.trans within) with none | ⟨first, isFirst, start⟩
      · by_cases ends : EndsComment (text (earlier ++ [symbol]))
        · refine .inr ⟨_, ⟨within, ends, fun shorter start ended => ?_⟩, List.prefix_rfl⟩
          exact (List.prefix_concat_iff.mp start).resolve_right fun start => none _ start ended
        · refine .inl fun shorter start => ?_
          rcases List.prefix_concat_iff.mp start with rfl | start
          · exact ends
          · exact none shorter start
      · exact .inr ⟨first, isFirst, start.trans before⟩

namespace IsFirstEnd

/-- Before the first terminator there is none. -/
theorem not_endsComment {shorter longer : List Symbol} (first : IsFirstEnd text inside rest)
    (whole : shorter ++ longer = inside) (more : longer ≠ []) :
    ∀ start, start <+: shorter → ¬ EndsComment (text start) := by
  intro start before ends
  have same := first.first start (before.trans ⟨longer, whole⟩) ends
  have less := before.length_le
  rw [same, ← whole, List.length_append] at less
  exact more (List.length_eq_zero_iff.mp (by omega))

/-- The first terminator among the static characters ends with one of them, and not with a hole. -/
theorem exists_concat (first : IsFirstEnd staticText inside rest) :
    ∃ shorter, inside = shorter ++ [.character '>'] ∧
      (staticText shorter).reverse.take 2 = ['-', '-'] := by
  rcases List.eq_nil_or_concat inside with rfl | ⟨shorter, symbol, rfl⟩
  · exact absurd first.ends not_endsComment_nil
  rw [List.concat_eq_append] at first ⊢
  have none := first.not_endsComment rfl (List.cons_ne_nil symbol []) shorter List.prefix_rfl
  have ends := first.ends
  rw [staticText_append] at ends
  cases symbol with
  | hole index => exact absurd ((List.append_nil (staticText shorter)).subst ends) none
  | character given =>
      rcases (endsComment_concat _ given).mp ends with ⟨rfl, dashes⟩
      exact ⟨shorter, rfl, dashes⟩

end IsFirstEnd

/-! ## Reading -/

/-- In a comment the reader keeps the last two static characters, as long as they do not end it. -/
theorem read_comment_of_not_endsComment {seen : List Symbol} {symbol : Symbol}
    (goesOn : ¬ EndsComment (staticText (seen ++ [symbol]))) (next : Option Char) :
    (Reading.comment ((staticText seen).reverse.take 2)).read symbol next
      = Reading.quiet (.comment ((staticText (seen ++ [symbol])).reverse.take 2)) := by
  rw [staticText_append] at goesOn ⊢
  cases symbol with
  | hole index =>
      have unchanged : staticText seen ++ staticText [.hole index] = staticText seen :=
        List.append_nil _
      rw [unchanged]
      rfl
  | character given =>
      have goesOn := mt (endsComment_concat (staticText seen) given).mpr goesOn
      show Reading.inComment _ given = _
      unfold Reading.inComment
      rw [if_neg (by simpa using goesOn)]
      have last : (staticText seen ++ staticText [.character given]).reverse
          = given :: (staticText seen).reverse :=
        List.reverse_append
      rw [last, List.take_succ_cons, List.take_succ_cons, List.take_take]
      rfl

section Reading

variable (begun : ReadsTo symbols opened (.comment []) builder rest)
include begun

/-- Where no terminator has come yet reading is in the comment, and it has the last two static
characters. -/
theorem readsTo_comment (whole : inside ++ after = rest)
    (none : ∀ shorter, shorter <+: inside → ¬ EndsComment (staticText shorter)) :
    ReadsTo symbols (opened ++ inside) (.comment ((staticText inside).reverse.take 2)) builder
      after := by
  induction inside using List.reverseRecOn generalizing after with
  | nil =>
      rw [List.append_nil]
      subst whole
      exact begun
  | append_singleton shorter symbol induction =>
      rw [List.append_assoc] at whole
      have reached := induction whole fun earlier within =>
        none earlier (within.trans (List.prefix_append _ _))
      rw [← List.append_assoc]
      exact reached.quietly (read_comment_of_not_endsComment (none _ List.prefix_rfl) _)

/-- The comment ends with the first terminator among its static characters. -/
theorem isComment_of_isFirstEnd (first : IsFirstEnd staticText inside rest)
    (whole : inside ++ after = rest) : IsComment symbols opened builder inside after where
  stays := by
    rintro shorter longer rfl more
    rw [List.append_assoc] at whole
    exact ⟨_, readsTo_comment begun whole (first.not_endsComment rfl more)⟩
  ends := by
    rcases first.exists_concat with ⟨shorter, rfl, dashes⟩
    rw [List.append_assoc] at whole
    have reached := readsTo_comment begun whole
      (first.not_endsComment rfl (List.cons_ne_nil _ []))
    rw [dashes] at reached
    rw [← List.append_assoc]
    exact reached.quietly rfl

theorem isFirstEnd_of_isComment (comment : IsComment symbols opened builder inside after) :
    rest = inside ++ after ∧ IsFirstEnd staticText inside rest := by
  have whole : rest = inside ++ after := by
    have same := begun.append_eq.trans comment.ends.append_eq.symm
    rw [List.append_assoc] at same
    exact List.append_cancel_left same
  refine ⟨whole, ?_⟩
  have within : inside <+: rest := ⟨after, whole.symm⟩
  rcases exists_isFirstEnd staticText within with none | ⟨first, isFirst, longer, rfl⟩
  · cases (comment.ends.unique (readsTo_comment begun whole.symm none)).1
  · rw [List.append_assoc] at whole
    have ended := isComment_of_isFirstEnd begun isFirst whole.symm
    by_cases more : longer = []
    · rw [more, List.append_nil]
      exact isFirst
    · rcases comment.stays first longer rfl more with ⟨tail, inComment⟩
      cases (ended.ends.unique inComment).1

end Reading

/-! ## Whole templates -/

/-- The symbols that open a comment after a bracket. -/
def commentOpener : List Symbol :=
  "!--".toList.map .character

/-- Where the comments of a template end. -/
structure ReadsComments (strings : List String) : Prop where
  /-- What is in a comment goes on to the first terminator among the static characters. -/
  ends : ∀ {read rest hole builder}, ReadsTo (Symbol.ofStrings strings) read (.tagName [] hole)
      builder (commentOpener ++ rest) →
    ∀ inside after,
      IsComment (Symbol.ofStrings strings) (read ++ commentOpener) builder inside after ↔
        rest = inside ++ after ∧ IsFirstEnd staticText inside rest
  /-- This is the first one that is shown, if every one that comes earlier is shown, too. -/
  shown : ∀ {read rest hole builder}, ReadsTo (Symbol.ofStrings strings) read (.tagName [] hole)
      builder (commentOpener ++ rest) →
    ∀ inside after, rest = inside ++ after → IsFirstEnd shownSource inside rest →
      (IsComment (Symbol.ofStrings strings) (read ++ commentOpener) builder inside after ↔
        ∀ shorter, shorter <+: inside → EndsComment (staticText shorter) →
          EndsComment (shownSource shorter))
  unterminated : ∀ {read rest hole builder}, ReadsTo (Symbol.ofStrings strings) read
      (.tagName [] hole) builder (commentOpener ++ rest) →
    (∀ shorter, shorter <+: rest → ¬ EndsComment (staticText shorter)) →
    readStrings strings = .error ⟨.unterminatedComment, (placeholderSource strings).length⟩

theorem ReadsTo.inComment {read : List Symbol} {hole : Option Nat}
    (reached : ReadsTo symbols read (.tagName [] hole) builder (commentOpener ++ rest)) :
    ReadsTo symbols (read ++ commentOpener) (.comment []) builder rest :=
  reached.opening (.inl rfl)

/-- A comment ends with the first terminator among its static characters, nothing in it is in the
nodes, and without a terminator the template is refused at its end. -/
theorem comments (strings : List String) : ReadsComments strings where
  ends := by
    intro read rest hole builder reached inside after
    constructor
    · exact isFirstEnd_of_isComment reached.inComment
    · rintro ⟨whole, first⟩
      exact isComment_of_isFirstEnd reached.inComment first whole.symm
  shown := by
    intro read rest hole builder reached inside after whole shown
    constructor
    · intro comment shorter within ends
      rw [(isFirstEnd_of_isComment reached.inComment comment).2.first shorter within ends]
      exact shown.ends
    · intro alike
      refine isComment_of_isFirstEnd reached.inComment ?_ whole.symm
      exact ⟨shown.within, endsComment_staticText shown.ends,
        fun shorter within ends => shown.first shorter within (alike shorter within ends)⟩
  unterminated := by
    intro read rest hole builder reached none
    have through := readsTo_comment reached.inComment (List.append_nil rest) none
    refine through.readSymbols_eq.trans ?_
    rw [← List.append_nil (_ ++ rest), through.append_eq, shownSource_ofStrings]
    rfl

/-- A hole does not end the comment, and what follows it may end it. -/
theorem comments_aroundHole :
    let inside := Symbol.ofText " -" ++ .hole 0 :: Symbol.ofText "-->"
    IsComment (Symbol.ofStrings ["<!-- -", "-->b"]) (.character '<' :: commentOpener) .empty inside
        [.character 'b'] ∧
      readStrings ["<!-- -", "b"] = .error ⟨.unterminatedComment, 10⟩ := by
  intro inside
  constructor
  · have reached : ReadsTo (Symbol.ofStrings ["<!-- -", "-->b"]) [.character '<'] (.tagName [] none)
        .empty (commentOpener ++ (inside ++ [.character 'b'])) :=
      @ReadsTo.giving _ [] _ _ _ _ _ _ [] .start rfl rfl
    have once : ∀ shorter ∈ inside.inits, EndsComment (staticText shorter) → shorter = inside := by
      decide
    have first : IsFirstEnd staticText inside (inside ++ [.character 'b']) :=
      ⟨List.prefix_append _ _, by decide, fun shorter within =>
        once shorter ((List.mem_inits shorter inside).mpr within)⟩
    exact ((comments ["<!-- -", "-->b"]).ends reached inside [.character 'b']).mpr ⟨rfl, first⟩
  · let rest : List Symbol := Symbol.ofText " -" ++ .hole 0 :: Symbol.ofText "b"
    have reached : ReadsTo (Symbol.ofStrings ["<!-- -", "b"]) [.character '<'] (.tagName [] none)
        .empty (commentOpener ++ rest) :=
      @ReadsTo.giving _ [] _ _ _ _ _ _ [] .start rfl rfl
    have none : ∀ shorter ∈ rest.inits, ¬ EndsComment (staticText shorter) := by decide
    exact (comments ["<!-- -", "b"]).unterminated reached fun shorter within =>
      none shorter ((List.mem_inits shorter rest).mpr within)

/-- Every comment ends with the first terminator in the source that messages show, and a comment
without one is refused. -/
def CommentsEndAsShown (strings : List String) : Prop :=
  ∀ {read rest builder}, ReadsTo (Symbol.ofStrings strings) read (.tagName [] none) builder
      (commentOpener ++ rest) →
    (∀ inside after, rest = inside ++ after → IsFirstEnd shownSource inside rest →
      IsComment (Symbol.ofStrings strings) (read ++ commentOpener) builder inside after) ∧
    ((∀ shorter, shorter <+: rest → ¬ EndsComment (shownSource shorter)) →
      ∃ position, readStrings strings = .error ⟨.unterminatedComment, position⟩)

/-- A hole inside of a terminator makes no difference to the reader, though it is shown. -/
theorem not_commentsEndAsShown_split : ¬ CommentsEndAsShown ["<!-- --", "> shown -->"] := by
  intro claimed
  let rest : List Symbol := Symbol.ofText " --" ++ .hole 0 :: Symbol.ofText "> shown -->"
  have reached : ReadsTo (Symbol.ofStrings ["<!-- --", "> shown -->"]) [.character '<']
      (.tagName [] none) .empty (commentOpener ++ rest) :=
    @ReadsTo.giving _ [] _ _ _ _ _ _ [] .start rfl rfl
  have first : IsFirstEnd shownSource rest rest := by
    have once : ∀ shorter ∈ rest.inits, EndsComment (shownSource shorter) → shorter = rest := by
      decide
    exact ⟨List.prefix_rfl, by decide, fun shorter within =>
      once shorter ((List.mem_inits shorter rest).mpr within)⟩
  have comment := (claimed reached).1 rest [] (List.append_nil rest).symm first
  have dropped := comment.ends.readSymbols_eq
  have kept : readStrings ["<!-- --", "> shown -->"] = .ok [.text " shown -->"] := rfl
  cases dropped.symm.trans kept

end HtmlStream.Template
