import HtmlStream.Proofs.Text.Trimming
import HtmlStream.Text.Pattern
import HtmlStream.Text.Whitespace
import Mathlib.Data.List.Basic
import Mathlib.Data.List.TakeWhile
import Mathlib.Tactic.SplitIfs

/-!
What is left of a text when blanks with a line break are removed from its edges by backtracking. The
first way to match such blanks takes all of them, and at the end of a text only the last ones match; so
this is the trimming of runs.
-/
namespace HtmlStream.Text

namespace Pattern

variable {before : Nat} {first : Char} {rest run : List Char}

/-! ## Blanks -/

theorem ends_blanks_of_blank (blank : isBlank first = true) :
    blanks.ends ⟨before, first :: rest⟩
      = blanks.ends ⟨before + 1, rest⟩ ++ [⟨before, first :: rest⟩] := by
  have once : (one isBlank).ends ⟨before, first :: rest⟩ = [⟨before + 1, rest⟩] := if_pos blank
  have later : Place.isAfter ⟨before + 1, rest⟩ ⟨before, first :: rest⟩ = true :=
    decide_eq_true (Nat.lt_succ_self rest.length)
  show repetitions _ _ = repetitions _ _ ++ _
  rw [repetitions_eq, once]
  simp [later]

theorem ends_blanks_of_not_blank (blank : isBlank first = false) :
    blanks.ends ⟨before, first :: rest⟩ = [⟨before, first :: rest⟩] := by
  have never : (one isBlank).ends ⟨before, first :: rest⟩ = [] := by
    show (if isBlank first = true then _ else _) = _
    rw [blank]
    rfl
  show repetitions _ _ = _
  rw [repetitions_eq, never]
  rfl

theorem ends_blanks_nil : blanks.ends ⟨before, []⟩ = [⟨before, []⟩] := by
  show repetitions _ _ = _
  rw [repetitions_eq]
  rfl

/-- The place after all blanks. -/
def pastBlanks (before : Nat) (run : List Char) : Place :=
  ⟨before + (run.takeWhile isBlank).length, run.dropWhile isBlank⟩

theorem pastBlanks_cons (blank : isBlank first = true) :
    pastBlanks before (first :: rest) = pastBlanks (before + 1) rest := by
  unfold pastBlanks
  rw [List.takeWhile_cons_of_pos blank, List.dropWhile_cons_of_pos blank, List.length_cons,
    Nat.add_right_comm, Nat.add_assoc]

/-- All blanks are taken first. -/
theorem head?_ends_blanks (before : Nat) (run : List Char) :
    (blanks.ends ⟨before, run⟩).head? = some (pastBlanks before run) := by
  induction run generalizing before with
  | nil => rw [ends_blanks_nil]; rfl
  | cons first rest induction =>
      cases blank : isBlank first with
      | true => rw [ends_blanks_of_blank blank, List.head?_append, induction, pastBlanks_cons blank]; rfl
      | false =>
          rw [ends_blanks_of_not_blank blank]
          simp [pastBlanks, blank]

theorem dropWhile_of_mem_ends_blanks {next : Place}
    (member : next ∈ blanks.ends ⟨before, run⟩) :
    next.rest.dropWhile isBlank = run.dropWhile isBlank := by
  induction run generalizing before with
  | nil =>
      rw [ends_blanks_nil] at member
      rw [List.mem_singleton.mp member]
  | cons first rest induction =>
      cases blank : isBlank first with
      | true =>
          rw [ends_blanks_of_blank blank] at member
          rcases List.mem_append.mp member with later | here
          · rw [induction later, List.dropWhile_cons_of_pos blank]
          · rw [List.mem_singleton.mp here]
      | false =>
          rw [ends_blanks_of_not_blank blank] at member
          rw [List.mem_singleton.mp member]

/-! ## Blanks with a line break -/

theorem ends_lineBreak_blanks (before : Nat) (first : Char) (rest : List Char) :
    (inOrder lineBreak blanks).ends ⟨before, first :: rest⟩
      = if first = '\n' then blanks.ends ⟨before + 1, rest⟩ else [] := by
  show (if (first == '\n') = true then [Place.mk (before + 1) rest] else []).flatMap _ = _
  by_cases breaks : first = '\n'
  · rw [if_pos breaks, if_pos (beq_iff_eq.mpr breaks), List.flatMap_singleton]
  · rw [if_neg breaks, if_neg (mt beq_iff_eq.mp breaks), List.flatMap_nil]

theorem isBlank_lineFeed : isBlank '\n' = true := by decide

theorem ends_brokenBlanks_of_blank (blank : isBlank first = true) :
    brokenBlanks.ends ⟨before, first :: rest⟩ = brokenBlanks.ends ⟨before + 1, rest⟩
      ++ (if first = '\n' then blanks.ends ⟨before + 1, rest⟩ else []) := by
  show (blanks.ends _).flatMap _ = (blanks.ends _).flatMap _ ++ _
  rw [ends_blanks_of_blank blank, List.flatMap_append, List.flatMap_singleton,
    ends_lineBreak_blanks]

theorem ends_brokenBlanks_of_not_blank (blank : isBlank first = false) :
    brokenBlanks.ends ⟨before, first :: rest⟩ = [] := by
  have unbroken : first ≠ '\n' := by
    rintro rfl
    exact absurd blank (by decide)
  show (blanks.ends _).flatMap _ = _
  rw [ends_blanks_of_not_blank blank, List.flatMap_singleton, ends_lineBreak_blanks,
    if_neg unbroken]

theorem ends_brokenBlanks_nil : brokenBlanks.ends ⟨before, []⟩ = [] := by
  show (blanks.ends _).flatMap _ = _
  rw [ends_blanks_nil]
  rfl

/-- All blanks are taken first, if there is a line break among them. -/
theorem head?_ends_brokenBlanks (before : Nat) (run : List Char) :
    (brokenBlanks.ends ⟨before, run⟩).head?
      = if '\n' ∈ run.takeWhile isBlank then some (pastBlanks before run) else none := by
  induction run generalizing before with
  | nil => rw [ends_brokenBlanks_nil]; rfl
  | cons first rest induction =>
      cases blank : isBlank first with
      | false => simp [ends_brokenBlanks_of_not_blank blank, blank]
      | true =>
          rw [ends_brokenBlanks_of_blank blank, List.head?_append, induction,
            pastBlanks_cons blank, List.takeWhile_cons_of_pos blank]
          by_cases later : '\n' ∈ rest.takeWhile isBlank
          · rw [if_pos later, if_pos (List.mem_cons_of_mem first later)]
            rfl
          · rw [if_neg later]
            by_cases here : first = '\n'
            · rw [if_pos here, if_pos (here ▸ List.mem_cons_self), head?_ends_blanks]
              rfl
            · rw [if_neg here, if_neg fun member => ?_]
              · rfl
              · exact (List.mem_cons.mp member).elim (fun same => here same.symm) later

theorem dropWhile_of_mem_ends_brokenBlanks {next : Place}
    (member : next ∈ brokenBlanks.ends ⟨before, run⟩) :
    next.rest.dropWhile isBlank = run.dropWhile isBlank := by
  induction run generalizing before with
  | nil =>
      rw [ends_brokenBlanks_nil] at member
      cases member
  | cons first rest induction =>
      cases blank : isBlank first with
      | false =>
          rw [ends_brokenBlanks_of_not_blank blank] at member
          cases member
      | true =>
          rw [ends_brokenBlanks_of_blank blank] at member
          rw [List.dropWhile_cons_of_pos blank]
          rcases List.mem_append.mp member with later | here
          · exact induction later
          · split_ifs at here
            · exact dropWhile_of_mem_ends_blanks here
            · cases here

/-- At the end of a text they match only if nothing but blanks is left of it. -/
theorem head?_ends_brokenBlanks_ending (before : Nat) (run : List Char) :
    ((inOrder brokenBlanks ending).ends ⟨before, run⟩).head?
      = if '\n' ∈ run.takeWhile isBlank ∧ run.dropWhile isBlank = [] then
          some (pastBlanks before run)
        else none := by
  show ((brokenBlanks.ends ⟨before, run⟩).flatMap ending.ends).head? = _
  have taken := head?_ends_brokenBlanks before run
  by_cases through : run.dropWhile isBlank = []
  · cases all : brokenBlanks.ends ⟨before, run⟩ with
    | nil =>
        rw [all] at taken
        refine (if_neg fun both => ?_).symm
        rw [if_pos both.1] at taken
        cases taken
    | cons longest others =>
        rw [all] at taken
        split_ifs at taken with broken
        · cases taken
          have ends : ending.ends (pastBlanks before run) = [pastBlanks before run] :=
            if_pos (.inl through)
          rw [if_pos ⟨broken, through⟩, List.flatMap_cons, ends]
          rfl
        · cases taken
  · have never : ∀ next ∈ brokenBlanks.ends ⟨before, run⟩, ending.ends next = [] := by
      intro next member
      refine if_neg fun ends => through ?_
      rw [← dropWhile_of_mem_ends_brokenBlanks member]
      rcases ends with ends | ends <;> rw [ends] <;> rfl
    rw [List.flatMap_eq_nil_iff.mpr never, if_neg fun both => through both.2]
    rfl

/-! ## Removal -/

section Removal

variable {pattern : Pattern} {place next : Place}

theorem removedFrom_of_match
    (found : (pattern.ends place).find? (·.isAfter place) = some next) :
    pattern.removedFrom place = pattern.removedFrom next := by
  rw [removedFrom]
  split
  next other taken =>
    cases found.symm.trans taken
    rfl
  next absent => cases found.symm.trans absent

theorem removedFrom_cons
    (absent : (pattern.ends ⟨before, first :: rest⟩).find? (·.isAfter ⟨before, first :: rest⟩)
      = none) :
    pattern.removedFrom ⟨before, first :: rest⟩
      = first :: pattern.removedFrom ⟨before + 1, rest⟩ := by
  rw [removedFrom]
  split
  next other taken => cases absent.symm.trans taken
  next => rfl

theorem removedFrom_nil (pattern : Pattern) (before : Nat) :
    pattern.removedFrom ⟨before, []⟩ = [] := by
  rw [removedFrom]
  split
  next other taken =>
    have later := List.find?_some taken
    exact absurd (of_decide_eq_true later) (Nat.not_lt_zero _)
  next => rfl

end Removal

theorem find?_of_head? {α : Type} {choices : List α} {accepts : α → Bool} {choice : Option α}
    (first : choices.head? = choice) (accepted : ∀ taken ∈ choice, accepts taken = true) :
    choices.find? accepts = choice := by
  cases choices with
  | nil => exact first
  | cons head tail =>
      cases first
      rw [List.find?_cons_of_pos (accepted head rfl)]
      rfl

theorem isAfter_pastBlanks (broken : '\n' ∈ run.takeWhile isBlank) :
    (pastBlanks before run).isAfter ⟨before, run⟩ = true := by
  have whole := congrArg List.length (List.takeWhile_append_dropWhile (p := isBlank) (l := run))
  rw [List.length_append] at whole
  have some_blank := List.length_pos_of_mem broken
  refine decide_eq_true ?_
  show (run.dropWhile isBlank).length < run.length
  omega

/-- At the beginning of a text all blanks match that hold a line break. -/
theorem find?_brokenEdge_start (run : List Char) :
    (brokenEdge.ends (.start run)).find? (·.isAfter (.start run))
      = if '\n' ∈ run.takeWhile isBlank then some (pastBlanks 0 run) else none := by
  refine find?_of_head? ?_ fun taken chosen => ?_
  · have leading : (inOrder beginning brokenBlanks).ends (.start run)
        = brokenBlanks.ends ⟨0, run⟩ := List.flatMap_singleton _ _
    show (Pattern.ends _ _ ++ Pattern.ends _ _).head? = _
    rw [leading, List.head?_append, head?_ends_brokenBlanks]
    split_ifs with broken
    · rfl
    · have trailing := head?_ends_brokenBlanks_ending 0 run
      rw [if_neg fun both => broken both.1] at trailing
      exact trailing
  · split_ifs at chosen with broken
    · cases chosen
      exact isAfter_pastBlanks broken
    · cases chosen

/-- Later only the last blanks of a text match. -/
theorem find?_brokenEdge_later (before : Nat) (run : List Char) :
    (brokenEdge.ends ⟨before + 1, run⟩).find? (·.isAfter ⟨before + 1, run⟩)
      = if '\n' ∈ run.takeWhile isBlank ∧ run.dropWhile isBlank = [] then
          some (pastBlanks (before + 1) run)
        else none := by
  refine find?_of_head? ?_ fun taken chosen => ?_
  · exact head?_ends_brokenBlanks_ending (before + 1) run
  · split_ifs at chosen with both
    · cases chosen
      exact isAfter_pastBlanks both.1
    · cases chosen

end Pattern

/-! ## Trimming at the end -/

section Trailing

variable {first : Char} {rest run : List Char}

theorem trimTrailingBreak_of_blank (broken : '\n' ∈ run.takeWhile isBlank)
    (through : run.dropWhile isBlank = []) : trimTrailingBreak run = [] := by
  have blank : ∀ character ∈ run, isBlank character = true := List.dropWhile_eq_nil_iff.mp through
  have reversed : ∀ character ∈ run.reverse, isBlank character = true :=
    fun character member => blank character (List.mem_reverse.mp member)
  have breaks : (run.reverse.takeWhile isBlank).contains '\n' = true := by
    rw [List.takeWhile_eq_self_iff.mpr reversed, List.contains_iff_mem, List.mem_reverse]
    exact (List.takeWhile_prefix isBlank).subset broken
  unfold trimTrailingBreak trimLeadingBreak
  rw [if_pos breaks, List.dropWhile_eq_nil_iff.mpr reversed]
  rfl

theorem trimLeadingBreak_append (kept : run.dropWhile isBlank ≠ []) (more : List Char) :
    trimLeadingBreak (run ++ more) = trimLeadingBreak run ++ more := by
  have shorter : (run.takeWhile isBlank).length ≠ run.length := by
    have whole := congrArg List.length (List.takeWhile_append_dropWhile (p := isBlank) (l := run))
    have some_kept := List.length_pos_iff.mpr kept
    rw [List.length_append] at whole
    omega
  unfold trimLeadingBreak
  rw [List.takeWhile_append, if_neg shorter, List.dropWhile_append,
    if_neg (mt List.isEmpty_iff.mp kept)]
  split_ifs <;> rfl

/-- The blanks at the end of a run are those at the end of what follows its first character, unless all
of it is blank. -/
theorem trimTrailingBreak_cons
    (kept : ¬ ('\n' ∈ (first :: rest).takeWhile isBlank ∧ (first :: rest).dropWhile isBlank = [])) :
    trimTrailingBreak (first :: rest) = first :: trimTrailingBreak rest := by
  have leading : trimLeadingBreak (rest.reverse ++ [first])
      = trimLeadingBreak rest.reverse ++ [first] := by
    by_cases through : rest.reverse.dropWhile isBlank = []
    · have blank := List.dropWhile_eq_nil_iff.mp through
      have unbroken : isBlank first = true → '\n' ∉ first :: rest := by
        intro begins broken
        have all : ∀ character ∈ first :: rest, isBlank character = true :=
          List.forall_mem_cons.mpr
            ⟨begins, fun character member => blank character (List.mem_reverse.mpr member)⟩
        rw [List.takeWhile_eq_self_iff.mpr all] at kept
        exact kept ⟨broken, List.dropWhile_eq_nil_iff.mpr all⟩
      unfold trimLeadingBreak
      rw [List.takeWhile_append_of_pos blank, List.dropWhile_append_of_pos blank, through,
        List.takeWhile_eq_self_iff.mpr blank]
      cases begins : isBlank first with
      | true =>
          have none := unbroken begins
          rw [List.mem_cons, not_or] at none
          simp [begins, none]
      | false => by_cases broken : '\n' ∈ rest <;> simp [begins, broken]
    · exact trimLeadingBreak_append through [first]
  unfold trimTrailingBreak
  rw [List.reverse_cons, leading, List.reverse_append]
  rfl

end Trailing

/-- Removing blanks with a line break from the edges of a run trims it. -/
theorem removed_brokenEdge (run : List Char) : Pattern.brokenEdge.removed run = trimBreaks run := by
  have later : ∀ before run, Pattern.brokenEdge.removedFrom ⟨before + 1, run⟩
      = trimTrailingBreak run := by
    intro before run
    induction run generalizing before with
    | nil => exact Pattern.removedFrom_nil _ _
    | cons first rest induction =>
        have found := Pattern.find?_brokenEdge_later before (first :: rest)
        split_ifs at found with both
        · rw [Pattern.removedFrom_of_match found, trimTrailingBreak_of_blank both.1 both.2,
            Pattern.pastBlanks, both.2]
          exact Pattern.removedFrom_nil _ _
        · rw [Pattern.removedFrom_cons found, induction, trimTrailingBreak_cons both]
  have found := Pattern.find?_brokenEdge_start run
  unfold Pattern.removed trimBreaks trimLeadingBreak
  split_ifs at found with broken
  · rw [Pattern.removedFrom_of_match found, if_pos (List.contains_iff_mem.mpr broken)]
    have some_blank := List.length_pos_of_mem broken
    rcases Nat.exists_eq_add_one_of_ne_zero (Nat.ne_of_gt some_blank) with ⟨fewer, counted⟩
    unfold Pattern.pastBlanks
    rw [Nat.zero_add, counted]
    exact later fewer _
  · rw [if_neg fun contained => broken (List.contains_iff_mem.mp contained)]
    cases run with
    | nil => exact Pattern.removedFrom_nil _ _
    | cons first rest =>
        rw [trimTrailingBreak_cons fun both => broken both.1, ← later 0 rest]
        exact Pattern.removedFrom_cons found

/-! ## Edges -/

section Edges

variable {leading content trailing run left : List Char}

theorem isBlank_iff {character : Char} : isBlank character = true ↔ IsWhitespace character := by
  unfold isBlank IsWhitespace spaceSeparators bidirectionalSpaces paragraphSeparators
    segmentSeparators
  simp only [Bool.or_eq_true, Bool.and_eq_true, decide_eq_true_eq, beq_iff_eq, List.mem_append,
    List.mem_cons, List.mem_range'_1, List.not_mem_nil, or_false]
  omega

theorem isBlank_eq_false_iff {character : Char} :
    isBlank character = false ↔ ¬ IsWhitespace character := by
  rw [← isBlank_iff, Bool.not_eq_true]

/-- Before what begins with content all white space is an edge. -/
theorem trimLeadingBreak_of_edge (edge : ∀ character ∈ leading, IsWhitespace character)
    (begins : ∃ character ∈ content.head?, ¬ IsWhitespace character) :
    trimLeadingBreak (leading ++ content) = keptEdge leading ++ content := by
  rcases begins with ⟨first, given, sharp⟩
  rcases List.head?_eq_some_iff.mp given with ⟨others, rfl⟩
  have notBlank := isBlank_eq_false_iff.mpr sharp
  have blank : ∀ character ∈ leading, isBlank character = true :=
    fun character member => isBlank_iff.mpr (edge character member)
  unfold trimLeadingBreak keptEdge
  rw [List.takeWhile_append_of_pos blank, List.dropWhile_append_of_pos blank]
  by_cases broken : '\n' ∈ leading <;> simp [notBlank, broken]

theorem trimTrailingBreak_of_edge (edge : ∀ character ∈ trailing, IsWhitespace character)
    (ends : ∃ character ∈ content.getLast?, ¬ IsWhitespace character) :
    trimTrailingBreak (content ++ trailing) = content ++ keptEdge trailing := by
  have reversed : ∀ character ∈ trailing.reverse, IsWhitespace character :=
    fun character member => edge character (List.mem_reverse.mp member)
  rw [← List.head?_reverse] at ends
  have same : (keptEdge trailing.reverse).reverse = keptEdge trailing := by
    unfold keptEdge
    by_cases broken : '\n' ∈ trailing <;> simp [broken]
  unfold trimTrailingBreak
  rw [List.reverse_append, trimLeadingBreak_of_edge reversed ends, List.reverse_append,
    List.reverse_reverse, same]

theorem trimBreaks_of_blank (blank : ∀ character ∈ run, IsWhitespace character) :
    trimBreaks run = keptEdge run := by
  have all : ∀ character ∈ run, isBlank character = true :=
    fun character member => isBlank_iff.mpr (blank character member)
  have taken := List.takeWhile_eq_self_iff.mpr all
  have dropped := List.dropWhile_eq_nil_iff.mpr all
  unfold trimBreaks keptEdge
  by_cases broken : '\n' ∈ run
  · rw [if_pos broken, trimLeadingBreak, taken, if_pos (List.contains_iff_mem.mpr broken), dropped]
    rfl
  · have unbroken : ∀ {other : List Char}, '\n' ∉ other → trimLeadingBreak other = other :=
      fun none => trimLeadingBreak_eq_self.mpr fun member =>
        none ((List.takeWhile_prefix isBlank).subset member)
    have none : '\n' ∉ run.reverse := mt List.mem_reverse.mp broken
    rw [if_neg broken, unbroken broken, trimTrailingBreak, unbroken none, List.reverse_reverse]

theorem IsWithoutLayout.eq_trimBreaks (without : IsWithoutLayout run left) :
    left = trimBreaks run := by
  cases without with
  | blank blank => exact (trimBreaks_of_blank blank).symm
  | @around leading content trailing leadingBlank trailingBlank first last =>
      have begins : ∃ character ∈ (content ++ trailing).head?, ¬ IsWhitespace character := by
        rcases first with ⟨character, given, sharp⟩
        exact ⟨character, List.mem_head?_append_of_mem_head? given, sharp⟩
      have ends : ∃ character ∈ (keptEdge leading ++ content).getLast?,
          ¬ IsWhitespace character := by
        rcases last with ⟨character, given, sharp⟩
        exact ⟨character, List.mem_getLast?_append_of_mem_getLast? given, sharp⟩
      unfold trimBreaks
      rw [List.append_assoc leading, trimLeadingBreak_of_edge leadingBlank begins,
        ← List.append_assoc, trimTrailingBreak_of_edge trailingBlank ends]

theorem exists_first_of_dropWhile (kept : run.dropWhile isBlank ≠ []) :
    ∃ character ∈ (run.dropWhile isBlank).head?, ¬ IsWhitespace character := by
  refine ⟨_, List.head?_eq_some_head kept, ?_⟩
  exact isBlank_eq_false_iff.mp (List.head_dropWhile_not isBlank kept)

theorem isWhitespace_of_mem_takeWhile {character : Char} (member : character ∈ run.takeWhile isBlank) :
    IsWhitespace character :=
  isBlank_iff.mp (List.mem_takeWhile_imp member)

/-- Every run is white space, or it has content between its edges. -/
theorem isWithoutLayout_trimBreaks (run : List Char) : IsWithoutLayout run (trimBreaks run) := by
  by_cases through : run.dropWhile isBlank = []
  · have blank : ∀ character ∈ run, IsWhitespace character :=
      fun character member => isBlank_iff.mp (List.dropWhile_eq_nil_iff.mp through character member)
    rw [trimBreaks_of_blank blank]
    exact .blank blank
  · rcases exists_first_of_dropWhile through with ⟨first, given, sharp⟩
    generalize inner : run.dropWhile isBlank = kept at given
    have content : kept.reverse.dropWhile isBlank ≠ [] := fun none =>
      sharp (isBlank_iff.mp (List.dropWhile_eq_nil_iff.mp none first
        (List.mem_reverse.mpr (List.mem_of_mem_head? given))))
    have split : kept = (kept.reverse.dropWhile isBlank).reverse
        ++ (kept.reverse.takeWhile isBlank).reverse := by
      rw [← List.reverse_append, List.takeWhile_append_dropWhile, List.reverse_reverse]
    have whole : run = run.takeWhile isBlank ++ (kept.reverse.dropWhile isBlank).reverse
        ++ (kept.reverse.takeWhile isBlank).reverse := by
      rw [List.append_assoc, ← split, ← inner, List.takeWhile_append_dropWhile]
    have begins : ∃ character ∈ (kept.reverse.dropWhile isBlank).reverse.head?,
        ¬ IsWhitespace character := by
      refine ⟨first, ?_, sharp⟩
      rw [split, List.head?_append_of_ne_nil _ (mt List.reverse_eq_nil_iff.mp content)] at given
      exact given
    have ends := exists_first_of_dropWhile content
    rw [← List.getLast?_reverse] at ends
    have leadingBlank : ∀ character ∈ run.takeWhile isBlank, IsWhitespace character :=
      fun _ => isWhitespace_of_mem_takeWhile
    have trailingBlank : ∀ character ∈ (kept.reverse.takeWhile isBlank).reverse,
        IsWhitespace character :=
      fun _ member => isWhitespace_of_mem_takeWhile (List.mem_reverse.mp member)
    have without := IsWithoutLayout.around leadingBlank trailingBlank begins ends
    rw [← whole] at without
    rwa [without.eq_trimBreaks] at without

end Edges

end HtmlStream.Text
