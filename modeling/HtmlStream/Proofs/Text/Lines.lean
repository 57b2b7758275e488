import HtmlStream.Text.Lines
import Mathlib.Data.List.Basic

/-!
Two ways to count the lines of a text: by all line boundaries, and by line feeds alone. They agree up
to a line as long as no line before it holds another boundary. The main statements are
`linesFrom_getElem?_of_agree` and `exists_linesFrom_getElem?`.
-/
namespace HtmlStream.Text

/-- No boundary breaks a line that a line feed ends; a carriage return at its end is one with the
line feed. -/
def isOneLine : List Char → Bool
  | [] => true
  | ['\r'] => true
  | character :: rest => !isLineBoundary character && isOneLine rest

/-- The first lines of a text, each with the line feed that ends it. -/
def firstLines (source : List Char) (count : Nat) : List Char :=
  ((source.splitOn '\n').take count).flatMap (· ++ ['\n'])

/-- All boundaries and line feeds alone make the same lines up to a number of them. -/
def linesAgree (source : List Char) (count : Nat) : Bool :=
  ((source.splitOn '\n').take count).all isOneLine

variable {line content rest source failing : List Char} {character : Char} {count : Nat}

/-! ## The lines by all boundaries -/

theorem isLineBoundary_lineFeed : isLineBoundary '\n' = true := rfl

theorem isLineBoundary_return : isLineBoundary '\r' = true := rfl

theorem linesFrom_lineFeed (line rest : List Char) :
    linesFrom line ('\n' :: rest) = line.reverse :: linesFrom [] rest := rfl

theorem linesFrom_boundary (boundary : isLineBoundary character = true)
    (single : ∀ later, character = '\r' → rest = '\n' :: later → False) :
    linesFrom line (character :: rest) = line.reverse :: linesFrom [] rest := by
  rw [linesFrom.eq_3 line character rest single, if_pos boundary]

theorem linesFrom_character (inside : isLineBoundary character = false) :
    linesFrom line (character :: rest) = linesFrom (character :: line) rest := by
  have single : ∀ later, character = '\r' → rest = '\n' :: later → False := by
    rintro later rfl
    simp [isLineBoundary_return] at inside
  rw [linesFrom.eq_3 line character rest single, inside]
  rfl

/-- How the lines of a text are read: the text has ended, a carriage return and a line feed end the
line, another boundary does, or the line goes on. -/
theorem lines_induction {motive : List Char → List Char → Prop} (ended : ∀ line, motive line [])
    (returned : ∀ line rest, motive [] rest → motive line ('\r' :: '\n' :: rest))
    (broken : ∀ line character rest,
      (∀ later, character = '\r' → rest = '\n' :: later → False) →
      isLineBoundary character = true → motive [] rest → motive line (character :: rest))
    (inside : ∀ line character rest, isLineBoundary character = false →
      motive (character :: line) rest → motive line (character :: rest))
    (line text : List Char) : motive line text :=
  linesFrom.induct motive (fun line _ => ended line) (fun line _ => ended line) returned broken
    (fun line character rest _ unbroken => inside line character rest (Bool.eq_false_iff.mpr unbroken))
    line text

/-- The first line ends before the first boundary. -/
theorem head?_linesFrom (line text : List Char) :
    (linesFrom line text).head?
      = if line = [] ∧ text = [] then none
        else some (line.reverse ++ text.takeWhile (fun character => !isLineBoundary character)) := by
  induction line, text using lines_induction with
  | ended line => cases line <;> simp [linesFrom]
  | returned line rest induction => simp [linesFrom, isLineBoundary_return]
  | broken line character rest single boundary induction =>
      simp [linesFrom_boundary boundary single, boundary]
  | inside line character rest unbroken induction =>
      simp [linesFrom_character unbroken, induction, unbroken]

theorem linesFrom_ne_nil (line : List Char) {text : List Char} (some : text ≠ []) :
    linesFrom line text ≠ [] := by
  intro empty
  have first := head?_linesFrom line text
  simp [empty, some] at first

/-- A line feed ends a line, so what comes after it is read as if it were all. -/
theorem linesFrom_append (line content rest : List Char) :
    linesFrom line (content ++ '\n' :: rest)
      = linesFrom line (content ++ ['\n']) ++ linesFrom [] rest := by
  induction line, content using lines_induction with
  | ended line => rfl
  | returned line later induction => exact congrArg (line.reverse :: ·) induction
  | broken line character later single boundary induction =>
      -- A carriage return at the end of the content is one boundary with the line feed.
      by_cases last : character = '\r' ∧ later = []
      · obtain ⟨rfl, rfl⟩ := last
        rfl
      · have apart : ∀ others more, character = '\r' → later ++ '\n' :: others = '\n' :: more →
            False := by
          intro others more returned starts
          cases later with
          | nil => exact last ⟨returned, rfl⟩
          | cons second after =>
              obtain ⟨rfl, -⟩ := List.cons.inj starts
              exact single after returned rfl
        rw [List.cons_append, List.cons_append, linesFrom_boundary boundary (apart rest),
          linesFrom_boundary boundary (apart []), induction]
        rfl
  | inside line character later unbroken induction =>
      rw [List.cons_append, List.cons_append, linesFrom_character unbroken,
        linesFrom_character unbroken, induction]

/-- A line that a line feed ends is at least one line, and not more than one if nothing else breaks
it. -/
theorem length_linesFrom_lineFeed (line content : List Char) :
    1 ≤ (linesFrom line (content ++ ['\n'])).length ∧
      ((linesFrom line (content ++ ['\n'])).length = 1 ↔ isOneLine content = true) := by
  fun_induction isOneLine content generalizing line with
  | case1 => simp [linesFrom_lineFeed, linesFrom]
  | case2 => simp [linesFrom]
  | case3 character rest notReturn induction =>
      cases boundary : isLineBoundary character with
      | false => simpa [linesFrom_character boundary] using induction (character :: line)
      | true =>
          by_cases joined : ∃ after, character = '\r' ∧ rest ++ ['\n'] = '\n' :: after
          · obtain ⟨after, rfl, starts⟩ := joined
            have more : after ≠ [] := by
              rintro rfl
              exact notReturn rfl (List.append_left_eq_self.mp starts)
            have lines : linesFrom line ('\r' :: (rest ++ ['\n']))
                = line.reverse :: linesFrom [] after := by
              rw [starts]
              rfl
            simp [lines, linesFrom_ne_nil [] more]
          · have lines : linesFrom line (character :: (rest ++ ['\n']))
                = line.reverse :: linesFrom [] (rest ++ ['\n']) :=
              linesFrom_boundary boundary fun after returned starts =>
                joined ⟨after, returned, starts⟩
            have more : rest ++ ['\n'] ≠ [] := by simp
            simp [lines, linesFrom_ne_nil [] more]

/-- No boundary is inside of a line. -/
theorem not_isLineBoundary_of_mem {text found : List Char} (member : found ∈ linesFrom line text)
    (inside : ∀ character ∈ line, isLineBoundary character = false) :
    ∀ character ∈ found, isLineBoundary character = false := by
  induction line, text using lines_induction with
  | ended line =>
      unfold linesFrom at member
      split at member
      · cases member
      · simp_all
  | returned line rest induction =>
      cases List.mem_cons.mp member with
      | inl here => simp_all
      | inr later => exact induction later (by simp)
  | broken line character rest single boundary induction =>
      rw [linesFrom_boundary boundary single] at member
      cases List.mem_cons.mp member with
      | inl here => simp_all
      | inr later => exact induction later (by simp)
  | inside line character rest unbroken induction =>
      rw [linesFrom_character unbroken] at member
      exact induction member (by simp_all)

/-- A line holds no other characters than the text. -/
theorem mem_or_mem_of_mem_linesFrom {text found : List Char} (member : found ∈ linesFrom line text)
    (within : character ∈ found) : character ∈ line ∨ character ∈ text := by
  induction line, text using lines_induction with
  | ended line =>
      unfold linesFrom at member
      split at member
      · cases member
      · simp_all
  | returned line rest induction =>
      cases List.mem_cons.mp member with
      | inl here => simp_all
      | inr later => simp_all
  | broken line head rest single boundary induction =>
      rw [linesFrom_boundary boundary single] at member
      cases List.mem_cons.mp member with
      | inl here => simp_all
      | inr later => simp_all
  | inside line head rest unbroken induction =>
      rw [linesFrom_character unbroken] at member
      rcases induction member with early | late
      · exact (List.mem_cons.mp early).elim (fun equal => .inr (equal ▸ List.mem_cons_self)) .inl
      · exact .inr (List.mem_cons_of_mem head late)

/-! ## The lines by line feeds -/

theorem linesFrom_flatMap (contents : List (List Char)) (rest : List Char) :
    linesFrom [] (contents.flatMap (· ++ ['\n']) ++ rest)
      = linesFrom [] (contents.flatMap (· ++ ['\n'])) ++ linesFrom [] rest := by
  induction contents with
  | nil => rfl
  | cons content others induction =>
      have first := linesFrom_append [] content (others.flatMap (· ++ ['\n']))
      have whole := linesFrom_append [] content (others.flatMap (· ++ ['\n']) ++ rest)
      simp only [List.flatMap_cons, List.append_assoc, List.cons_append, List.nil_append]
      rw [first, whole, induction, List.append_assoc]

/-- There are at least as many lines by all boundaries as by line feeds. -/
theorem length_linesFrom_flatMap (contents : List (List Char)) :
    contents.length ≤ (linesFrom [] (contents.flatMap (· ++ ['\n']))).length ∧
      ((linesFrom [] (contents.flatMap (· ++ ['\n']))).length = contents.length ↔
        contents.all isOneLine = true) := by
  induction contents with
  | nil => simp [linesFrom]
  | cons content others induction =>
      have split := linesFrom_append [] content (others.flatMap (· ++ ['\n']))
      obtain ⟨least, single⟩ := length_linesFrom_lineFeed [] content
      obtain ⟨leastOthers, singles⟩ := induction
      rw [List.flatMap_cons, List.append_assoc, List.singleton_append, split, List.length_append,
        List.length_cons, List.all_cons, Bool.and_eq_true, ← single, ← singles]
      omega

theorem firstLines_succ {first rest : List Char} (count : Nat) (single : '\n' ∉ first) :
    firstLines (first ++ '\n' :: rest) (count + 1) = first ++ '\n' :: firstLines rest count := by
  simp [firstLines, List.splitOn_append_cons_self_of_not_mem single]

/-- A text is its first lines and what is left, which begins with the line after them. -/
theorem exists_rest_of_splitOn
    (found : (source.splitOn '\n')[count]? = some failing) :
    ∃ rest, source = firstLines source count ++ (failing ++ rest) ∧
      (rest = [] ∧ count + 1 = (source.splitOn '\n').length ∨
        (∃ later, rest = '\n' :: later) ∧ count + 1 < (source.splitOn '\n').length) := by
  induction count generalizing source with
  | zero =>
      by_cases several : '\n' ∈ source
      · obtain ⟨first, later, rfl, single⟩ := List.eq_append_cons_of_mem several
        have some := List.length_pos_iff.mpr (List.splitOn_ne_nil '\n' later)
        rw [List.splitOn_append_cons_self_of_not_mem single] at found ⊢
        cases found
        exact ⟨'\n' :: later, rfl, .inr ⟨⟨later, rfl⟩, by simpa using some⟩⟩
      · rw [List.splitOn_eq_singleton several] at found ⊢
        cases found
        exact ⟨[], by simp [firstLines], .inl ⟨rfl, rfl⟩⟩
  | succ count induction =>
      by_cases several : '\n' ∈ source
      · obtain ⟨first, later, rfl, single⟩ := List.eq_append_cons_of_mem several
        have lines := List.splitOn_append_cons_self_of_not_mem single later
        rw [lines] at found
        obtain ⟨rest, whole, ends⟩ := induction found
        refine ⟨rest, ?_, ?_⟩
        · rw [firstLines_succ count single, List.append_assoc, List.cons_append, ← whole]
        · simpa [lines] using ends
      · rw [List.splitOn_eq_singleton several] at found
        cases found

/-- There are more lines by all boundaries than by line feeds as soon as the two differ. -/
theorem length_linesFrom_firstLines (within : count ≤ (source.splitOn '\n').length) :
    count ≤ (linesFrom [] (firstLines source count)).length ∧
      ((linesFrom [] (firstLines source count)).length = count ↔ linesAgree source count = true) := by
  have lengths := length_linesFrom_flatMap ((source.splitOn '\n').take count)
  rwa [List.length_take, Nat.min_eq_left within] at lengths

theorem takeWhile_append_of_lineFeed (ends : rest = [] ∨ ∃ later, rest = '\n' :: later) :
    (failing ++ rest).takeWhile (fun character => !isLineBoundary character)
      = failing.takeWhile fun character => !isLineBoundary character := by
  have boundary : rest.takeWhile (fun character => !isLineBoundary character) = [] := by
    rcases ends with rfl | ⟨later, rfl⟩ <;> simp [isLineBoundary_lineFeed]
  rw [List.takeWhile_append, boundary]
  split_ifs with unbroken
  · rw [List.append_nil, (List.takeWhile_prefix _).eq_of_length unbroken]
  · rfl

theorem linesFrom_eq_append (found : (source.splitOn '\n')[count]? = some failing) :
    ∃ rest, linesFrom [] source
        = linesFrom [] (firstLines source count) ++ linesFrom [] (failing ++ rest) ∧
      (rest = [] ∨ ∃ later, rest = '\n' :: later) ∧
      (rest = [] ↔ count + 1 = (source.splitOn '\n').length) := by
  obtain ⟨rest, whole, ends⟩ := exists_rest_of_splitOn found
  refine ⟨rest, ?_, ?_, ?_⟩
  · conv_lhs => rw [whole]
    exact linesFrom_flatMap _ _
  · cases ends with
    | inl last => exact .inl last.1
    | inr more => exact .inr more.1
  · cases ends with
    | inl last => simp [last]
    | inr more =>
        obtain ⟨⟨later, rfl⟩, more⟩ := more
        simp [Nat.ne_of_lt more]

/-- Where the lines before it agree, a line by all boundaries is the line by line feeds up to the
first boundary in it; only an empty last line is none. -/
theorem linesFrom_getElem?_of_agree (found : (source.splitOn '\n')[count]? = some failing)
    (agree : linesAgree source count = true) :
    (linesFrom [] source)[count]?
      = if failing = [] ∧ count + 1 = (source.splitOn '\n').length then none
        else some (failing.takeWhile fun character => !isLineBoundary character) := by
  obtain ⟨rest, lines, ends, last⟩ := linesFrom_eq_append found
  have within : count < (source.splitOn '\n').length := (List.getElem?_eq_some_iff.mp found).1
  have counted := (length_linesFrom_firstLines (Nat.le_of_lt within)).2.mpr agree
  have nothing : failing ++ rest = []
      ↔ failing = [] ∧ count + 1 = (source.splitOn '\n').length := by
    rw [List.append_eq_nil_iff, last]
  rw [lines, List.getElem?_append_right (Nat.le_of_eq counted), counted, Nat.sub_self,
    ← List.head?_eq_getElem?, head?_linesFrom, takeWhile_append_of_lineFeed ends]
  simp [nothing]

/-- Where they do not agree, the line by all boundaries ends before the line by line feeds. -/
theorem exists_linesFrom_getElem? (found : (source.splitOn '\n')[count]? = some failing)
    (differ : linesAgree source count = false) :
    ∃ content, (linesFrom [] source)[count]? = some content ∧
      (linesFrom [] (firstLines source count))[count]? = some content := by
  obtain ⟨rest, lines, -, -⟩ := linesFrom_eq_append found
  have within : count < (source.splitOn '\n').length := (List.getElem?_eq_some_iff.mp found).1
  obtain ⟨least, same⟩ := length_linesFrom_firstLines (Nat.le_of_lt within)
  have more : count < (linesFrom [] (firstLines source count)).length :=
    Nat.lt_of_le_of_ne least fun equal => Bool.eq_false_iff.mp differ (same.mp equal.symm)
  refine ⟨(linesFrom [] (firstLines source count))[count], ?_, List.getElem?_eq_getElem more⟩
  rw [lines, List.getElem?_append_left more, List.getElem?_eq_getElem more]

end HtmlStream.Text
