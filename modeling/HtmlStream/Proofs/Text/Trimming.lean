import HtmlStream.Text.Blank

/-!
Trimming at line breaks. A run is left as it is if and only if the blanks at neither end hold a break;
so what is left of a run is left as it is, and so are two such runs together.
-/
namespace HtmlStream.Text

/-- The blanks at the beginning of a run hold no line break. -/
def BeginsUnbroken (run : List Char) : Prop :=
  '\n' ∉ run.takeWhile isBlank

theorem trimLeadingBreak_eq_self {run : List Char} :
    trimLeadingBreak run = run ↔ BeginsUnbroken run := by
  unfold trimLeadingBreak BeginsUnbroken
  rw [← List.contains_iff_mem, Bool.not_eq_true]
  cases broken : (run.takeWhile isBlank).contains '\n' with
  | false => exact ⟨fun _ => rfl, fun _ => rfl⟩
  | true =>
      refine ⟨fun kept => ?_, nofun⟩
      have blanks : run.takeWhile isBlank = [] := by
        have whole : run.takeWhile isBlank ++ run.dropWhile isBlank = run :=
          List.takeWhile_append_dropWhile
        rw [if_pos rfl] at kept
        rw [kept] at whole
        exact List.append_left_eq_self.mp whole
      rw [blanks] at broken
      cases broken

theorem takeWhile_dropWhile (run : List Char) :
    (run.dropWhile isBlank).takeWhile isBlank = [] := by
  induction run with
  | nil => rfl
  | cons first rest induction =>
      cases blank : isBlank first <;> simp [blank, induction]

theorem beginsUnbroken_trimLeadingBreak (run : List Char) :
    BeginsUnbroken (trimLeadingBreak run) := by
  unfold trimLeadingBreak
  split
  next =>
    unfold BeginsUnbroken
    rw [takeWhile_dropWhile]
    exact List.not_mem_nil
  next unbroken =>
    unfold BeginsUnbroken
    rwa [← List.contains_iff_mem]

theorem BeginsUnbroken.of_isPrefix {shorter run : List Char} (unbroken : BeginsUnbroken run)
    (within : shorter <+: run) : BeginsUnbroken shorter := by
  rcases within with ⟨rest, rfl⟩
  intro broken
  refine unbroken ?_
  rw [List.takeWhile_append]
  split
  · exact List.mem_append_left _ ((List.takeWhile_prefix isBlank).subset broken)
  · exact broken

theorem BeginsUnbroken.append {first second : List Char} (earlier : BeginsUnbroken first)
    (later : BeginsUnbroken second) : BeginsUnbroken (first ++ second) := by
  unfold BeginsUnbroken at *
  rw [List.takeWhile_append]
  split
  next blank =>
    have all : first.takeWhile isBlank = first :=
      (List.takeWhile_prefix isBlank).eq_of_length blank
    rw [all] at earlier
    rw [List.mem_append]
    exact not_or.mpr ⟨earlier, later⟩
  next => exact earlier

theorem trimLeadingBreak_isSuffix (run : List Char) : trimLeadingBreak run <:+ run := by
  unfold trimLeadingBreak
  split
  · exact List.dropWhile_suffix isBlank
  · exact List.suffix_refl run

theorem trimTrailingBreak_isPrefix (run : List Char) : trimTrailingBreak run <+: run := by
  have reversed := List.reverse_prefix.mpr (trimLeadingBreak_isSuffix run.reverse)
  rwa [List.reverse_reverse] at reversed

/-- Neither end of a run has blanks that hold a line break. -/
structure IsTrimmed (run : List Char) : Prop where
  leading : BeginsUnbroken run
  trailing : BeginsUnbroken run.reverse

theorem trimBreaks_eq_self {run : List Char} : trimBreaks run = run ↔ IsTrimmed run := by
  constructor
  · intro kept
    have inside := trimTrailingBreak_isPrefix (trimLeadingBreak run)
    have leading : trimLeadingBreak run = run :=
      (trimLeadingBreak_isSuffix run).eq_of_length_le (by
        have shorter := inside.length_le
        rwa [show trimTrailingBreak (trimLeadingBreak run) = run from kept] at shorter)
    refine ⟨trimLeadingBreak_eq_self.mp leading, trimLeadingBreak_eq_self.mp ?_⟩
    unfold trimBreaks trimTrailingBreak at kept
    rw [leading] at kept
    rw [← List.reverse_inj, List.reverse_reverse]
    exact kept
  · intro trimmed
    unfold trimBreaks trimTrailingBreak
    rw [trimLeadingBreak_eq_self.mpr trimmed.leading,
      trimLeadingBreak_eq_self.mpr trimmed.trailing, List.reverse_reverse]

/-- What is left of a run is trimmed. -/
theorem isTrimmed_trimBreaks (run : List Char) : IsTrimmed (trimBreaks run) where
  leading :=
    (beginsUnbroken_trimLeadingBreak run).of_isPrefix
      (trimTrailingBreak_isPrefix (trimLeadingBreak run))
  trailing := by
    unfold trimBreaks trimTrailingBreak
    rw [List.reverse_reverse]
    exact beginsUnbroken_trimLeadingBreak _

theorem IsTrimmed.append {first second : List Char} (earlier : IsTrimmed first)
    (later : IsTrimmed second) : IsTrimmed (first ++ second) where
  leading := earlier.leading.append later.leading
  trailing := by
    rw [List.reverse_append]
    exact later.trailing.append earlier.trailing

theorem isTrimmed_nil : IsTrimmed [] := ⟨List.not_mem_nil, List.not_mem_nil⟩

theorem mem_of_mem_trimBreaks {run : List Char} {character : Char}
    (member : character ∈ trimBreaks run) : character ∈ run :=
  (trimLeadingBreak_isSuffix run).subset
    ((trimTrailingBreak_isPrefix (trimLeadingBreak run)).subset member)

end HtmlStream.Text
