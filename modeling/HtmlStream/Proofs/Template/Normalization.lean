import HtmlStream.Serializer
import HtmlStream.Template.Tree

/-!
What changing the texts of a tree keeps, and what normalizing keeps. A trimmed tree is normal already,
and escaped texts can always be read back.
-/
namespace HtmlStream.Template.Tree

/-! ## Names -/

theorem ofRun_empty : ofRun "" = [] := by
  with_unfolding_all rfl

theorem gathered_nil : gathered "" [] = [] := ofRun_empty

theorem gathered_element (name : String) (attributes : List (String × Option String))
    (children later : List Tree) :
    gathered "" (element name attributes children :: later)
      = normalized (element name attributes children) :: gathered "" later := by
  rw [gathered, ofRun_empty]
  rfl

theorem ofRun_eq (run : String) : ofRun run = [] ∨ ∃ content, ofRun run = [text content] := by
  unfold ofRun
  generalize Text.trimBreaks run.toList = trimmed
  cases trimmed with
  | nil => exact .inl rfl
  | cons head tail => exact .inr ⟨_, rfl⟩

theorem haveReadableNames_ofRun (run : String) (later : List Tree)
    (names : HaveReadableNames later) :
    HaveReadableNames (ofRun run ++ later) := by
  have parts := ofRun_eq run
  generalize ofRun run = read at parts ⊢
  rcases parts with rfl | ⟨content, rfl⟩
  · exact names
  · exact ⟨trivial, names⟩

mutual
theorem hasReadableNames_normalized (tree : Tree) (names : tree.HasReadableNames) :
    tree.normalized.HasReadableNames := by
  cases tree with
  | text content => trivial
  | element name attributes children =>
      rw [HasReadableNames] at names
      rcases names with ⟨readable, readables, distinct, noContent, childNames⟩
      rw [normalized, HasReadableNames]
      refine ⟨readable, readables, distinct, ?_, haveReadableNames_gathered children "" childNames⟩
      intro void
      rw [noContent void]
      exact gathered_nil

theorem haveReadableNames_gathered (trees : List Tree) (run : String)
    (names : HaveReadableNames trees) :
    HaveReadableNames (gathered run trees) := by
  cases trees with
  | nil =>
      have alone := haveReadableNames_ofRun run [] trivial
      rw [List.append_nil] at alone
      rw [gathered]
      exact alone
  | cons head tail =>
      rw [HaveReadableNames] at names
      cases head with
      | text content => exact haveReadableNames_gathered tail (run ++ content) names.2
      | element name attributes children =>
          have first := hasReadableNames_normalized (.element name attributes children) names.1
          have later := haveReadableNames_gathered tail "" names.2
          rw [gathered]
          exact haveReadableNames_ofRun run _ ⟨first, later⟩
end

section Changed

variable (change : String → String)

theorem names_changed (attributes : List (String × Option String)) :
    (attributes.map fun entry => (entry.1, entry.2.map change)).map Prod.fst
      = attributes.map Prod.fst := by
  rw [List.map_map]
  rfl

mutual
theorem hasReadableNames_mapTexts (tree : Tree) (names : tree.HasReadableNames) :
    (tree.mapTexts change).HasReadableNames := by
  cases tree with
  | text content => trivial
  | element name attributes children =>
      rw [HasReadableNames] at names
      rcases names with ⟨readable, readables, distinct, noContent, childNames⟩
      rw [mapTexts, HasReadableNames, names_changed]
      refine ⟨readable, ?_, distinct, ?_, haveReadableNames_mapAllTexts children childNames⟩
      · intro entry member
        rcases List.mem_map.mp member with ⟨given, earlier, rfl⟩
        exact readables given earlier
      · intro void
        rw [noContent void]
        rfl

theorem haveReadableNames_mapAllTexts (trees : List Tree) (names : HaveReadableNames trees) :
    HaveReadableNames (mapAllTexts change trees) := by
  cases trees with
  | nil => trivial
  | cons head tail =>
      rw [HaveReadableNames] at names
      exact ⟨hasReadableNames_mapTexts head names.1, haveReadableNames_mapAllTexts tail names.2⟩
end

variable {change}

mutual
theorem mapTexts_of_unchanged (unchanged : ∀ text, change text = text) (tree : Tree) :
    tree.mapTexts change = tree := by
  cases tree with
  | text content => rw [mapTexts, unchanged]
  | element name attributes children =>
      have same : change = id := funext unchanged
      have kept : (attributes.map fun entry => (entry.1, entry.2.map change)) = attributes := by
        rw [same]
        simp
      rw [mapTexts, kept, mapAllTexts_of_unchanged unchanged children]

theorem mapAllTexts_of_unchanged (unchanged : ∀ text, change text = text) (trees : List Tree) :
    mapAllTexts change trees = trees := by
  cases trees with
  | nil => rfl
  | cons head tail =>
      rw [mapAllTexts, mapTexts_of_unchanged unchanged head, mapAllTexts_of_unchanged unchanged tail]
end

mutual
theorem hasReadableTexts_mapTexts (noBracket : ∀ text, '<' ∉ (change text).toList)
    (noQuote : ∀ text, '"' ∉ (change text).toList) (tree : Tree) :
    (tree.mapTexts change).HasReadableTexts := by
  cases tree with
  | text content => exact noBracket content
  | element name attributes children =>
      rw [mapTexts, HasReadableTexts]
      refine ⟨?_, haveReadableTexts_mapAllTexts noBracket noQuote children⟩
      intro entry member content given
      rcases List.mem_map.mp member with ⟨earlier, _, rfl⟩
      rcases Option.map_eq_some_iff.mp given with ⟨original, _, rfl⟩
      exact noQuote original

theorem haveReadableTexts_mapAllTexts (noBracket : ∀ text, '<' ∉ (change text).toList)
    (noQuote : ∀ text, '"' ∉ (change text).toList) (trees : List Tree) :
    HaveReadableTexts (mapAllTexts change trees) := by
  cases trees with
  | nil => trivial
  | cons head tail =>
      exact ⟨hasReadableTexts_mapTexts noBracket noQuote head,
        haveReadableTexts_mapAllTexts noBracket noQuote tail⟩
end

end Changed

/-! ## Escaped texts -/

theorem unread_of_mem_escapedCharacter {original character : Char}
    (member : character ∈ escapedCharacter original) : character ≠ '<' ∧ character ≠ '"' := by
  have entities : ∀ entity ∈ ["&amp;", "&lt;", "&gt;", "&quot;", "&#x27;"],
      ∀ character ∈ entity.toList, character ≠ '<' ∧ character ≠ '"' := by simp
  unfold escapedCharacter at member
  split at member
  case h_6 _ bracket _ quote _ =>
    rcases List.mem_singleton.mp member with rfl
    exact ⟨bracket, quote⟩
  all_goals exact entities _ (by simp) character member

theorem unread_of_mem_escapeHtml {text : String} {character : Char}
    (member : character ∈ (escapeHtml text).toList) : character ≠ '<' ∧ character ≠ '"' := by
  unfold escapeHtml at member
  rw [String.toList_ofList] at member
  rcases List.mem_flatMap.mp member with ⟨original, _, written⟩
  exact unread_of_mem_escapedCharacter written

theorem hasReadableTexts_escaped (tree : Tree) : (tree.mapTexts escapeHtml).HasReadableTexts := by
  apply hasReadableTexts_mapTexts
  · intro text member
    exact (unread_of_mem_escapeHtml member).1 rfl
  · intro text member
    exact (unread_of_mem_escapeHtml member).2 rfl

/-! ## Trimmed trees -/

theorem ofRun_of_isTrimmed {content : String} (trimmed : (text content).IsTrimmed) :
    ofRun content = [text content] := by
  rw [IsTrimmed] at trimmed
  rcases trimmed with ⟨nonempty, fixed⟩
  have characters : content.toList.isEmpty = false := by
    simpa using nonempty
  unfold ofRun
  dsimp only
  rw [fixed, characters, String.ofList_toList]
  rfl

theorem gathered_of_areApart {content : String} {rest : List Tree}
    (apart : AreApart (text content :: rest)) (run : String) :
    gathered run rest = ofRun run ++ gathered "" rest := by
  cases rest with
  | nil =>
      rw [gathered_nil, List.append_nil]
      rfl
  | cons head tail =>
      cases head with
      | text other => exact apart.elim
      | element name attributes children =>
          rw [gathered_element]
          rfl

mutual
theorem normalized_of_isTrimmed (tree : Tree) (trimmed : tree.IsTrimmed) :
    tree.normalized = tree := by
  cases tree with
  | text content => rfl
  | element name attributes children =>
      rw [IsTrimmed] at trimmed
      rw [normalized, gathered_of_areTrimmed children trimmed.1 trimmed.2]

theorem gathered_of_areTrimmed (trees : List Tree) (apart : AreApart trees)
    (trimmed : AreTrimmed trees) : gathered "" trees = trees := by
  cases trees with
  | nil => exact gathered_nil
  | cons head tail =>
      rw [AreTrimmed] at trimmed
      cases head with
      | text content =>
          have later : AreApart tail := by
            cases tail with
            | nil => trivial
            | cons next others =>
                cases next with
                | text other => exact apart.elim
                | element name attributes children => exact apart
          rw [gathered, String.empty_append, gathered_of_areApart apart,
            ofRun_of_isTrimmed trimmed.1, gathered_of_areTrimmed tail later trimmed.2]
          rfl
      | element name attributes children =>
          rw [gathered_element, normalized_of_isTrimmed _ trimmed.1,
            gathered_of_areTrimmed tail apart trimmed.2]
end

end HtmlStream.Template.Tree
