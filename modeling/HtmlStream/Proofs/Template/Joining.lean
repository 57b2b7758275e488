import HtmlStream.Proofs.Template.Content

/-!
Contents with adjacent texts joined, as they are read from their markup. Joining changes neither the
markup nor how deep it nests, and what it gives is as legible, since trimmed texts stay trimmed together.
-/
namespace HtmlStream.Template.Content

def ofRun (run : String) : List Content :=
  if run.isEmpty then [] else [.text run]

mutual
def normalized : Content → Content
  | .text content => .text content
  | .declaration content => .declaration content
  | .element name attributes children => .element name attributes (gathered "" children)

/-- The contents after a run of text, each with the texts that follow it joined to it. -/
def gathered (run : String) : List Content → List Content
  | [] => ofRun run
  | .text content :: rest => gathered (run ++ content) rest
  | .declaration content :: rest =>
      ofRun run ++ normalized (.declaration content) :: gathered "" rest
  | .element name attributes children :: rest =>
      ofRun run ++ normalized (.element name attributes children) :: gathered "" rest
end

theorem ofRun_empty : ofRun "" = [] := rfl

theorem sources_append (first second : List Content) :
    sources (first ++ second) = sources first ++ sources second := by
  induction first with
  | nil => rfl
  | cons head tail induction => rw [List.cons_append, sources, sources, induction, List.append_assoc]

theorem sources_ofRun (run : String) : sources (ofRun run) = run.toList := by
  unfold ofRun
  cases empty : run.isEmpty with
  | true =>
      rw [String.isEmpty_iff.mp empty]
      rfl
  | false => exact List.append_nil _

mutual
theorem source_normalized (content : Content) : content.normalized.source = content.source := by
  cases content with
  | text content => rfl
  | declaration content => rfl
  | element name attributes children =>
      rw [normalized, source, source, sources_gathered children "", String.toList_empty,
        List.nil_append]

theorem sources_gathered (contents : List Content) (run : String) :
    sources (gathered run contents) = run.toList ++ sources contents := by
  cases contents with
  | nil => rw [gathered, sources_ofRun, sources, List.append_nil]
  | cons head tail =>
      cases head with
      | text content =>
          rw [gathered, sources_gathered tail, String.toList_append, List.append_assoc]
          rfl
      | declaration content =>
          rw [gathered, sources_append, sources_ofRun, sources, source_normalized,
            sources_gathered tail]
          rfl
      | element name attributes children =>
          rw [gathered, sources_append, sources_ofRun, sources, source_normalized,
            sources_gathered tail]
          rfl
end

theorem depths_append (first second : List Content) :
    depths (first ++ second) = max (depths first) (depths second) := by
  induction first with
  | nil => exact (Nat.zero_max _).symm
  | cons head tail induction => rw [List.cons_append, depths, depths, induction, Nat.max_assoc]

theorem depths_ofRun (run : String) : depths (ofRun run) = 0 := by
  unfold ofRun
  split <;> rfl

mutual
theorem depth_normalized (content : Content) : content.normalized.depth = content.depth := by
  cases content with
  | text content => rfl
  | declaration content => rfl
  | element name attributes children =>
      rw [normalized, depth, depth, depths_gathered children]

theorem depths_gathered (contents : List Content) (run : String) :
    depths (gathered run contents) = depths contents := by
  cases contents with
  | nil => exact depths_ofRun run
  | cons head tail =>
      cases head with
      | text content =>
          rw [gathered, depths_gathered tail]
          exact (Nat.zero_max _).symm
      | declaration content =>
          rw [gathered, depths_append, depths_ofRun, Nat.zero_max, depths, depths, depth_normalized,
            depths_gathered tail]
      | element name attributes children =>
          rw [gathered, depths_append, depths_ofRun, Nat.zero_max, depths, depths, depth_normalized,
            depths_gathered tail]
end

/-- A run of text that reading leaves as it is. -/
structure IsRun (run : List Char) : Prop where
  noBracket : '<' ∉ run
  trimmed : Text.IsTrimmed run

theorem isRun_nil : IsRun [] := ⟨List.not_mem_nil, Text.isTrimmed_nil⟩

theorem IsRun.append {first second : List Char} (earlier : IsRun first) (later : IsRun second) :
    IsRun (first ++ second) where
  noBracket := by
    rw [List.mem_append]
    exact not_or.mpr ⟨earlier.noBracket, later.noBracket⟩
  trimmed := earlier.trimmed.append later.trimmed

theorem isRun_of_isLegibleText {content : String} (legible : IsLegibleText content) :
    IsRun content.toList :=
  ⟨legible.1, legible.2.2⟩

theorem areLegible_append {first second : List Content} (earlier : AreLegible first)
    (later : AreLegible second) : AreLegible (first ++ second) := by
  induction first with
  | nil => exact later
  | cons head tail induction => exact ⟨earlier.1, induction earlier.2⟩

theorem areLegible_ofRun {run : String} (isRun : IsRun run.toList) : AreLegible (ofRun run) := by
  unfold ofRun
  split
  · trivial
  next nonempty =>
    exact ⟨⟨isRun.noBracket, fun empty => nonempty (String.isEmpty_iff.mpr empty), isRun.trimmed⟩,
      trivial⟩

mutual
theorem isLegible_normalized (content : Content) (legible : content.IsLegible) :
    content.normalized.IsLegible := by
  cases content with
  | text content => exact legible
  | declaration content => exact legible
  | element name attributes children =>
      rcases legible with ⟨readable, attributesReadable, distinct, void, below⟩
      refine ⟨readable, attributesReadable, distinct, fun isVoid => ?_,
        areLegible_gathered children "" isRun_nil below⟩
      rw [void isVoid]
      rfl

theorem areLegible_gathered (contents : List Content) (run : String) (isRun : IsRun run.toList)
    (legible : AreLegible contents) : AreLegible (gathered run contents) := by
  cases contents with
  | nil => exact areLegible_ofRun isRun
  | cons head tail =>
      cases head with
      | text content =>
          refine areLegible_gathered tail (run ++ content) ?_ legible.2
          rw [String.toList_append]
          exact isRun.append (isRun_of_isLegibleText legible.1)
      | declaration content =>
          exact areLegible_append (areLegible_ofRun isRun)
            ⟨legible.1, areLegible_gathered tail "" isRun_nil legible.2⟩
      | element name attributes children =>
          exact areLegible_append (areLegible_ofRun isRun)
            ⟨isLegible_normalized _ legible.1, areLegible_gathered tail "" isRun_nil legible.2⟩
end

/-! ## Nodes -/

mutual
def toNode : Content → Node
  | .text content => .text content
  | .declaration content => .markup content
  | .element name attributes children =>
      .element ⟨.literal name, attributes.map Tree.toAttribute⟩ (toNodes children)

def toNodes : List Content → List Node
  | [] => []
  | head :: tail => toNode head :: toNodes tail
end

theorem toNodes_append (first second : List Content) :
    toNodes (first ++ second) = toNodes first ++ toNodes second := by
  induction first with
  | nil => rfl
  | cons head tail induction => exact congrArg (toNode head :: ·) induction

mutual
theorem content_toNode (content : Content) (legible : content.IsLegible) :
    content.toNode.content = content := by
  cases content with
  | text content => rfl
  | declaration content => rfl
  | element name attributes children =>
      rcases legible with ⟨_, readable, distinct, _, below⟩
      rw [toNode, Node.content, shownAttributes_toAttribute readable distinct,
        contents_toNodes children below]

theorem contents_toNodes (contents : List Content) (legible : AreLegible contents) :
    Node.contents (toNodes contents) = contents := by
  cases contents with
  | nil => rfl
  | cons head tail =>
      rw [toNodes, Node.contents, content_toNode head legible.1, contents_toNodes tail legible.2]
end

end HtmlStream.Template.Content
