import Mathlib.Data.List.Nodup

/-!
Histories of render contexts. Whoever leaves a context makes current again what was current when
that context was entered, whatever has been entered and left in between. So what is current follows
from what has been entered and left, and in which order. The main statement is
`currentAfter_of_isNested`: if a context is left only while it is the innermost one, the innermost
one is current.
-/
namespace HtmlStream

inductive Mark where
  | entered (context : Nat)
  | left (context : Nat)

/-- What has been entered and left, last mark first. -/
abbrev History := List Mark

namespace History

mutual
/-- What is current after all of a history, where `before` was current at first. -/
def currentAfter (before : Option Nat) : History → Option Nat
  | [] => before
  | .entered context :: _ => some context
  | .left context :: earlier => outerOf before context earlier

/-- What was current when a context was entered. -/
def outerOf (before : Option Nat) (context : Nat) : History → Option Nat
  | [] => before
  | .entered other :: earlier =>
      if other = context then currentAfter before earlier else outerOf before context earlier
  | .left _ :: earlier => outerOf before context earlier
end

/-- The contexts that have been entered, last one first. -/
def contexts : History → List Nat
  | [] => []
  | .entered context :: earlier => context :: contexts earlier
  | .left _ :: earlier => contexts earlier

/-- Those of them that have not been left. -/
def live : History → List Nat
  | [] => []
  | .entered context :: earlier => context :: live earlier
  | .left context :: earlier => (live earlier).erase context

/-- A context is left only while it is the innermost one. -/
def IsNested : History → Prop
  | [] => True
  | .entered _ :: earlier => IsNested earlier
  | .left context :: earlier => (live earlier).head? = some context ∧ IsNested earlier

variable {before : Option Nat} {history : History}

theorem mem_contexts_of_live {context : Nat} (alive : context ∈ live history) :
    context ∈ contexts history := by
  induction history with
  | nil => exact alive
  | cons mark earlier induction =>
      cases mark with
      | entered other =>
          rcases List.mem_cons.mp alive with rfl | older
          · exact List.mem_cons_self
          · exact List.mem_cons_of_mem other (induction older)
      | left other => exact induction (List.mem_of_mem_erase alive)

theorem nodup_live (distinct : (contexts history).Nodup) : (live history).Nodup := by
  induction history with
  | nil => exact List.nodup_nil
  | cons mark earlier induction =>
      cases mark with
      | entered other =>
          rcases List.nodup_cons.mp distinct with ⟨fresh, rest⟩
          exact List.nodup_cons.mpr
            ⟨fun alive => fresh (mem_contexts_of_live alive), induction rest⟩
      | left other => exact (induction distinct).erase other

/-- What is current, and what was current when each of the contexts was entered that have not been
left, is the next one that has not been left either. Both follow from what they were before the last
mark. -/
theorem eq_next_of_isNested (distinct : (contexts history).Nodup) (nested : IsNested history) :
    currentAfter before history = (live history).head?.or before ∧
      ∀ context inner rest, live history = inner ++ context :: rest →
        outerOf before context history = rest.head?.or before := by
  induction history with
  | nil => exact ⟨rfl, fun context inner rest impossible => by simp [live] at impossible⟩
  | cons mark earlier induction =>
      cases mark with
      | entered newest =>
          have distinctBefore := (List.nodup_cons.mp distinct).2
          refine ⟨rfl, fun context inner rest alive => ?_⟩
          rw [outerOf]
          cases inner with
          | nil =>
              cases alive
              rw [if_pos rfl]
              exact (induction distinctBefore nested).1
          | cons first inner =>
              rcases List.cons.inj alive with ⟨rfl, older⟩
              have different : newest ≠ context := by
                rintro rfl
                have again : newest ∈ live earlier := older ▸ by simp
                exact (List.nodup_cons.mp distinct).1 (mem_contexts_of_live again)
              rw [if_neg different]
              exact (induction distinctBefore nested).2 context inner rest older
      | left gone =>
          rcases nested with ⟨innermost, nested⟩
          rcases List.head?_eq_some_iff.mp innermost with ⟨others, alive⟩
          have remain : live (.left gone :: earlier) = others := by
            rw [live, alive, List.erase_cons_head]
          rw [remain]
          refine ⟨(induction distinct nested).2 gone [] others alive,
            fun context inner rest older => ?_⟩
          exact (induction distinct nested).2 context (gone :: inner) rest
            (alive.trans (congrArg (gone :: ·) older))

/-- If contexts are left in the reverse order, the innermost one is current. -/
theorem currentAfter_of_isNested (distinct : (contexts history).Nodup)
    (nested : IsNested history) : currentAfter before history = (live history).head?.or before :=
  (eq_next_of_isNested distinct nested).1

end History
end HtmlStream
