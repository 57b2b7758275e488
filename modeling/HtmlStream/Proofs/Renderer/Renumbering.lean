import HtmlStream.Proofs.Routine.Pairing
import HtmlStream.Renderer.Interpretation

/-!
What renders ask for and come to, under other numbers. Text that cannot be written fails by a fault
that shows no value, so the failure is the same with all numbers.
-/
namespace HtmlStream

/-! ## Faults of texts -/

/-- Any fault that it comes to shows no value. -/
def ShowsNone {α : Type} (result : Except Fault α) : Prop :=
  ∀ fault, result = .error fault → fault.ShowsNone

namespace ShowsNone

variable {α β : Type}

theorem ok (result : α) : ShowsNone (.ok result) := nofun

theorem bind {result : Except Fault α} (first : ShowsNone result) {next : α → Except Fault β}
    (second : ∀ given, ShowsNone (next given)) : ShowsNone (result >>= next) := by
  cases result with
  | ok given => exact second given
  | error fault =>
      rintro _ ⟨⟩
      exact first fault rfl

theorem mapM {make : α → Except Fault β} (each : ∀ item, ShowsNone (make item)) (items : List α) :
    ShowsNone (items.mapM make) := by
  induction items with
  | nil => exact ok []
  | cons item rest induction =>
      rw [List.mapM_cons]
      exact (each item).bind fun made => induction.bind fun others => ok _

theorem written (value : Value) : ShowsNone value.written := by
  rcases value.written_cases with equal | equal <;> rw [equal]
  · exact ok _
  · rintro _ ⟨⟩
    exact ⟨fun _ => rfl, trivial⟩

theorem text (autoescape : Bool) (value : Value) : ShowsNone (Serializer.text autoescape value) := by
  have shown : ShowsNone (Serializer.shown autoescape value) := by
    rw [Serializer.shown_eq]
    cases Serializer.ownMarkup? value with
    | some own => exact ok own
    | none => exact (written value).bind fun _ => ok _
  exact shown.bind fun _ => ok _

theorem attributeText (autoescape : Bool) (entry : Value × Value) :
    ShowsNone (Serializer.attributeText autoescape entry.1 entry.2) := by
  rcases entry with ⟨key, value⟩
  have named : ShowsNone (do return " " ++ (← key.written)) := (written key).bind fun _ => ok _
  have full : ShowsNone (do
      return " " ++ (← key.written) ++ "=\"" ++ (← Serializer.text autoescape value) ++ "\"") :=
    (written key).bind fun _ => (text autoescape value).bind fun _ => ok _
  unfold Serializer.attributeText
  split
  · exact ok ""
  · cases value with
    | null => exact ok ""
    | boolean value =>
        cases value with
        | false => exact ok ""
        | true => exact named
    | _ => exact full

theorem openingTag (autoescape : Bool) (marker : Marker) :
    ShowsNone (Serializer.openingTag autoescape marker) := by
  have attributes : ShowsNone (Serializer.attributesText autoescape marker.attributes) := by
    unfold Serializer.attributesText
    split
    · exact (mapM (attributeText autoescape) _).bind fun _ => ok _
    · rintro _ ⟨⟩
      exact ⟨fun _ => rfl, trivial⟩
  exact attributes.bind fun _ => (written marker.type).bind fun _ => ok _

theorem closingTag (marker : Marker) : ShowsNone (Serializer.closingTag marker) :=
  (written marker.type).bind fun _ => ok _

theorem resultText (autoescape : Bool) (result : Value) :
    ShowsNone (Serializer.resultText autoescape result) := by
  have full : ShowsNone (do Serializer.text autoescape (.text (← result.written))) :=
    (written result).bind fun content => text autoescape (.text content)
  cases result with
  | text | markup | integer | float | notANumber => exact full
  | _ => exact ok ""

end ShowsNone

/-! ## Waits, demands and endings -/

instance : Numbered Wait where
  renumbered numbers
    | .step generator answer => .step (renumbered numbers generator) (renumbered numbers answer)
    | .settle pending => .settle (renumbered numbers pending)
  LacksProbe
    | .step _ answer => LacksProbe answer
    | .settle pending => LacksProbe pending

instance : Numbered Demand where
  renumbered numbers
    | .write text => .write text
    | .goOn reply => .goOn (renumbered numbers reply)
    | .nested body token? => .nested (renumbered numbers body) (renumbered numbers token?)
    | .finish value => .finish (renumbered numbers value)
    | .fail failure => .fail (renumbered numbers failure)
  LacksProbe
    | .write _ | .nested _ _ => True
    | .goOn reply => LacksProbe reply
    | .finish value => LacksProbe value
    | .fail failure => LacksProbe failure

instance : Numbered Ending where
  renumbered numbers
    | .returned value => .returned (renumbered numbers value)
    | .failed failure => .failed (renumbered numbers failure)
    | .stranded failure => .stranded (renumbered numbers failure)
  LacksProbe
    | .returned value => LacksProbe value
    | .failed failure | .stranded failure => LacksProbe failure

theorem isUniform_goOn : IsUniform Demand.goOn := ⟨fun _ _ => rfl, fun _ => id⟩

theorem isUniform_finish : IsUniform Demand.finish := ⟨fun _ _ => rfl, fun _ => id⟩

theorem isUniform_fail : IsUniform Demand.fail := ⟨fun _ _ => rfl, fun _ => id⟩

theorem isUniform_ofFailure : IsUniform Demand.ofFailure where
  renumbered numbers failure := by
    cases failure with
    | raised kind message => cases kind <;> rfl
    | _ => rfl
  lacksProbe failure lacks := by
    cases failure with
    | raised kind message => cases kind <;> trivial
    | _ => exact lacks

namespace Pairing

variable {pairing : Pairing}

theorem relates_ofText {text : Except Fault String} (showsNone : ShowsNone text) :
    pairing.Relates (Demand.ofText text) (Demand.ofText text) := by
  cases text with
  | ok text => exact relates_self trivial fun _ => rfl
  | error fault =>
      rcases showsNone fault rfl with ⟨plain, lacks⟩
      exact .map isUniform_fail (.map isUniform_fault (relates_self lacks plain))

theorem relates_nested {body other : RoutineReference} (bodies : pairing.Relates body other)
    {token? twin? : Option Token} (tokens : pairing.Relates token? twin?) :
    pairing.Relates (Demand.nested body token?) (Demand.nested other twin?) :=
  ⟨trivial, fun allows => congrArg₂ Demand.nested (bodies.equal allows) (tokens.equal allows)⟩

/-- What two bodies ask for. -/
inductive SameDemand (pairing : Pairing) : Demand → Demand → Prop
  | write (text : String) : SameDemand pairing (.write text) (.write text)
  | goOn {reply other : Reply} (related : pairing.Relates reply other) :
      SameDemand pairing (.goOn reply) (.goOn other)
  | nested {body other : RoutineReference} {token? twin? : Option Token}
      (bodies : pairing.Relates body other) (tokens : pairing.Relates token? twin?) :
      SameDemand pairing (.nested body token?) (.nested other twin?)
  | finish {value other : Value} (related : pairing.Relates value other) :
      SameDemand pairing (.finish value) (.finish other)
  | fail {failure other : Failure} (related : pairing.Relates failure other) :
      SameDemand pairing (.fail failure) (.fail other)

theorem Relates.sameDemand (inhabited : ∃ numbers, pairing.Allows numbers) {demand twin : Demand}
    (related : pairing.Relates demand twin) : pairing.SameDemand demand twin := by
  cases demand with
  | write text =>
      rcases inhabited with ⟨numbers, allows⟩
      cases related.equal allows
      exact .write text
  | goOn reply =>
      rcases related.made (fun _ _ => Demand.goOn.inj) (fun _ _ => rfl) inhabited related.lacks with
        ⟨other, rfl, replies⟩
      exact .goOn replies
  | nested body token? =>
      rcases inhabited with ⟨numbers, allows⟩
      cases related.equal allows
      exact .nested
        ⟨trivial, fun allows => (Demand.nested.inj (related.equal allows)).1⟩
        ⟨fun _ _ => trivial, fun allows => (Demand.nested.inj (related.equal allows)).2⟩
  | finish value =>
      rcases related.made (fun _ _ => Demand.finish.inj) (fun _ _ => rfl) inhabited
        related.lacks with ⟨other, rfl, values⟩
      exact .finish values
  | fail failure =>
      rcases related.made (fun _ _ => Demand.fail.inj) (fun _ _ => rfl) inhabited
        related.lacks with ⟨other, rfl, failures⟩
      exact .fail failures

end Pairing
end HtmlStream
