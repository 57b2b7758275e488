import HtmlStream.Failure.Message
import HtmlStream.Proofs.Value.Renumbering

/-!
Failures under other numbers. What a failure is called and what it says does not depend on them.
-/
namespace HtmlStream

namespace Fault

def renumbered (numbers : Renumbering) : Fault → Fault
  | .elementType given => .elementType (given.renumbered numbers)
  | .unknownWait pending => .unknownWait (pending.renumbered numbers)
  | .missingKey key => .missingKey (key.renumbered numbers)
  | other => other

def LacksProbe : Fault → Prop
  | .elementType value | .unknownWait value | .missingKey value => value.LacksProbe
  | _ => True

instance : Numbered Fault := ⟨renumbered, LacksProbe⟩

end Fault

namespace RuntimeCause

def renumbered (numbers : Renumbering) : RuntimeCause → RuntimeCause
  | .unsupportedChild child => .unsupportedChild (child.renumbered numbers)
  | .unsupportedEffect producer effect => .unsupportedEffect producer (effect.renumbered numbers)
  | .unknownWait pending => .unknownWait (pending.renumbered numbers)
  | other => other

def LacksProbe : RuntimeCause → Prop
  | .unsupportedChild value | .unsupportedEffect _ value | .unknownWait value => value.LacksProbe
  | _ => True

end RuntimeCause

namespace EngineError

def renumbered (numbers : Renumbering) : EngineError → EngineError
  | .missingContext context stack => .missingContext (context.renumbered numbers) stack
  | .contextCycle context stack => .contextCycle (context.renumbered numbers) stack
  | .invalidComponent component result =>
      .invalidComponent (component.renumbered numbers) (result.renumbered numbers)
  | .runtime cause stack => .runtime (cause.renumbered numbers) stack
  | other => other

def LacksProbe : EngineError → Prop
  | .missingContext context _ | .contextCycle context _ => context.LacksProbe
  | .invalidComponent component result => component.LacksProbe ∧ result.LacksProbe
  | .runtime cause _ => cause.LacksProbe
  | _ => True

end EngineError

namespace Failure

def renumbered (numbers : Renumbering) : Failure → Failure
  | .fault cause => .fault (cause.renumbered numbers)
  | .engine cause => .engine (cause.renumbered numbers)
  | other => other

def LacksProbe : Failure → Prop
  | .fault cause => cause.LacksProbe
  | .engine cause => cause.LacksProbe
  | _ => True

instance : Numbered Failure := ⟨renumbered, LacksProbe⟩

end Failure

variable (numbers : Renumbering)

/-! ## What a failure says -/

theorem Fault.kind_renumbered (fault : Fault) : (fault.renumbered numbers).kind = fault.kind := by
  cases fault <;> rfl

theorem Fault.message_renumbered (fault : Fault) :
    (fault.renumbered numbers).message = fault.message := by
  cases fault with
  | elementType given =>
      exact congrArg ("Element type must be a tag name or a callable, got " ++ ·)
        (given.inspect_renumbered numbers)
  | unknownWait pending =>
      exact congrArg ("Task got bad yield: " ++ ·) (pending.inspect_renumbered numbers)
  | missingKey key => exact key.inspect_renumbered numbers
  | _ => rfl

theorem Value.describe_renumbered (value : Value) :
    (value.renumbered numbers).describe = value.describe := by
  cases value <;> rfl

theorem RuntimeCause.text_renumbered (cause : RuntimeCause) :
    (cause.renumbered numbers).text = cause.text := by
  cases cause with
  | unsupportedChild child =>
      unfold renumbered text
      dsimp only
      rw [Value.typeName_renumbered, Value.inspect_renumbered]
  | unsupportedEffect producer effect =>
      exact congrArg ("Unsupported value yielded by " ++ producer ++ ": " ++ ·)
        (effect.inspect_renumbered numbers)
  | unknownWait pending =>
      exact congrArg ("Async provider yielded " ++ · ++ ", which is not an asyncio awaitable")
        (pending.inspect_renumbered numbers)
  | waitInSyncRender | stated => rfl

namespace EngineError

theorem kind_renumbered (error : EngineError) : (error.renumbered numbers).kind = error.kind := by
  cases error <;> rfl

theorem code?_renumbered (error : EngineError) :
    (error.renumbered numbers).code? = error.code? := by
  cases error with
  | runtime cause stack => cases cause <;> rfl
  | _ => rfl

theorem contextStack?_renumbered (error : EngineError) :
    (error.renumbered numbers).contextStack? = error.contextStack? := by
  cases error <;> rfl

theorem suggestion?_renumbered (error : EngineError) :
    (error.renumbered numbers).suggestion? = error.suggestion? := by
  cases error with
  | runtime cause stack => cases cause <;> rfl
  | _ => rfl

theorem contextName?_renumbered (context : Value) :
    contextName? (context.renumbered numbers) = contextName? context := by
  cases context <;> rfl

theorem message_renumbered (palette : Palette) (error : EngineError) :
    (error.renumbered numbers).message palette = error.message palette := by
  cases error with
  | stated | templateSyntax | depthExceeded => rfl
  | missingContext context stack =>
      unfold renumbered message missingContextMessage
      dsimp only
      rw [contextName?_renumbered]
  | contextCycle context stack =>
      unfold renumbered message
      dsimp only
      rw [Value.describe_renumbered]
  | invalidComponent component result =>
      unfold renumbered message
      dsimp only
      rw [Value.describe_renumbered]
      congr 1
      cases result <;> rfl
  | runtime cause stack =>
      have suggestions : (cause.renumbered numbers).suggestion = cause.suggestion := by
        cases cause <;> rfl
      unfold renumbered message
      dsimp only
      rw [RuntimeCause.text_renumbered, suggestions]

end EngineError

namespace Failure

theorem kind_renumbered (failure : Failure) :
    (failure.renumbered numbers).kind = failure.kind := by
  cases failure with
  | fault fault => exact fault.kind_renumbered numbers
  | engine error => exact error.kind_renumbered numbers
  | exit | raised => rfl

theorem message_renumbered (palette : Palette) (failure : Failure) :
    (failure.renumbered numbers).message palette = failure.message palette := by
  cases failure with
  | fault fault => exact fault.message_renumbered numbers
  | engine error => exact error.message_renumbered numbers palette
  | exit | raised => rfl

end Failure

/-! ## Recording values -/

/-- The fault shows no value. -/
def Fault.ShowsNone (fault : Fault) : Prop :=
  (∀ numbers, fault.renumbered numbers = fault) ∧ fault.LacksProbe

namespace Value

theorem length?_renumbered (value : Value) :
    (value.renumbered numbers).length? = value.length? := by
  cases value with
  | list items | tuple items => exact congrArg some (length_renumberedAll numbers items)
  | mapping entries => exact congrArg some (length_renumberedEntries numbers entries)
  | _ => rfl

theorem isNone_asMapping?_renumbered (value : Value) :
    (value.renumbered numbers).asMapping?.isNone = value.asMapping?.isNone := by
  cases value <;> rfl

mutual
theorem recordFault?_renumbered (value : Value) :
    (value.renumbered numbers).recordFault? = value.recordFault? := by
  match value with
  | .list items | .tuple items => exact recordFaultAmong?_renumbered items
  | .mapping entries => exact recordFaultWithin?_renumbered entries
  | .element _ type attributes children =>
      simp only [renumbered, recordFault?, recordFault?_renumbered type,
        recordFaultWithin?_renumbered attributes, recordFaultAmong?_renumbered children]
  | .marker _ type attributes children =>
      simp only [renumbered, recordFault?, recordFault?_renumbered type,
        recordFault?_renumbered attributes, isNone_asMapping?_renumbered, typeName_renumbered,
        length?_renumbered]
  | .provider _ source => exact recordFault?_renumbered source
  | .null | .boolean _ | .integer _ | .float _ | .notANumber _ | .text _ | .markup _ | .style _
  | .fragment | .token _ | .settings _ | .object .. | .safe .. | .routine _ | .component _
  | .mappingType | .depthProbe => rfl

theorem recordFaultAmong?_renumbered (items : List Value) :
    recordFaultAmong? (renumberedAll numbers items) = recordFaultAmong? items := by
  match items with
  | [] => rfl
  | head :: tail =>
      simp only [renumberedAll, recordFaultAmong?, recordFault?_renumbered head,
        recordFaultAmong?_renumbered tail]

theorem recordFaultWithin?_renumbered (entries : List (Value × Value)) :
    recordFaultWithin? (renumberedEntries numbers entries) = recordFaultWithin? entries := by
  match entries with
  | [] => rfl
  | (key, value) :: rest =>
      simp only [renumberedEntries, recordFaultWithin?, recordFault?_renumbered key,
        recordFault?_renumbered value, recordFaultWithin?_renumbered rest]
end

/-- What is told of several parts is told of their first fault. -/
theorem showsNone_of_orElse {first second : Option Fault}
    (inFirst : ∀ found, first = some found → found.ShowsNone)
    (inSecond : ∀ found, second = some found → found.ShowsNone) (fault : Fault)
    (found : (first <|> second) = some fault) : fault.ShowsNone := by
  cases first with
  | none => exact inSecond fault found
  | some other => exact inFirst fault found

theorem showsNone_of_ite {condition : Prop} [Decidable condition] {plain : Fault}
    (showsNone : plain.ShowsNone) (fault : Fault)
    (found : (if condition then some plain else none) = some fault) : fault.ShowsNone := by
  split at found
  · cases found
    exact showsNone
  · cases found

theorem showsNone_of_else {condition : Prop} [Decidable condition] {plain : Fault}
    (showsNone : plain.ShowsNone) (fault : Fault)
    (found : (if condition then none else some plain) = some fault) : fault.ShowsNone := by
  split at found
  · cases found
  · cases found
    exact showsNone

theorem showsNone_of_none (fault : Fault) (found : none = some fault) : fault.ShowsNone :=
  (Option.some_ne_none fault found.symm).elim

mutual
theorem recordFault?_showsNone (value : Value) :
    ∀ fault, value.recordFault? = some fault → fault.ShowsNone := by
  match value with
  | .integer number => exact showsNone_of_else ⟨fun _ => rfl, trivial⟩
  | .list items | .tuple items => exact recordFaultAmong?_showsNone items
  | .mapping entries => exact recordFaultWithin?_showsNone entries
  | .element _ type attributes children =>
      exact showsNone_of_orElse (recordFault?_showsNone type)
        (showsNone_of_orElse (recordFaultWithin?_showsNone attributes)
          (recordFaultAmong?_showsNone children))
  | .marker _ type attributes children =>
      exact showsNone_of_orElse (recordFault?_showsNone type)
        (showsNone_of_orElse (showsNone_of_ite ⟨fun _ => rfl, trivial⟩)
          (showsNone_of_orElse (recordFault?_showsNone attributes)
            (showsNone_of_ite ⟨fun _ => rfl, trivial⟩)))
  | .provider _ source => exact recordFault?_showsNone source
  | .null | .boolean _ | .float _ | .notANumber _ | .text _ | .markup _ | .style _
  | .fragment | .token _ | .settings _ | .object .. | .safe .. | .routine _ | .component _
  | .mappingType | .depthProbe => exact showsNone_of_none

theorem recordFaultAmong?_showsNone (items : List Value) :
    ∀ fault, recordFaultAmong? items = some fault → fault.ShowsNone := by
  match items with
  | [] => exact showsNone_of_none
  | head :: tail =>
      exact showsNone_of_orElse (recordFault?_showsNone head) (recordFaultAmong?_showsNone tail)

theorem recordFaultWithin?_showsNone (entries : List (Value × Value)) :
    ∀ fault, recordFaultWithin? entries = some fault → fault.ShowsNone := by
  match entries with
  | [] => exact showsNone_of_none
  | (key, value) :: rest =>
      exact showsNone_of_orElse (recordFault?_showsNone key)
        (showsNone_of_orElse (recordFault?_showsNone value) (recordFaultWithin?_showsNone rest))
end

end Value
end HtmlStream
