import HtmlStream.Element.Effects
import HtmlStream.Routine.Resume

/-!
What bodies read of their render context. Which of its fields a body reads is a property of the whole
body, whatever it is answered; the bodies of a session and those that its library can make all keep
to it. Metadata is for the components, and they may always read it.
-/
namespace HtmlStream

namespace Action

def ReadsOnly (fields : ContextField → Prop) : Action → Prop
  | .readContext field => fields field
  | _ => True

end Action

namespace Routine

/-- Whatever a body is answered, it reads only certain fields of its render context. -/
def ReadsOnly (fields : ContextField → Prop) : Routine → Prop
  | .finish _ => True
  | .reserve _ next => ∀ first, (next first).ReadsOnly fields
  | .act action next => action.ReadsOnly fields ∧ ∀ reply, (next reply).ReadsOnly fields
  | .advance _ next => ∀ advanced, (next advanced).ReadsOnly fields
  | .start body next => body.ReadsOnly fields ∧ ∀ task, (next task).ReadsOnly fields
  | .suspend _ next => ∀ reply, (next reply).ReadsOnly fields

theorem readsOnly_of_all {fields : ContextField → Prop} (all : ∀ field, fields field)
    (routine : Routine) : routine.ReadsOnly fields := by
  induction routine with
  | finish result => trivial
  | reserve count next induction => exact induction
  | act action next induction =>
      refine ⟨?_, induction⟩
      cases action with
      | readContext field => exact all field
      | _ => trivial
  | advance index next induction => exact induction
  | start body next bodyInduction induction => exact ⟨bodyInduction, induction⟩
  | suspend suspension next induction => exact induction

theorem readsOnly_yieldAll {fields : ContextField → Prop}
    (effects : List (Except Failure Value)) : (yieldAll effects).ReadsOnly fields := by
  induction effects with
  | nil => trivial
  | cons effect rest induction =>
      cases effect with
      | error failure => trivial
      | ok value =>
          intro reply
          cases reply with
          | ok answer => exact induction
          | error failure => trivial

end Routine

/-- An element reads nothing itself. -/
theorem Element.readsOnly_body {fields : ContextField → Prop} (node : Element) :
    node.body.ReadsOnly fields := by
  unfold body
  split
  · refine ⟨trivial, fun reply => ?_⟩
    cases reply with
    | ok result => exact Routine.readsOnly_yieldAll _
    | error failure => trivial
  · exact Routine.readsOnly_yieldAll _

namespace RoutineState

/-- What a body still has to do reads only certain fields of its render context. -/
def ReadsOnly (fields : ContextField → Prop) : RoutineState → Prop
  | .unstarted body => body.ReadsOnly fields
  | .suspended next | .waiting _ next | .delegating _ next => ∀ reply, (next reply).ReadsOnly fields
  | .running | .finished _ => True

theorem readsOnly_of_all {fields : ContextField → Prop} (all : ∀ field, fields field)
    (state : RoutineState) : state.ReadsOnly fields := by
  cases state with
  | unstarted body => exact body.readsOnly_of_all all
  | suspended next | waiting pending next | delegating target next =>
      exact fun reply => (next reply).readsOnly_of_all all
  | running | finished => trivial

end RoutineState

/-- No component of a library reads any other field. -/
def Library.ReadsOnly (fields : ContextField → Prop) (library : Library) : Prop :=
  ∀ component ∈ library, ∀ bindings, (component.body bindings).ReadsOnly fields

theorem Library.readsOnly_of_all {fields : ContextField → Prop} (all : ∀ field, fields field)
    (library : Library) : library.ReadsOnly fields :=
  fun component _ bindings => (component.body bindings).readsOnly_of_all all

namespace Session

variable {fields : ContextField → Prop} {session : Session}

/-- None of the bodies in a session reads any other field. -/
def ReadsOnly (fields : ContextField → Prop) (session : Session) : Prop :=
  ∀ index object, session.routine? index = some object → object.state.ReadsOnly fields

theorem readsOnly_of_all (all : ∀ field, fields field) (session : Session) :
    session.ReadsOnly fields :=
  fun _ object _ => object.state.readsOnly_of_all all

theorem ReadsOnly.setState (readsOnly : session.ReadsOnly fields) (index : Nat)
    {state : RoutineState} (stateReadsOnly : state.ReadsOnly fields) :
    (session.setState index state).ReadsOnly fields := by
  intro other object found
  unfold routine? Session.setState at found
  rw [Array.getElem?_modify] at found
  split at found
  · rcases Option.map_eq_some_iff.mp found with ⟨before, _, rfl⟩
    exact stateReadsOnly
  · exact readsOnly other object found

theorem ReadsOnly.addRoutine (readsOnly : session.ReadsOnly fields) (kind : RoutineKind)
    (name : String) {body : Routine} (bodyReadsOnly : body.ReadsOnly fields) :
    (session.addRoutine kind name body).2.ReadsOnly fields := by
  intro index object found
  unfold routine? Session.addRoutine at found
  rw [Array.getElem?_push] at found
  split at found
  · cases found
    exact bodyReadsOnly
  · exact readsOnly index object found

end Session

/-! ## Render contexts -/

/-- Two render contexts look the same to whoever reads only certain fields of them. -/
structure RenderContext.LooksLike (fields : ContextField → Prop) (left right : RenderContext) :
    Prop where
  routeName : fields .routeName → right.routeName = left.routeName
  maxDepth : fields .maxDepth → right.maxDepth = left.maxDepth
  stylesEmitted : fields .stylesEmitted → right.stylesEmitted = left.stylesEmitted
  contextStack : fields .contextStack → right.contextStack = left.contextStack
  metadata : right.metadata = left.metadata

theorem RenderContext.LooksLike.refl (fields : ContextField → Prop) (context : RenderContext) :
    context.LooksLike fields context where
  routeName _ := rfl
  maxDepth _ := rfl
  stylesEmitted _ := rfl
  contextStack _ := rfl
  metadata := rfl

namespace Session

variable {fields : ContextField → Prop} {left right : Session}

/-- The render contexts of two sessions look the same to whoever reads only certain fields. -/
def ContextsLookAlike (fields : ContextField → Prop) (left right : Session) : Prop :=
  ∀ index, Option.Rel (RenderContext.LooksLike fields) (left.context? index)
    (right.context? index)

theorem contextsLookAlike_of_eq (same : left.contexts = right.contexts) :
    left.ContextsLookAlike fields right := by
  intro index
  unfold context?
  rw [← same]
  cases left.contexts[index]? with
  | none => exact .none
  | some context => exact .some (.refl fields context)

theorem ContextsLookAlike.map_metadata (look : left.ContextsLookAlike fields right)
    (index : Nat) :
    (right.context? index).map RenderContext.metadata
      = (left.context? index).map RenderContext.metadata := by
  have here := look index
  generalize left.context? index = context?, right.context? index = other? at here
  cases here with
  | none => rfl
  | some looks => exact congrArg some looks.metadata

theorem ContextsLookAlike.metadata_eq (look : left.ContextsLookAlike fields right) :
    right.contexts.map RenderContext.metadata = left.contexts.map RenderContext.metadata := by
  refine Array.ext_getElem? fun index => ?_
  rw [Array.getElem?_map, Array.getElem?_map]
  exact look.map_metadata index

theorem ContextsLookAlike.modifyContext (look : left.ContextsLookAlike fields right) (index : Nat)
    {change : RenderContext → RenderContext}
    (keeps : ∀ {context other : RenderContext}, context.LooksLike fields other →
      (change context).LooksLike fields (change other)) :
    (left.modifyContext index change).ContextsLookAlike fields
      (right.modifyContext index change) := by
  intro other
  have here := look other
  unfold context? Session.modifyContext at *
  rw [Array.getElem?_modify, Array.getElem?_modify]
  split
  · generalize left.contexts[other]? = context?, right.contexts[other]? = other? at here
    cases here with
    | none => exact .none
    | some looks => exact .some (keeps looks)
  · exact here

end Session
end HtmlStream
