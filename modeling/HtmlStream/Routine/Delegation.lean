import HtmlStream.Session

/-!
Two ways to hand over. A body hands over to a generator or an element by delegating, so that the
other one takes over inside of it, or by yielding it, so that the renderer drives it first. Here the
first way is turned into the second throughout: in bodies, and in whatever is made of them.
-/
namespace HtmlStream

/-- What a body is suspended with that yields the generators and elements it would hand over to. -/
def Suspension.yielding : Suspension → Suspension
  | .delegate target =>
      match target.kind with
      | .generator => .effect (.routine target)
      | _ => .delegate target
  | .iterate node => .effect node.toValue
  | suspension => suspension

/-- The body that yields the generators and elements it would hand over to. -/
def Routine.yielding : Routine → Routine
  | .finish result => .finish result
  | .reserve count next => .reserve count fun first => (next first).yielding
  | .act action next => .act action fun reply => (next reply).yielding
  | .advance index next => .advance index fun advanced => (next advanced).yielding
  | .start body next => .start body.yielding fun task => (next task).yielding
  | .suspend suspension next => .suspend suspension.yielding fun reply => (next reply).yielding

namespace RoutineObject

/-- A generator that has handed over is only suspended once it yields instead. -/
def yielding : RoutineObject → RoutineObject
  | ⟨kind, .unstarted body⟩ => ⟨kind, .unstarted body.yielding⟩
  | ⟨kind, .suspended next⟩ => ⟨kind, .suspended fun reply => (next reply).yielding⟩
  | ⟨kind, .waiting pending next⟩ => ⟨kind, .waiting pending fun reply => (next reply).yielding⟩
  | ⟨.generator, .delegating _ next⟩ => ⟨.generator, .suspended fun reply => (next reply).yielding⟩
  | ⟨kind, .delegating target next⟩ => ⟨kind, .delegating target fun reply => (next reply).yielding⟩
  | ⟨kind, .running⟩ => ⟨kind, .running⟩
  | ⟨kind, .finished outcome⟩ => ⟨kind, .finished outcome⟩

/-- The generator has handed over to another one, or to an element, and has not gone on since. -/
def HasDelegated (object : RoutineObject) : Prop :=
  object.kind = .generator ∧ ∃ target next, object.state = .delegating target next

def outcome? : RoutineObject → Option Reply
  | ⟨_, .finished outcome⟩ => some outcome
  | _ => none

end RoutineObject

def Component.yielding (component : Component) : Component :=
  { component with body := fun bindings => (component.body bindings).yielding }

def Library.yielding (library : Library) : Library :=
  library.map Component.yielding

def Session.yielding (session : Session) : Session :=
  { session with routines := session.routines.map RoutineObject.yielding }

/-! ## Sessions side by side -/

/-- How far a body got that is at work, and how far the same body got that yields. -/
structure Twin where
  index : Nat
  mine : RoutineObject
  yours : RoutineObject

namespace Twin

/-- A body whose states follow from each other. -/
abbrev of (index : Nat) (object : RoutineObject) : Twin :=
  ⟨index, object, object.yielding⟩

/-- A body that is being advanced. -/
abbrev running (index : Nat) (kind : RoutineKind) : Twin :=
  ⟨index, ⟨kind, .running⟩, ⟨kind, .running⟩⟩

/-- A generator that is handing over, and that is suspended where it yields. -/
abbrev handing (index : Nat) (next : Reply → Routine) : Twin :=
  ⟨index, ⟨.generator, .running⟩, ⟨.generator, .suspended fun reply => (next reply).yielding⟩⟩

/-- What is seen of the two from outside: their kind, and what they ended with. -/
structure IsFair (twin : Twin) : Prop where
  kind : twin.yours.kind = twin.mine.kind
  outcome : twin.yours.outcome? = twin.mine.outcome?

end Twin

namespace Session

/-- A session, and what it is where bodies yield what they would hand over to. The twins are those
bodies whose states do not follow from each other. The number of live frames is left open, since a
body that is yielded is driven in a frame of its own. -/
structure Mirrors (twins : List Twin) (left right : Session) : Prop where
  rest : ∃ routines liveFrames, right = { left with routines, liveFrames }
  size : right.routines.size = left.routines.size
  distinct : (twins.map Twin.index).Nodup
  fair : ∀ twin ∈ twins, twin.IsFair
  mine : ∀ twin ∈ twins, left.routine? twin.index = some twin.mine
  yours : ∀ twin ∈ twins, right.routine? twin.index = some twin.yours
  others : ∀ index, index ∉ twins.map Twin.index →
    right.routine? index = (left.routine? index).map RoutineObject.yielding

end Session
end HtmlStream
