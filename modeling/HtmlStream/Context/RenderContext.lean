import HtmlStream.Component.Signature

/-!
Render contexts: what belongs to one render apart from its components.
-/
namespace HtmlStream

structure RenderContext where
  routeName : Option String
  maxDepth : Int
  /-- The labels of the tokens that are being resolved, outermost first. -/
  contextStack : List String
  /-- The number of style blocks written so far. -/
  stylesEmitted : Nat
  /-- What frameworks attach for components to read back. -/
  metadata : Bindings

namespace RenderContext

def getMeta (context : RenderContext) (key : String) (default : Value) : Value :=
  ((context.metadata.find? fun entry => entry.1 == key).map Prod.snd).getD default

def insertMeta (key : String) (value : Value) : Bindings → Bindings
  | [] => [(key, value)]
  | entry :: rest =>
      if entry.1 == key then (key, value) :: rest else entry :: insertMeta key value rest

def setMeta (context : RenderContext) (key : String) (value : Value) : RenderContext :=
  { context with metadata := insertMeta key value context.metadata }

/-- A context for a new render. Metadata that is not given is taken over from the context around
it. -/
def inside (outer : Option RenderContext) (routeName : Option String) (maxDepth : Int)
    (given : Option Bindings) : RenderContext where
  routeName
  maxDepth
  contextStack := []
  stylesEmitted := 0
  metadata := given.getD ((outer.map RenderContext.metadata).getD [])

end RenderContext
end HtmlStream
