import HtmlStream.Renderer.TextStream
import HtmlStream.Failure.Message

/-!
Routes: a page that can be rendered again and again, each time from what its application gives and
with the providers that are registered at that time.
-/
namespace HtmlStream

structure Route where
  /-- An element, or something that gives one, or a body of effects, when it is called. -/
  application : Value
  name : String
  settings : Settings

namespace Route

def isApplication (value : Value) : Bool :=
  value.isElement || value.isCallable

/-- Make a route. The application is checked before the settings; a route without a name goes by
that of its application. -/
def make (application : Value) (name : Option String) (request : SettingsRequest) :
    Except Fault Route := do
  if !isApplication application then throw (.notRenderable application.typeName)
  let settings ← (Settings.check request).mapError .settings
  return ⟨application, (name.filter (· ≠ "")).getD application.describe, settings⟩

def inspect (route : Route) (registry : Registry) : String :=
  "<Route " ++ Text.quoted route.name ++ " contexts=" ++ toString registry.length ++ ">"

/-- What a render of the route drives: the element, or what the application gives. A coroutine
gives no effects, so it is closed and refused. -/
def root (library : Library) (route : Route) (session : Session) : Reply × Session :=
  if route.application.isElement then (.ok route.application, session)
  else
    match session.call library (Session.resume library) route.application [] with
    | (.error failure, session) => (.error failure, session)
    | (.ok result, session) =>
        let refused := Failure.engine (.invalidComponent route.application result)
        match result with
        | .element .. => (.ok result, session)
        | .routine reference =>
            match reference.kind with
            | .generator | .asyncGenerator => (.ok result, session)
            | .coroutine =>
                match session.closeRoutine library reference.index with
                | (some failure, session) => (.error failure, session)
                | (none, session) => (.error refused, session)
        | _ => (.error refused, session)

end Route
end HtmlStream
