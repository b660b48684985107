import MeterFeed.Query

/-!
# Routes

What can be asked of the HTTP surface, each by one method and one path. A path with slashes at its
end leads to the path without them, and one line break at the end of a path counts for nothing.
-/

namespace MeterFeed

inductive Route where
  | health
  | measurements
  | cycleFinished
  | description
  | browser
  /-- The page that a sign-in comes back to. -/
  | signIn
  /-- A page to read about the surface. -/
  | manual
  deriving DecidableEq, Repr

inductive Way where
  | nowhere
  | here (route : Route)
  /-- To a route that has another path. -/
  | elsewhere (route : Route) (path : String)
  deriving DecidableEq, Repr

namespace Route

def all : List Route :=
  [.health, .measurements, .cycleFinished, .description, .browser, .signIn, .manual]

def path : Route → String
  | .health => "/health"
  | .measurements => "/v2/measurements"
  | .cycleFinished => "/v2/events/measurement-cycle-finished"
  | .description => "/openapi.json"
  | .browser => "/docs"
  | .signIn => "/docs/oauth2-redirect"
  | .manual => "/redoc"

def method : Route → String
  | .cycleFinished => "POST"
  | _ => "GET"

def ofPath? (path : String) : Option Route :=
  all.find? fun r => r.path == path

/-- A path without one line break at its end. -/
def withoutBreak (path : String) : String :=
  match path.toList.reverse with
  | '\n' :: rest => String.ofList rest.reverse
  | _ => path

def find (path : String) : Way :=
  match ofPath? (withoutBreak path) with
  | some r => .here r
  | none =>
    let shorter := Query.withoutSlashes path
    match ofPath? (withoutBreak shorter) with
    | some r => .elsewhere r shorter
    | none => .nowhere

end Route

end MeterFeed
