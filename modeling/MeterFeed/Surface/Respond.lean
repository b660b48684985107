import MeterFeed.Feed.Event
import MeterFeed.Surface.Description
import MeterFeed.Surface.Limit
import MeterFeed.Surface.Location
import MeterFeed.Surface.Target

/-!
# The HTTP surface

Three things can be asked of a feed by HTTP: how it is, the newest points of its sink, and to take
note of the end of a measurement cycle. The last is accepted at once and its handlers run after the
answer. The surface also describes itself. A path with slashes at its end leads to the path without
them. Times are written with `Z` for UTC, and doubles that are no finite numbers become null.
-/

namespace MeterFeed

namespace Surface

def refusal (status : Nat) (detail : String) : HttpReply :=
  ⟨status, .json (.object [("detail", .text detail)])⟩

def timeText (t : DateTime) : String :=
  match t.offset with
  | some 0 => { t with offset := none }.text ++ "Z"
  | _ => t.text

def number (n : Number) : Json :=
  match n with
  | .int k => .int k
  | .real x => if x.isFinite then .real x else .null

def label : Label → Json
  | .flag b => .bool b
  | .number n => number n
  | .text s => .text s

def optionalText : Option String → Json
  | some s => .text s
  | none => .null

def role (r : Role) : Json :=
  .object [("kind", .text r.kind), ("id", optionalText r.id)]

def measurement (p : Point) : Json :=
  let s := p.summary
  .object [("metric", .text s.metric), ("timestamp", .text (timeText s.time)),
    ("value", number s.value), ("resource", role s.resource), ("consumer", role s.consumer),
    ("attributes", .object (s.attributes.map fun field => (field.1, label field.2)))]

def health (f : Feed) : HttpReply :=
  let names := (Fields.names f.coordinator.metrics).mergeSort fun a b => decide (a ≤ b)
  ⟨200, .json (.object [("status", .text "ok"), ("state", .text f.coordinator.phase.word),
    ("metrics", .array (names.map .text))])⟩

def limit (t : Target) : Except LimitError Int :=
  match t.last? "limit" with
  | some text => Limit.read text
  | none => .ok Limit.standard

def measurements (t : Target) (f : Feed) : HttpReply :=
  match limit t with
  | .ok n => ⟨200, .json (.array ((f.host.sink.recent (some n)).map measurement))⟩
  | .error e =>
    ⟨422, .json (.array [.array [.text e.word, .array [.text "query", .text "limit"]]])⟩

def accepted : HttpReply :=
  ⟨202, .json (.object [("status", .text "accepted"), ("event", .text cycleFinished)])⟩

def serve (inside : Inside) (route : Route) (t : Target) (f : Feed) : HttpReply × Feed :=
  match route with
  | .health => (health f, f)
  | .measurements => (measurements t f, f)
  | .cycleFinished => (accepted, (f.publish inside).2)
  | .description => (⟨200, .json Description.document⟩, f)
  | .browser => (⟨200, .page (Description.page Description.browserTitle)⟩, f)
  | .signIn => (⟨200, .page (Description.page Description.signInTitle)⟩, f)
  | .manual => (⟨200, .page (Description.page Description.manualTitle)⟩, f)

def answer (inside : Inside) (method : String) (route : Route) (t : Target) (f : Feed) :
    HttpReply × Feed :=
  if route.method ≠ method then (refusal 405 "Method Not Allowed", f) else serve inside route t f

def respond (inside : Inside) (method reference : String) (f : Feed) :
    Except Lost HttpReply × Feed :=
  match Reference.read reference with
  | .error e => (.error (.unsent e), f)
  | .ok r =>
    let t := Target.ofReference r
    match Route.find t.path with
    | .nowhere => (.ok (refusal 404 "Not Found"), f)
    | .here route =>
      let (reply, f) := answer inside method route t f
      (.ok reply, f)
    | .elsewhere route path =>
      match r.lostOn? path with
      | some lost => (.error lost, f)
      | none =>
        let (reply, f) := answer inside method route t f
        (.ok reply, f)

end Surface

end MeterFeed
