import MeterFeed.Mapping
import MeterFeed.Query
import MeterFeed.Settings

/-!
# Sources

A source is what is asked for measures: a site, its hosts and its metrics. It registers its metrics
once, and from then on maps records through the table of their handles.
-/

namespace MeterFeed

/-- The parts of a source that may be stated; those that are not come from the settings. -/
structure SourceOptions where
  site : Option String
  hosts : Option (List String)
  metrics : Option (List String)
  baseUrl : Option String
  unsignedMetrics : Option (List String)
  usePollTime : Option Bool

inductive SourceError where
  | noHost
  | noMetric
  deriving DecidableEq, Repr

def SourceError.message : SourceError → String
  | .noHost => "Kwollect adapter requires at least one hostname"
  | .noMetric => "Kwollect adapter requires at least one metric"

/-- What is asked for measures. -/
structure Source where
  site : String
  hosts : List String
  metrics : List String
  baseUrl : String
  unsignedMetrics : List String
  usePollTime : Bool
  mapper : Option Mapper
  deriving DecidableEq

namespace Source

def textOr (stated : Option String) (configured : String) : String :=
  match stated with
  | some s => if s = "" then configured else s
  | none => configured

def listOr (stated : Option (List String)) (configured : List String) : List String :=
  match stated with
  | some (x :: xs) => x :: xs
  | _ => configured

/-- The source with the stated parts; it has a host and a metric. -/
def make (options : SourceOptions) (settings : Settings) : Except SourceError Source :=
  let source : Source := {
    site := textOr options.site settings.site
    hosts := listOr options.hosts settings.hosts
    metrics := listOr options.metrics settings.metrics
    baseUrl := textOr options.baseUrl settings.baseUrl
    unsignedMetrics := options.unsignedMetrics.getD settings.unsignedMetrics
    usePollTime := options.usePollTime.getD settings.usePollTime
    mapper := none }
  if source.hosts.isEmpty then .error .noHost
  else if source.metrics.isEmpty then .error .noMetric
  else .ok source

def valueType (s : Source) (name : String) : ValueType :=
  if s.unsignedMetrics.contains name then .unsigned else .real

def description (s : Source) (name : String) : String :=
  "Kwollect metric " ++ name ++ " (" ++ s.site ++ ")"

/-- Registers names in order, up to the first one that is taken: the handles that were made, what
stopped the registration, and the registry after it. -/
def registerNames (s : Source) :
    List String → Registry → List Metric × Option Fault × Registry
  | [], registry => ([], none, registry)
  | name :: names, registry =>
    match registry.register name (s.valueType name) "" (s.description name) with
    | .error fault => ([], some fault, registry)
    | .ok (metric, registry) =>
      let (metrics, stop, registry) := s.registerNames names registry
      (metric :: metrics, stop, registry)

def table (metrics : List Metric) : Fields Metric :=
  Fields.ofPairs (metrics.map fun m => (m.name, m))

def withTable (s : Source) (table : Fields Metric) : Source :=
  { s with mapper := some ⟨table, s.usePollTime⟩ }

def url (s : Source) (window : Window) : Except Fault String :=
  Query.url ⟨s.baseUrl, s.site, joinNames s.hosts, joinNames s.metrics, window⟩

def normalize (s : Source) (r : Record) (pollTime : DateTime) : Except (Halt MapError) Point :=
  match s.mapper with
  | none => .error (.fault .unregistered)
  | some mapper => mapper.map r pollTime

end Source

end MeterFeed
