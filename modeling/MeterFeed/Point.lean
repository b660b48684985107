import MeterFeed.Metric
import MeterFeed.Record.Label
import MeterFeed.Time.DateTime

/-!
# Points

A measurement states a registered metric, a time, a value, who produced it, who caused it, and
attributes. A point is a measurement whose value is a number. A summary is a measurement as it is
handed to readers: the metric by name, the two parties by one word and an identity.
-/

namespace MeterFeed

/-- Who produced or caused a measurement. -/
inductive Party where
  | localMachine
  | custom (kind id : Option String)
  deriving DecidableEq, Repr

namespace Party

def sort : Party → String
  | .localMachine => "local_machine"
  | .custom .. => "custom"

def kind? : Party → Option String
  | .localMachine => none
  | .custom kind _ => kind

def id? : Party → Option String
  | .localMachine => none
  | .custom _ id => id

/-- One word for a party: the kind it states, or the word for its sort if it states none. -/
def word (p : Party) : String :=
  match p.kind? with
  | some kind => if kind = "" then p.sort else kind
  | none => p.sort

end Party

/-- A measurement with a value of some type. -/
structure Measurement (ν : Type) where
  metric : Metric
  time : DateTime
  value : ν
  resource : Party
  consumer : Party
  attributes : Fields Label
  deriving DecidableEq

abbrev Point := Measurement Number

structure Role where
  kind : String
  id : Option String
  deriving DecidableEq, Repr

/-- A measurement as it is handed to readers. -/
structure Summary (ν : Type) where
  metric : String
  time : DateTime
  value : ν
  resource : Role
  consumer : Role
  attributes : Fields Label
  deriving DecidableEq

def Party.role (p : Party) : Role :=
  ⟨p.word, p.id?⟩

def Measurement.summary {ν : Type} (p : Measurement ν) : Summary ν :=
  ⟨p.metric.name, p.time, p.value, p.resource.role, p.consumer.role, p.attributes⟩

end MeterFeed
