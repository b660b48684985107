import MeterFeed.Fault
import MeterFeed.Fields

/-!
# Metrics

A metric is registered once under its name; its number is the count of metrics registered before.
The registry keeps the order of registration and refuses a name that it has.
-/

namespace MeterFeed

inductive ValueType where
  | real
  | unsigned
  deriving DecidableEq, Repr

def ValueType.word : ValueType → String
  | .real => "f64"
  | .unsigned => "u64"

structure Metric where
  id : Int
  name : String
  valueType : ValueType
  unit : String
  description : String
  deriving DecidableEq, Repr

/-- The registered metrics, in the order of registration. -/
structure Registry where
  metrics : List Metric
  deriving DecidableEq, Repr

namespace Registry

def empty : Registry := ⟨[]⟩

def names (r : Registry) : List String :=
  r.metrics.map Metric.name

def find? (r : Registry) (name : String) : Option Metric :=
  r.metrics.find? fun m => m.name == name

def register (r : Registry) (name : String) (valueType : ValueType) (unit description : String) :
    Except Fault (Metric × Registry) :=
  if r.names.contains name then .error (.nameTaken name)
  else
    let m : Metric := ⟨r.metrics.length, name, valueType, unit, description⟩
    .ok (m, ⟨r.metrics ++ [m]⟩)

end Registry

end MeterFeed
