import MeterFeed.Point
import MeterFeed.Record.Codec
import MeterFeed.Text.Numeral

/-!
# From records to points

A mapper holds a table from metric names to handles. A record whose metric is in the table becomes
a point: the device is the resource; the label `Mapper.originLabel`, if it is a text, names the
consumer and is no attribute; the other labels are, and so is the name of the metric. The value is
fitted to the type of the metric: a double, or a natural of 64 bits, cut towards zero.
-/

namespace MeterFeed

inductive MapError where
  | unknownMetric (name : String)
  | notFinite (value : Number)
  | outOfRange (value : Number)
  deriving DecidableEq

def MapError.message : MapError → String
  | .unknownMetric name => "metric " ++ Quoted.text name ++ " is not configured"
  | .notFinite value => "cannot store " ++ value.text ++ " in an unsigned metric"
  | .outOfRange value => value.text ++ " is out of range for an unsigned metric"

/-- The exact value of a number, as a numerator and a positive denominator; infinities and what is
no number have none. -/
def Number.ratio? : Number → Option (Int × Nat)
  | .int n => some (n, 1)
  | .real x => x.ratio?

/-- The number that a boolean or a number stands for: false is zero and true is one. -/
def Json.number? : Json → Option Number
  | .bool b => some (.int (if b then 1 else 0))
  | .number n => some n
  | _ => none

/-- A number as the double of a metric. -/
def Number.toDouble (n : Number) : Except (Halt MapError) Number :=
  match n.toReal? with
  | .ok x => .ok (.real x)
  | .error f => .error (.fault f)

/-- A number as the natural of a metric: its integer part, if that has 64 bits. -/
def Number.toUnsigned (n : Number) : Except (Halt MapError) Number :=
  match n.ratio? with
  | none => .error (.error (.notFinite n))
  | some (num, den) =>
    if num < 0 ∨ (Number.unsignedMax : Int) * den < num then .error (.error (.outOfRange n))
    else .ok (.int (num.tdiv den))

def Number.fit (n : Number) : ValueType → Except (Halt MapError) Number
  | .real => n.toDouble
  | .unsigned => n.toUnsigned

inductive FitError where
  | refused (e : MapError)
  | unreadable (e : NumeralError)
  | noReal (found : Json.Kind)
  /-- What is neither a number nor a boolean has no place among the naturals. -/
  | incomparable (found : Json.Kind)
  deriving DecidableEq

def FitError.message : FitError → String
  | .refused e => e.message
  | .unreadable e => e.message
  | .noReal found =>
    "float() argument must be a string or a real number, not '" ++ found.word ++ "'"
  | .incomparable found =>
    "'<' not supported between instances of '" ++ found.word ++ "' and 'int'"

/-- A value that is no number fitted to a value type. A text stands for the double that it
writes. -/
def Json.fitOther (x : Json) : ValueType → Except FitError Number
  | .unsigned => .error (.incomparable x.kind)
  | .real =>
    match x with
    | .text s =>
      match Numeral.double s with
      | .ok r => .ok (.real r)
      | .error e => .error (.unreadable e)
    | _ => .error (.noReal x.kind)

def Json.fit (x : Json) (type : ValueType) : Except (Halt FitError) Number :=
  match x.number? with
  | none =>
    match x.fitOther type with
    | .ok n => .ok n
    | .error e => .error (.error e)
  | some n =>
    match n.fit type with
    | .ok n => .ok n
    | .error (.error e) => .error (.error (.refused e))
    | .error (.fault fault) => .error (.fault fault)

/-- A table of handles, and whether points take the time of the poll or of their record. -/
structure Mapper where
  table : Fields Metric
  usePollTime : Bool
  deriving DecidableEq

namespace Mapper

def originLabel : String := "_device_orig"

def metricAttribute : String := "metric_id"

/-- The consumer that the labels of a record name. -/
def consumer (labels : Fields Label) : Party :=
  match Fields.value? originLabel labels with
  | some (.text origin) => .custom (some "device_origin") (some origin)
  | _ => .localMachine

def attributes (r : Record) : Fields Label :=
  Fields.put metricAttribute (.text r.metricId) (Fields.without originLabel r.labels)

def map (mapper : Mapper) (r : Record) (pollTime : DateTime) : Except (Halt MapError) Point :=
  match Fields.value? r.metricId mapper.table with
  | none => .error (.error (.unknownMetric r.metricId))
  | some metric =>
    match r.value.fit metric.valueType with
    | .error halt => .error halt
    | .ok value =>
      .ok {
        metric
        time := if mapper.usePollTime then pollTime else r.time
        value
        resource := .custom (some "device_id") (some r.deviceId)
        consumer := consumer r.labels
        attributes := attributes r }

end Mapper

end MeterFeed
