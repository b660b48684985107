import MeterFeed.Record.Label
import MeterFeed.Time.Epoch
import MeterFeed.Time.Rfc3339

/-!
# Records

A record is one measure: the device, the metric, the time, the reading and the labels. Decoding
first looks for every required field, then decodes them one after the other, so the outcome is that
of the first field in `Record.required` that fails, and never a record with parts missing. Encoding
writes the fields in the order of the wire, the time with microseconds and offset; decoding what is
written gives the record back.
-/

namespace MeterFeed

structure Record where
  deviceId : String
  metricId : String
  time : DateTime
  value : Number
  labels : Fields Label
  deriving DecidableEq

namespace Record

def required : List String :=
  ["device_id", "metric_id", "timestamp", "value", "labels"]

def field (members : List (String × Json)) (name : String) : Except (Halt DecodeError) Json :=
  match Fields.value? name members with
  | some x => .ok x
  | none => .error (.error (.missing name))

def decodeText (name : String) : Json → Except (Halt DecodeError) String
  | .text s => .ok s
  | x => .error (.error (.bad name (.expectedText x.kind)))

/-- The time of a number of epoch seconds or of a time text. -/
def decodeTime : Json → Except (Halt DecodeError) DateTime
  | .number n =>
    match Epoch.time? n with
    | some t => .ok t
    | none => .error (.error (.badTime (.epochOutOfRange n)))
  | .text s =>
    match Rfc3339.read s.toList with
    | .time t => .ok t
    | .misshapen => .error (.error (.badTime (.misshapenTime s)))
    | .impossible => .error (.error (.badTime (.impossibleTime s)))
    | .yearZero => .error (.fault .yearZero)
  | _ => .error (.error (.badTime .expectedTime))

def decodeValue (x : Json) : Except (Halt DecodeError) Number :=
  match x.reading? with
  | .ok (some n) => .ok n
  | .ok none => .error (.error (.bad "value" (.expectedReading x)))
  | .error f => .error (.fault f)

/-- The label of a member; one that cannot be a label makes the labels bad. -/
def decodeLabel (name : String) (x : Json) : Except (Halt DecodeError) (String × Label) :=
  match Label.decode x with
  | .ok label => .ok (name, label)
  | .error (.error shape) => .error (.error (.bad "labels" (.label name shape)))
  | .error (.fault f) => .error (.fault f)

/-- The labels of members, up to the first one that fails. -/
def decodeMembers : List (String × Json) → Except (Halt DecodeError) (Fields Label)
  | [] => .ok []
  | (name, x) :: rest => do
    let label ← decodeLabel name x
    let labels ← decodeMembers rest
    return label :: labels

def decodeLabels : Json → Except (Halt DecodeError) (Fields Label)
  | .object members => decodeMembers members
  | x => .error (.error (.bad "labels" (.expectedObject x.kind)))

def ofMembers (members : List (String × Json)) : Except (Halt DecodeError) Record := do
  let device ← field members "device_id"
  let metric ← field members "metric_id"
  let time ← field members "timestamp"
  let value ← field members "value"
  let labels ← field members "labels"
  let deviceId ← decodeText "device_id" device
  let metricId ← decodeText "metric_id" metric
  let time ← decodeTime time
  let value ← decodeValue value
  let labels ← decodeLabels labels
  return { deviceId, metricId, time, value, labels }

def decode : Json → Except (Halt DecodeError) Record
  | .object members => ofMembers members
  | x => .error (.error (.bad "record" (.expectedObject x.kind)))

def encodeLabels (labels : Fields Label) : Json :=
  .object (labels.map fun field => (field.1, field.2.toJson))

def encode (r : Record) : Json :=
  .object [("timestamp", .text r.time.fullText), ("metric_id", .text r.metricId),
    ("device_id", .text r.deviceId), ("value", .number r.value), ("labels", encodeLabels r.labels)]

end Record

end MeterFeed
