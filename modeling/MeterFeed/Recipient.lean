/-!
# Recipients of payloads

A payload is handed on by the names of its values. Whoever takes it in has names for what comes
along with the payload, and a payload that uses one of those is refused.
-/

namespace MeterFeed

/-- Who takes in a payload. -/
inductive Recipient where
  | bus
  | host
  | coordinator
  deriving DecidableEq, Repr

namespace Recipient

/-- The names that a payload may not use. -/
def reserved : Recipient → List String
  | .bus => ["self", "event"]
  | .host => ["self"]
  | .coordinator => ["self"]

def word : Recipient → String
  | .bus => "EventBus.publish()"
  | .host => "PipelineRuntime.publish_cycle_finished()"
  | .coordinator => "PollCoordinator.on_measurement_cycle_finished()"

def clash? (r : Recipient) (names : List String) : Option String :=
  names.find? r.reserved.contains

def refusal (r : Recipient) (name : String) : String :=
  r.word ++ " got multiple values for argument '" ++ name ++ "'"

theorem clash?_isSome {r : Recipient} {names : List String} :
    (r.clash? names).isSome ↔ ∃ name ∈ names, name ∈ r.reserved := by
  simp [clash?]

end Recipient

end MeterFeed
