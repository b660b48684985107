import MeterFeed.Fields

/-!
# Events

Handlers subscribe to events by name, more than once if they like. A publication goes to the
handlers that are subscribed at that moment, in the order of subscription; what they do to the
subscriptions counts from the next publication on. A handler that fails does not keep the others
from being called.
-/

namespace MeterFeed

/-- The handlers of every event, in the order of subscription. -/
structure EventBus (η : Type) where
  subscriptions : Fields (List η)
  deriving DecidableEq, Repr

def cycleFinished : String := "measurement_cycle_finished"

namespace EventBus

variable {η : Type}

def empty : EventBus η := ⟨[]⟩

def handlers (bus : EventBus η) (event : String) : List η :=
  (Fields.value? event bus.subscriptions).getD []

def subscribe (bus : EventBus η) (event : String) (handler : η) : EventBus η :=
  ⟨Fields.put event (bus.handlers event ++ [handler]) bus.subscriptions⟩

def unsubscribe [DecidableEq η] (bus : EventBus η) (event : String) (handler : η) : EventBus η :=
  if handler ∈ bus.handlers event then
    ⟨Fields.put event ((bus.handlers event).erase handler) bus.subscriptions⟩
  else bus

theorem handlers_subscribe (bus : EventBus η) (event : String) (handler : η) :
    (bus.subscribe event handler).handlers event = bus.handlers event ++ [handler] := by
  simp [subscribe, handlers, Fields.value?_put_self]

theorem handlers_subscribe_of_ne {event other : String} (h : other ≠ event) (bus : EventBus η)
    (handler : η) : (bus.subscribe event handler).handlers other = bus.handlers other := by
  simp [subscribe, handlers, Fields.value?_put_of_ne h]

theorem handlers_unsubscribe [DecidableEq η] (bus : EventBus η) (event : String) (handler : η) :
    (bus.unsubscribe event handler).handlers event = (bus.handlers event).erase handler := by
  unfold unsubscribe
  split
  · simp [handlers, Fields.value?_put_self]
  · rename_i habsent
    exact (List.erase_of_not_mem habsent).symm

theorem handlers_unsubscribe_of_ne [DecidableEq η] {event other : String} (h : other ≠ event)
    (bus : EventBus η) (handler : η) :
    (bus.unsubscribe event handler).handlers other = bus.handlers other := by
  unfold unsubscribe
  split
  · simp [handlers, Fields.value?_put_of_ne h]
  · rfl

end EventBus

end MeterFeed
