import MeterFeed.Time.DateTime

/-!
# Windows

A window is the span of time that one query asks for, from its start up to but not including its
finish. Both times have an offset and the finish is not before the start.
-/

namespace MeterFeed

structure Window where
  start : DateTime
  finish : DateTime
  aware : start.offset.isSome ∧ finish.offset.isSome
  ordered : start.orderKey ≤ finish.orderKey
  deriving DecidableEq

namespace Window

def make (start finish : DateTime) : Except Fault Window :=
  if aware : start.offset.isSome ∧ finish.offset.isSome then
    if ordered : start.orderKey ≤ finish.orderKey then .ok ⟨start, finish, aware, ordered⟩
    else .error .reversedWindow
  else .error .naiveWindow

theorem make_eq_ok {start finish : DateTime} {w : Window} (h : make start finish = .ok w) :
    w.start = start ∧ w.finish = finish := by
  unfold make at h
  split at h
  · split at h
    · cases h
      exact ⟨rfl, rfl⟩
    · cases h
  · cases h

end Window

end MeterFeed
