import MeterFeed.Fault

/-!
# Where points go

An accumulator collects the points of a poll until it is drained. A sink keeps the points that were
written last, as many as its capacity allows, the newest at the end; it may be asked for the last
few of them.
-/

namespace MeterFeed

structure Accumulator (α : Type) where
  points : List α
  deriving DecidableEq, Repr

namespace Accumulator

variable {α : Type}

def empty : Accumulator α := ⟨[]⟩

def append (a : Accumulator α) (points : List α) : Accumulator α :=
  ⟨a.points ++ points⟩

@[simp] theorem append_nil (a : Accumulator α) : a.append [] = a := by
  simp [append]

def drain (a : Accumulator α) : List α × Accumulator α :=
  (a.points, empty)

end Accumulator

def lastOf {α : Type} (n : Nat) (xs : List α) : List α :=
  xs.drop (xs.length - n)

/-- The points written last; without a capacity all of them. -/
structure Sink (α : Type) where
  capacity : Option Nat
  points : List α
  deriving DecidableEq, Repr

namespace Sink

variable {α : Type}

def ofCapacity : Option Int → Except Fault (Sink α)
  | none => .ok ⟨none, []⟩
  | some n =>
    if !Word.size.holds n then .error (.tooWide .size)
    else if n < 0 then .error .negativeCapacity
    else .ok ⟨some n.toNat, []⟩

def keep (capacity : Option Nat) (points : List α) : List α :=
  match capacity with
  | none => points
  | some n => lastOf n points

/-- Writes points at the end, and forgets the oldest ones beyond the capacity. -/
def write (s : Sink α) (points : List α) : Sink α :=
  { s with points := keep s.capacity (s.points ++ points) }

/-- The newest points, at most `limit` of them, in the order in which they were written. -/
def recent (s : Sink α) (limit : Option Int) : List α :=
  match limit with
  | none => s.points
  | some n => lastOf n.toNat s.points

end Sink

end MeterFeed
