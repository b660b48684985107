import MeterFeed.Number.Basic
import MeterFeed.Time.DateTime

/-!
# Spans of time

A span is a number of microseconds, forwards or backwards. Its whole days are kept in a machine
integer, and it has at most `Span.greatestDays` of them.
-/

namespace MeterFeed

namespace Span

def greatestDays : Nat := 999999999

/-- The days of a span, of which the last one may have begun only. -/
def days (micros : Int) : Int :=
  micros.fdiv dayLength

def ofMicros (micros : Int) : Except Fault Int :=
  let n := days micros
  if !Word.int.holds n then .error (.tooWide .int)
  else if greatestDays < n.natAbs then .error (.tooManyDays n)
  else .ok micros

def ofSeconds (seconds : Int) : Except Fault Int :=
  ofMicros (seconds * second)

def after (micros : Int) (t : DateTime) : Except Fault DateTime :=
  match ofMicros micros with
  | .ok micros => t.shift micros
  | .error fault => .error fault

/-- What keeps the seconds of a wait from being timed: in nanoseconds they take at most 63 bits. -/
def untimed? : Number → Option Fault
  | .int n => if n * 10 ^ 9 < 2 ^ 63 then none else some (.endlessWait false)
  | .real .nan => none
  | .real (.inf negative) => if negative then none else some (.endlessWait true)
  | .real (.finite negative m e) =>
    if negative ∨ m * 2 ^ e.toNat * 10 ^ 9 < 2 ^ 63 * 2 ^ (-e).toNat then none
    else some (.endlessWait true)

end Span

end MeterFeed
