import MeterFeed.Fault
import MeterFeed.Time.Civil

/-!
# Times

A time is what a clock on a wall shows in the years 1 to 9999, to the microsecond, and possibly the
offset of that clock from UTC, to the microsecond too. The clock is kept as the microseconds since
the begin of the year 1, so that two times with the same date, time of day and offset are equal
terms; the date and the time of day are views. A time with an offset stands for an instant.

The offset is the time's own and fixed; there are no zones whose offset changes over the year. So
two times with an offset are always compared by their instants. Two readings of one clock in a zone
with a changing offset, which would be compared by what the clock shows, are not times of this kind.

* `DateTime.instant?` is the instant, in microseconds since the begin of the year 1 in UTC;
* `DateTime.atOffset` shows the same instant on the clock of another offset;
* `DateTime.isBefore` compares times, which needs an offset on both or on neither;
* `DateTime.shift` moves the clock.
-/

namespace MeterFeed

def second : Nat := 1000000

def dayLength : Nat := 86400000000

def clockSpan : Nat := 3652059 * dayLength

structure TimeOfDay where
  hour : Nat
  minute : Nat
  second : Nat
  micro : Nat
  deriving DecidableEq, Repr

namespace TimeOfDay

/-- True of the times of day of a clock without leap seconds. -/
def isValid (t : TimeOfDay) : Bool :=
  t.hour ≤ 23 && t.minute ≤ 59 && t.second ≤ 59 && t.micro < 1000000

def micros (t : TimeOfDay) : Nat :=
  ((t.hour * 60 + t.minute) * 60 + t.second) * 1000000 + t.micro

def ofMicros (n : Nat) : TimeOfDay :=
  ⟨n / 3600000000, n / 60000000 % 60, n / 1000000 % 60, n % 1000000⟩

end TimeOfDay

/-- A time: the clock, and the offset of the clock from UTC in microseconds. -/
structure DateTime where
  ticks : Nat
  offset : Option Int
  ticks_lt : ticks < clockSpan
  deriving DecidableEq

namespace DateTime

def date (t : DateTime) : Date :=
  Date.ofDayNumber (t.ticks / dayLength)

def timeOfDay (t : DateTime) : TimeOfDay :=
  TimeOfDay.ofMicros (t.ticks % dayLength)

/-- The time with a clock, unless the clock leaves the years 1 to 9999. -/
def ofTicks? (ticks : Int) (offset : Option Int) : Option DateTime :=
  if h : 0 ≤ ticks ∧ ticks < clockSpan then some ⟨ticks.toNat, offset, by omega⟩ else none

def ofFields? (date : Date) (time : TimeOfDay) (offset : Option Int) : Option DateTime :=
  if date.isValid && time.isValid && 1 ≤ date.year then
    ofTicks? (date.dayNumber * dayLength + time.micros) offset
  else none

/-- The instant, in microseconds since the begin of the year 1 in UTC. -/
def instant? (t : DateTime) : Option Int :=
  t.offset.map fun offset => (t.ticks : Int) - offset

def shift (micros : Int) (t : DateTime) : Except Fault DateTime :=
  match ofTicks? (t.ticks + micros) t.offset with
  | some t => .ok t
  | none => .error .dateOutOfRange

/-- The same time on the clock of UTC. A time without an offset is read as UTC; that takes a look
at the clock a day earlier, which on the first day of the calendar there is not. -/
def toUtc (t : DateTime) : Except Fault DateTime :=
  match t.instant? with
  | none =>
    if t.ticks < dayLength then .error .yearZero else .ok { t with offset := some 0 }
  | some instant =>
    match ofTicks? instant (some 0) with
    | some t => .ok t
    | none => .error .dateOutOfRange

/-- The same time on the clock of another offset, by way of UTC. -/
def atOffset (offset : Int) (t : DateTime) : Except Fault DateTime :=
  match t.toUtc with
  | .error fault => .error fault
  | .ok utc =>
    match ofTicks? (utc.ticks + offset) (some offset) with
    | some t => .ok t
    | none => .error .dateOutOfRange

/-- What comparisons look at: the instant, or the clock of a time without an offset. -/
def orderKey (t : DateTime) : Int :=
  t.instant?.getD t.ticks

def isBefore (a b : DateTime) : Except Fault Bool :=
  if a.offset.isSome == b.offset.isSome then .ok (decide (a.orderKey < b.orderKey))
  else .error .mixedTimes

/-- The later of two times; the first one if they are the same instant. -/
def later (a b : DateTime) : Except Fault DateTime :=
  match a.isBefore b with
  | .ok true => .ok b
  | .ok false => .ok a
  | .error fault => .error fault

end DateTime

end MeterFeed
