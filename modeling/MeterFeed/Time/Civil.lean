/-!
# The civil calendar

Dates of the proleptic Gregorian calendar and the number of days since 1 January of the year 1.
`Date.dayNumber` counts the days before a date, `Date.ofDayNumber` finds the date of a day: whole
cycles of 400 years first, then centuries, leap cycles and years, of which the last one of a cycle
is a day longer, then months. `Date.next` is the calendar's own rule for the day after.
-/

namespace MeterFeed

/-- Every fourth year is a leap year, but of the full centuries only every fourth. -/
def isLeapYear (year : Nat) : Bool :=
  year % 4 == 0 && (year % 100 != 0 || year % 400 == 0)

def monthLengths (year : Nat) : List Nat :=
  [31, if isLeapYear year then 29 else 28, 31, 30, 31, 30, 31, 31, 30, 31, 30, 31]

def monthLength (year month : Nat) : Nat :=
  (monthLengths year).getD (month - 1) 0

def totalDays (lengths : List Nat) : Nat :=
  lengths.foldr (· + ·) 0

structure Date where
  year : Nat
  month : Nat
  day : Nat
  deriving DecidableEq, Repr

namespace Date

def isValid (d : Date) : Bool :=
  1 ≤ d.month && d.month ≤ 12 && 1 ≤ d.day && d.day ≤ monthLength d.year d.month

def daysBeforeYear (year : Nat) : Nat :=
  let y := year - 1
  y * 365 + y / 4 - y / 100 + y / 400

def daysBeforeMonth (year month : Nat) : Nat :=
  totalDays ((monthLengths year).take (month - 1))

def dayNumber (d : Date) : Nat :=
  daysBeforeYear d.year + daysBeforeMonth d.year d.month + (d.day - 1)

/-- Counts days into months: the month, from `month` on, and the day in it, from one. -/
def countMonths (month : Nat) : List Nat → Nat → Nat × Nat
  | [], n => (month, n + 1)
  | length :: rest, n =>
    if n < length then (month, n + 1) else countMonths (month + 1) rest (n - length)

/-- The date that lies `n` days after 1 January of the year 1. -/
def ofDayNumber (n : Nat) : Date :=
  let cycle := n / 146097
  let inCycle := n % 146097
  let century := min (inCycle / 36524) 3
  let inCentury := inCycle - century * 36524
  let leapCycle := inCentury / 1461
  let inLeapCycle := inCentury % 1461
  let single := min (inLeapCycle / 365) 3
  let inYear := inLeapCycle - single * 365
  let year := cycle * 400 + century * 100 + leapCycle * 4 + single + 1
  let (month, day) := countMonths 1 (monthLengths year) inYear
  ⟨year, month, day⟩

def next (d : Date) : Date :=
  if d.day < monthLength d.year d.month then { d with day := d.day + 1 }
  else if d.month < 12 then ⟨d.year, d.month + 1, 1⟩
  else ⟨d.year + 1, 1, 1⟩

end Date

end MeterFeed
