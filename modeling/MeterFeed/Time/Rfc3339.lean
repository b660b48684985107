import MeterFeed.Time.Iso

/-!
# Time texts of the wire

A payload writes a time with a date, `T` or a space, a time of day with at most microseconds, and
an offset: `Z`, or a sign and `HH:MM`. Reading checks three things in turn, and each has its own
outcome: the shape, in which digits of any script count; then that the digits are ASCII and the
date, the time of day and the offset exist; then that the year is not zero.
-/

namespace MeterFeed

namespace Rfc3339

inductive Outcome where
  | time (t : DateTime)
  | misshapen
  /-- The text has the shape, but there is no such date, time of day or offset. -/
  | impossible
  /-- There is such a time, but in the year 0. -/
  | yearZero
  deriving DecidableEq

def shape? (cs : List Char) : Option DateTime.TimeDigits := do
  let (t, rest) ← DateTime.takeClock ['T', ' '] cs
  match rest with
  | ['Z'] => return t
  | _ =>
    let (offset, rest) ← DateTime.takeOffset rest
    if rest.isEmpty then return { t with offset := some offset } else none

def offset? (t : DateTime.TimeDigits) : Option Int :=
  match t.offset with
  | some offset => offset.micros?
  | none => some 0

def fields? (t : DateTime.TimeDigits) : Option (Date × TimeOfDay × Int) := do
  let date ← t.date?
  let time ← t.timeOfDay?
  let offset ← offset? t
  if date.isValid && time.isValid then return (date, time, offset) else none

def read (cs : List Char) : Outcome :=
  match shape? cs with
  | none => .misshapen
  | some digits =>
    match fields? digits with
    | none => .impossible
    | some (date, time, offset) =>
      match DateTime.ofFields? date time (some offset) with
      | some t => .time t
      | none => .yearZero

end Rfc3339

end MeterFeed
