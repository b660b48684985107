import MeterFeed.Number.Layout
import MeterFeed.Text.DecimalDigit
import MeterFeed.Time.DateTime

/-!
# Time texts

A time is written `YYYY-MM-DDThh:mm:ss`, then a point and six digits of microseconds, then the
offset as a sign, `HH:MM`, and `:SS` if it has seconds, with a point and six digits if it has
microseconds. `isoMicros` always writes the microseconds of the clock, `iso` leaves them out when
they are zero. `ofIso?` reads both, with one to six digits after a point, and is strict about
everything else.
-/

namespace MeterFeed

namespace DateTime

def padded (width n : Nat) : List Char :=
  Layout.padded width (Layout.digits n)

def writeDate (d : Date) : List Char :=
  padded 4 d.year ++ '-' :: padded 2 d.month ++ '-' :: padded 2 d.day

def writeTime (t : TimeOfDay) : List Char :=
  padded 2 t.hour ++ ':' :: padded 2 t.minute ++ ':' :: padded 2 t.second

def writeMicros (micro : Nat) : List Char :=
  '.' :: padded 6 micro

/-- An offset as a sign, `HH:MM`, and its seconds and microseconds if it has any. -/
def writeOffset (offset : Int) : List Char :=
  let size := offset.natAbs
  let micros := if size % 1000000 = 0 then [] else writeMicros (size % 1000000)
  let seconds :=
    if size % 60000000 = 0 then [] else ':' :: padded 2 (size / 1000000 % 60) ++ micros
  (if offset < 0 then '-' else '+') ::
    padded 2 (size / 3600000000) ++ ':' :: padded 2 (size / 60000000 % 60) ++ seconds

def writeOffset? : Option Int → List Char
  | some offset => writeOffset offset
  | none => []

def isoMicros (t : DateTime) : List Char :=
  writeDate t.date ++ 'T' :: writeTime t.timeOfDay ++ writeMicros t.timeOfDay.micro ++
    writeOffset? t.offset

def iso (t : DateTime) : List Char :=
  let micros := if t.timeOfDay.micro = 0 then [] else writeMicros t.timeOfDay.micro
  writeDate t.date ++ 'T' :: writeTime t.timeOfDay ++ micros ++ writeOffset? t.offset

/-- A time with its microseconds, as a string. -/
def fullText (t : DateTime) : String :=
  String.ofList t.isoMicros

/-- A time, with its microseconds unless they are zero, as a string. -/
def text (t : DateTime) : String :=
  String.ofList t.iso

/-! ## Reading -/

def takeDigits : Nat → List Char → Option (List Char × List Char)
  | 0, cs => some ([], cs)
  | n + 1, c :: cs =>
    if DecimalDigit.isDecimal c then (takeDigits n cs).map fun taken => (c :: taken.1, taken.2)
    else none
  | _ + 1, [] => none

def takeOne (allowed : List Char) : List Char → Option (List Char)
  | c :: cs => if allowed.contains c then some cs else none
  | [] => none

def asciiNumber? (ds : List Char) : Option Nat :=
  ds.foldl (fun n c => do return (← n) * 10 + (← DecimalDigit.ascii? c)) (some 0)

def fractionMicros? (ds : List Char) : Option Nat :=
  asciiNumber? (ds ++ List.replicate (6 - ds.length) '0')

structure OffsetDigits where
  negative : Bool
  hours : List Char
  minutes : List Char
  seconds : List Char
  fraction : List Char

structure TimeDigits where
  year : List Char
  month : List Char
  day : List Char
  hour : List Char
  minute : List Char
  second : List Char
  fraction : List Char
  offset : Option OffsetDigits

def takeFraction (cs : List Char) : Option (List Char × List Char) :=
  match cs with
  | '.' :: rest =>
    let fraction := rest.takeWhile DecimalDigit.isDecimal
    if fraction.isEmpty || 6 < fraction.length then none
    else some (fraction, rest.dropWhile DecimalDigit.isDecimal)
  | _ => some ([], cs)

/-- Takes `YYYY-MM-DD`, one of the separators, `hh:mm:ss` and an optional fraction. -/
def takeClock (separators : List Char) (cs : List Char) : Option (TimeDigits × List Char) := do
  let (year, cs) ← takeDigits 4 cs
  let (month, cs) ← takeDigits 2 (← takeOne ['-'] cs)
  let (day, cs) ← takeDigits 2 (← takeOne ['-'] cs)
  let (hour, cs) ← takeDigits 2 (← takeOne separators cs)
  let (minute, cs) ← takeDigits 2 (← takeOne [':'] cs)
  let (second, cs) ← takeDigits 2 (← takeOne [':'] cs)
  let (fraction, cs) ← takeFraction cs
  return (⟨year, month, day, hour, minute, second, fraction, none⟩, cs)

def takeOffset (cs : List Char) : Option (OffsetDigits × List Char) := do
  let rest ← takeOne ['+', '-'] cs
  let (hours, rest) ← takeDigits 2 rest
  let (minutes, rest) ← takeDigits 2 (← takeOne [':'] rest)
  return (⟨cs.head? == some '-', hours, minutes, ['0'], []⟩, rest)

def takeOffsetSeconds (offset : OffsetDigits) (cs : List Char) :
    Option (OffsetDigits × List Char) :=
  match cs with
  | ':' :: cs => do
    let (seconds, cs) ← takeDigits 2 cs
    let (fraction, cs) ← takeFraction cs
    return ({ offset with seconds, fraction }, cs)
  | _ => some (offset, cs)

def TimeDigits.date? (t : TimeDigits) : Option Date := do
  return ⟨← asciiNumber? t.year, ← asciiNumber? t.month, ← asciiNumber? t.day⟩

def TimeDigits.timeOfDay? (t : TimeDigits) : Option TimeOfDay := do
  return ⟨← asciiNumber? t.hour, ← asciiNumber? t.minute, ← asciiNumber? t.second,
    ← fractionMicros? t.fraction⟩

/-- The microseconds that an offset denotes, below a day. -/
def OffsetDigits.micros? (o : OffsetDigits) : Option Int := do
  let hours ← asciiNumber? o.hours
  let minutes ← asciiNumber? o.minutes
  let seconds ← asciiNumber? o.seconds
  let micros ← fractionMicros? o.fraction
  if 23 < hours || 59 < minutes || 59 < seconds then none
  else
    let size : Int := ((hours * 60 + minutes) * 60 + seconds) * 1000000 + micros
    return if o.negative then -size else size

/-- Reads a time as `fullText` or `text` write it, or with a `Z` for the offset of UTC. -/
def ofIso? (s : String) : Option DateTime := do
  let (t, rest) ← takeClock ['T'] s.toList
  let date ← t.date?
  let time ← t.timeOfDay?
  if rest.isEmpty then ofFields? date time none
  else if rest = ['Z'] then ofFields? date time (some 0)
  else
    let (offset, rest) ← takeOffset rest
    let (offset, rest) ← takeOffsetSeconds offset rest
    if rest.isEmpty then ofFields? date time (some (← offset.micros?)) else none

end DateTime

end MeterFeed
