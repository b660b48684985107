import MeterFeed.Number.Basic
import MeterFeed.Time.DateTime

/-!
# Epoch seconds

A number of seconds since the begin of 1970 in UTC stands for a time in UTC. An integer is exact. A
double is split at the point, towards zero; its fraction times a million is rounded to a double and
then to an integer, a tie to the even one, and carried into the seconds.
-/

namespace MeterFeed

namespace Epoch

def start : Int := 62135596800

def ofSecondsAndMicros? (seconds micros : Int) : Option DateTime :=
  DateTime.ofTicks? ((seconds + start) * 1000000 + micros) (some 0)

/-- The microseconds of the fraction `num / den` of a second, in its own sign. -/
def fractionMicros (num : Int) (den : Nat) : Int :=
  match (Binary64.ofRatio false (num.natAbs * 1000000) den).ratio? with
  | some (n, d) =>
    let size : Int := roundDiv n.natAbs d
    if num < 0 then -size else size
  | none => 0

/-- The time of a double of epoch seconds. -/
def ofReal? (x : Binary64) : Option DateTime :=
  match x.ratio? with
  | none => none
  | some (num, den) => ofSecondsAndMicros? (num.tdiv den) (fractionMicros (num.tmod den) den)

def time? : Number → Option DateTime
  | .int n => ofSecondsAndMicros? n 0
  | .real x => ofReal? x

/-- What the wall clock shows when it counts microseconds since the begin of 1970. -/
def wallClock? (micros : Nat) : Option DateTime :=
  ofSecondsAndMicros? 0 micros

def amountText (seconds : Nat) : String :=
  String.ofList (Layout.digits (seconds / 3600) ++ ':' ::
    Layout.padded 2 (Layout.digits (seconds / 60 % 60)) ++ ':' ::
    Layout.padded 2 (Layout.digits (seconds % 60)))

end Epoch

end MeterFeed
