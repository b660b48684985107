import MeterFeed.Number.Layout

/-!
# Rounded decimals

A value is written with so many places after the point, or with so many digits in all, after its
exact value has been rounded to the nearest decimal of that kind; a tie goes to the even digit.
-/

namespace MeterFeed

namespace Rounded

open Shortest (Quotient)

/-- The value in units of the last of `count` places, rounded. -/
def units (v : Quotient) (count : Nat) : Nat :=
  roundDiv (v.num * 10 ^ count) v.den

def fixed (v : Quotient) (count : Nat) : List Char × List Char :=
  let ds := Layout.padded (count + 1) (Layout.digits (units v count))
  (ds.take (ds.length - count), ds.drop (ds.length - count))

def unitsOf (v : Quotient) (power : Int) : Nat :=
  if power < 0 then units v (-power).toNat else roundDiv v.num (v.den * 10 ^ power.toNat)

/-- A first digit and `count` more, and the power of ten that the first one stands for. Rounding
may bring the value up to the next power of ten. -/
def significant (v : Quotient) (count : Nat) : List Char × Int :=
  if v.num = 0 then (List.replicate (count + 1) '0', 0)
  else
    let first := Shortest.magnitude v - 1
    let n := unitsOf v (first - count)
    if n = 10 ^ (count + 1) then (Layout.digits (10 ^ count), first + 1)
    else (Layout.digits n, first)

def withoutZeros (ds : List Char) : List Char :=
  (ds.reverse.dropWhile (· == '0')).reverse

end Rounded

end MeterFeed
