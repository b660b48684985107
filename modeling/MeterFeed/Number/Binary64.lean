import MeterFeed.Number.Word

/-!
# Double precision numbers

A double is kept as what it denotes: not a number, an infinity, or `± mantissa · 2 ^ exponent`.
`finite` values made here are canonical: the mantissa is below `2 ^ 53`, the exponent is at least
`-1074`, and the mantissa is at least `2 ^ 52` unless the exponent is `-1074`; so equal doubles
are equal terms. Zero is `finite negative 0 (-1074)`, once for each sign.

* `Binary64.ofRatio` rounds a quotient of naturals to the nearest double, a tie to the even
  mantissa, and what lies beyond the largest double to an infinity;
* `Binary64.ofDecimal` reads `digits · 10 ^ power` that way;
* `Binary64.ratio?` is the exact value of a finite double.
-/

namespace MeterFeed

/-- A double, as what it denotes. -/
inductive Binary64 where
  | nan
  | inf (negative : Bool)
  | finite (negative : Bool) (mantissa : Nat) (exponent : Int)
  deriving DecidableEq, Repr, Inhabited

/-- The quotient `n / d` rounded to the nearest natural, a tie to the even one. -/
def roundDiv (n d : Nat) : Nat :=
  let q := n / d
  let r := n % d
  if 2 * r < d then q
  else if d < 2 * r then q + 1
  else if q % 2 = 0 then q else q + 1

namespace Binary64

def zero (negative : Bool) : Binary64 :=
  .finite negative 0 (-1074)

/-- The exponent that gives `num / den` a mantissa of 53 bits, or the least exponent. -/
def exponentFor (num den : Nat) : Int :=
  let guess : Int := (Nat.log2 num : Int) - (Nat.log2 den : Int) - 52
  let scaled := if guess < 0 then num * 2 ^ (-guess).toNat / den else num / (den * 2 ^ guess.toNat)
  let fitted := if scaled < 2 ^ 52 then guess - 1 else guess
  max fitted (-1074)

/-- The double nearest to `num / den`, for a positive `den`; a tie goes to the even mantissa. -/
def ofRatio (negative : Bool) (num den : Nat) : Binary64 :=
  if num = 0 then zero negative
  else
    let e := exponentFor num den
    let m := if e < 0 then roundDiv (num * 2 ^ (-e).toNat) den else roundDiv num (den * 2 ^ e.toNat)
    let (m, e) := if m = 2 ^ 53 then (2 ^ 52, e + 1) else (m, e)
    if 971 < e then .inf negative else .finite negative m e

/-- The double nearest to `digits · 10 ^ power`, where `digits` has `count` decimal digits.
Far outside the range of doubles the answer needs no power of ten. -/
def ofDecimal (negative : Bool) (digits count : Nat) (power : Int) : Binary64 :=
  if digits = 0 then zero negative
  else if 310 < power + count then .inf negative
  else if power + count < -330 then zero negative
  else if power < 0 then ofRatio negative digits (10 ^ (-power).toNat)
  else ofRatio negative (digits * 10 ^ power.toNat) 1

/-- The double nearest to an integer, unless the integer lies beyond all doubles. -/
def ofInt? (n : Int) : Option Binary64 :=
  match ofRatio (decide (n < 0)) n.natAbs 1 with
  | .finite negative m e => some (.finite negative m e)
  | _ => none

def ratio? : Binary64 → Option (Int × Nat)
  | .finite negative m e =>
    let magnitude : Nat := m * 2 ^ e.toNat
    some (if negative then -(magnitude : Int) else magnitude, 2 ^ (-e).toNat)
  | _ => none

def isFinite : Binary64 → Bool
  | .finite .. => true
  | _ => false

end Binary64

end MeterFeed
