import MeterFeed.Number.Binary64

/-!
# Shortest decimal text of a double

The decimal of a finite positive double is the shortest one that reads back, and the nearest of
those. The reals that round to `m · 2 ^ e` form an interval with ends half a step away (a quarter
step below a power of two), which belong to it when `m` is even. For one digit, two digits, and so
on the two neighbours of the value on that decimal grid are tested against the interval; the first
grid with a hit gives the answer.
-/

namespace MeterFeed

/-- A decimal `digits · 10 ^ power`. -/
structure Decimal where
  digits : Nat
  power : Int
  deriving DecidableEq, Repr

namespace Shortest

structure Quotient where
  num : Nat
  den : Nat

def Quotient.lt (a b : Quotient) : Bool :=
  a.num * b.den < b.num * a.den

def powerOfTen (k : Int) : Quotient :=
  if k < 0 then ⟨1, 10 ^ (-k).toNat⟩ else ⟨10 ^ k.toNat, 1⟩

def scaleTen (n : Nat) (k : Int) : Quotient :=
  if k < 0 then ⟨n, 10 ^ (-k).toNat⟩ else ⟨n * 10 ^ k.toNat, 1⟩

def scaleTwo (n : Nat) (k : Int) : Quotient :=
  if k < 0 then ⟨n, 2 ^ (-k).toNat⟩ else ⟨n * 2 ^ k.toNat, 1⟩

/-- The number of digits before the point: the `p` with `10 ^ (p - 1) ≤ v < 10 ^ p`. -/
def magnitude (v : Quotient) : Int :=
  let bits : Int := (Nat.log2 v.num : Int) - (Nat.log2 v.den : Int)
  let least : Int := Int.fdiv ((bits - 1) * 30103) 100000
  let candidates := [least, least + 1, least + 2]
  (candidates.find? fun p => v.lt (powerOfTen p)).getD (least + 3)

/-- The reals that round to `m · 2 ^ e`: lower end, upper end, in quarters of `2 ^ e`. -/
def interval (m : Nat) (e : Int) : Quotient × Quotient :=
  let low := if m = 2 ^ 52 ∧ -1074 < e then 4 * m - 1 else 4 * m - 2
  (scaleTwo low (e - 2), scaleTwo (4 * m + 2) (e - 2))

/-- Membership in the interval, whose ends count when the mantissa is even. -/
def reads (m : Nat) (e : Int) (x : Quotient) : Bool :=
  let (low, high) := interval m e
  if m % 2 = 0 then !(x.lt low) && !(high.lt x) else low.lt x && x.lt high

/-- The best decimal with step `10 ^ k` that reads back, if one of the two neighbours does. -/
def onGrid (m : Nat) (e : Int) (v : Quotient) (k : Int) : Option Decimal :=
  let step := powerOfTen k
  let n := v.num * step.den
  let d := v.den * step.num
  let below := n / d
  let above := below + 1
  match reads m e (scaleTen below k), reads m e (scaleTen above k) with
  | true, true => some ⟨roundDiv n d, k⟩
  | true, false => some ⟨below, k⟩
  | false, true => some ⟨above, k⟩
  | false, false => none

def trim : Nat → Decimal → Decimal
  | 0, d => d
  | fuel + 1, d =>
    if d.digits ≠ 0 ∧ d.digits % 10 = 0 then trim fuel ⟨d.digits / 10, d.power + 1⟩ else d

/-- The shortest decimal that reads back as `m · 2 ^ e`, for a positive `m`. -/
def decimal (m : Nat) (e : Int) : Decimal :=
  let v := scaleTwo m e
  let p := magnitude v
  let grids := (List.range 17).map fun (i : Nat) => p - 1 - (i : Int)
  trim 20 ((grids.findSome? (onGrid m e v)).getD ⟨m, 0⟩)

end Shortest

end MeterFeed
