import MeterFeed.Number.Shortest

/-!
# Layout of a double

A `Layout` says how the shortest decimal of a double is written: which decimal exponents are
written positionally, how many digits an exponent has at least, and the words for the values that
are no finite numbers. A positional text always has a point with a digit on each side.
-/

namespace MeterFeed

/-- How the decimal of a double is written. -/
structure Layout where
  /-- The least exponent of the first digit that is written positionally. -/
  positionalFrom : Int
  /-- The first exponent beyond the positional ones. -/
  positionalBelow : Int
  exponentDigits : Nat
  nan : String
  infinity : String
  deriving DecidableEq, Repr

namespace Layout

def digits (n : Nat) : List Char :=
  Nat.toDigits 10 n

def padded (width : Nat) (cs : List Char) : List Char :=
  List.replicate (width - cs.length) '0' ++ cs

/-- The positional text of digits whose first one stands for `10 ^ first`. -/
def positional (ds : List Char) (first : Int) : List Char :=
  if first < 0 then
    ['0', '.'] ++ List.replicate (-first - 1).toNat '0' ++ ds
  else
    let size := first.toNat + 1
    let whole := ds.take size ++ List.replicate (size - ds.length) '0'
    let part := ds.drop size
    whole ++ ['.'] ++ (if part.isEmpty then ['0'] else part)

/-- The text with an exponent of digits whose first one stands for `10 ^ first`. -/
def scientific (layout : Layout) (ds : List Char) (first : Int) : List Char :=
  let part := ds.drop 1
  let point := if part.isEmpty then [] else '.' :: part
  let sign := if first < 0 then '-' else '+'
  ds.take 1 ++ point ++ ['e', sign] ++ padded layout.exponentDigits (digits first.natAbs)

def magnitude (layout : Layout) (ds : List Char) (first : Int) : List Char :=
  if layout.positionalFrom ≤ first ∧ first < layout.positionalBelow then positional ds first
  else layout.scientific ds first

def write (layout : Layout) : Binary64 → String
  | .nan => layout.nan
  | .inf negative => (if negative then "-" else "") ++ layout.infinity
  | .finite negative m e =>
    let body :=
      if m = 0 then layout.magnitude ['0'] 0
      else
        let d := Shortest.decimal m e
        let ds := digits d.digits
        layout.magnitude ds (d.power + ds.length - 1)
    String.ofList (if negative then '-' :: body else body)

end Layout

end MeterFeed
