import MeterFeed.Number.Layout

/-!
# Numbers

A number of a payload is an integer of any size or a double, and stays what it was written as:
`131` and `131.0` are different numbers. `Number.text` is how messages show one.
-/

namespace MeterFeed

inductive Number where
  | int (n : Int)
  | real (x : Binary64)
  deriving DecidableEq, Repr, Inhabited

namespace Number

/-- Messages write a double positionally from `0.0001` up to below `1e+16`. -/
def layout : Layout := ⟨-4, 16, 2, "nan", "inf"⟩

def text : Number → String
  | .int n => toString n
  | .real x => layout.write x

def unsignedMax : Nat := 2 ^ 64 - 1

end Number

end MeterFeed
