/-!
# Machine integers

Some counts are kept in an integer of the machine, of 32 or of 64 bits with a sign. A number that
does not fit is refused, and never cut.
-/

namespace MeterFeed

/-- Powers are those of the core library, also where another library brings its own. -/
@[default_instance 20000]
instance (priority := high) corePow {α : Type} [NatPow α] : Pow α Nat :=
  instPowNat

/-- The sorts of machine integers. -/
inductive Word where
  /-- 32 bits. -/
  | int
  /-- 64 bits, for sizes. -/
  | size
  deriving DecidableEq, Repr

namespace Word

def greatest : Word → Nat
  | .int => 2 ^ 31 - 1
  | .size => 2 ^ 63 - 1

/-- The least integer that fits; its opposite does not. -/
def least (w : Word) : Int :=
  -(w.greatest : Int) - 1

def holds (w : Word) (n : Int) : Bool :=
  w.least ≤ n && n ≤ w.greatest

def overflow (w : Word) : String :=
  "Python int too large to convert to C " ++ match w with
    | .int => "int"
    | .size => "ssize_t"

end Word

end MeterFeed
