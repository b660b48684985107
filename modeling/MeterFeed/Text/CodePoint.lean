/-!
# Code points

A code point is a number up to the last one; every one of them has a character but those that are
set aside. Sets of them are listed as ranges by their two ends, or as runs by their two ends and the
step from one member to the next.
-/

namespace MeterFeed

namespace CodePoint

def last : Nat := 0x10FFFF

def isIn (ranges : List (Nat × Nat)) (c : Nat) : Bool :=
  ranges.any fun range => range.1 ≤ c && c ≤ range.2

def isInRun (runs : List (Nat × Nat × Nat)) (c : Nat) : Bool :=
  runs.any fun (first, last, step) => first ≤ c && c ≤ last && (c - first) % step == 0

end CodePoint

end MeterFeed
