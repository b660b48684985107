/-!
# Blank characters

Two sets of blank characters. `isBlank` is the set that is cut from the ends of a configured text:
the Unicode white space together with the four ASCII separators. `isNumberBlank` is the set that
may surround a number: among the ASCII characters it lacks those separators.
-/

namespace MeterFeed

namespace Blank

def wide : List Nat := [
  0x85, 0xA0, 0x1680, 0x2000, 0x2001, 0x2002, 0x2003, 0x2004, 0x2005, 0x2006, 0x2007, 0x2008,
  0x2009, 0x200A, 0x2028, 0x2029, 0x202F, 0x205F, 0x3000]

def isAsciiSpace (c : Char) : Bool :=
  c.toNat == 32 || (9 ≤ c.toNat && c.toNat ≤ 13)

/-- True of a character that is cut from the ends of a configured text. -/
def isBlank (c : Char) : Bool :=
  isAsciiSpace c || (28 ≤ c.toNat && c.toNat ≤ 31) || wide.contains c.toNat

/-- True of a character that may surround a number. -/
def isNumberBlank (c : Char) : Bool :=
  isAsciiSpace c || wide.contains c.toNat

def strip (blank : Char → Bool) (cs : List Char) : List Char :=
  ((cs.dropWhile blank).reverse.dropWhile blank).reverse

end Blank

end MeterFeed
