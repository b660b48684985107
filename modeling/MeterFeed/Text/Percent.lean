import MeterFeed.Text.Quoted
import MeterFeed.Text.Utf8

/-!
# Percent signs

A percent sign with two hexadecimal digits stands for an octet, and any other character for its
octets. Octets are those of UTF-8.
-/

namespace MeterFeed

namespace Percent

/-! ## Writing -/

def sign (b : UInt8) : List Char :=
  '%' :: (Quoted.hex 2 b.toNat).map Char.toUpper

/-- A character as it is written when some may be written as they are. -/
def escape (isPlain : Char → Bool) (c : Char) : List Char :=
  if isPlain c then [c] else (Utf8.encode (String.ofList [c])).flatMap sign

/-! ## Reading -/

def digit? (b : UInt8) : Option UInt8 :=
  if 48 ≤ b ∧ b ≤ 57 then some (b - 48)
  else if 97 ≤ b ∧ b ≤ 102 then some (b - 87)
  else if 65 ≤ b ∧ b ≤ 70 then some (b - 55)
  else none

def octet? (b : UInt8) (rest : List UInt8) : Option UInt8 :=
  match rest with
  | h :: l :: _ =>
    match b == 37, digit? h, digit? l with
    | true, some h, some l => some (h * 16 + l)
    | _, _, _ => none
  | _ => none

/-- Puts the octets in place that percent signs stand for, after leaving some octets out. -/
def octets : Nat → List UInt8 → List UInt8
  | _, [] => []
  | skipped + 1, _ :: rest => octets skipped rest
  | 0, b :: rest =>
    match octet? b rest with
    | some octet => octet :: octets 2 rest
    | none => b :: octets 0 rest

def decode (cs : List Char) : String :=
  String.ofList (Utf8.decode (octets 0 (Utf8.encode (String.ofList cs))))

end Percent

end MeterFeed
