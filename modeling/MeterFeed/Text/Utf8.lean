/-!
# Reading octets as UTF-8

`decode` reads any octets. Where they are no UTF-8, the longest run of octets that begins a
character and cannot go on becomes one replacement character, and so does an octet that begins no
character. `lead` gives for a first octet the number of octets owed and the bounds of the next one;
all octets after that one lie between `0x80` and `0xBF`.
-/

namespace MeterFeed

namespace Utf8

def replacement : Char := Char.ofNat 0xFFFD

/-- A character that is begun: its bits so far, the octets owed, the bounds of the next one. -/
structure Pending where
  bits : Nat
  owed : Nat
  low : Nat
  high : Nat

def lead (b : Nat) : Option Pending :=
  if 0xC2 ≤ b ∧ b ≤ 0xDF then some ⟨b - 0xC0, 1, 0x80, 0xBF⟩
  else if b = 0xE0 then some ⟨0, 2, 0xA0, 0xBF⟩
  else if b = 0xED then some ⟨0xD, 2, 0x80, 0x9F⟩
  else if 0xE1 ≤ b ∧ b ≤ 0xEF then some ⟨b - 0xE0, 2, 0x80, 0xBF⟩
  else if b = 0xF0 then some ⟨0, 3, 0x90, 0xBF⟩
  else if 0xF1 ≤ b ∧ b ≤ 0xF3 then some ⟨b - 0xF0, 3, 0x80, 0xBF⟩
  else if b = 0xF4 then some ⟨4, 3, 0x80, 0x8F⟩
  else none

/-- A first octet: a whole character, the begin of one, or neither. -/
def first (b : Nat) (rest : Option Pending → List Char) : List Char :=
  if b < 0x80 then Char.ofNat b :: rest none
  else match lead b with
    | some pending => rest (some pending)
    | none => replacement :: rest none

/-- The characters of octets that follow a begun character, if one is begun. -/
def run : Option Pending → List UInt8 → List Char
  | none, [] => []
  | some _, [] => [replacement]
  | none, b :: rest => first b.toNat fun pending => run pending rest
  | some p, b :: rest =>
    if p.low ≤ b.toNat ∧ b.toNat ≤ p.high then
      let bits := p.bits * 64 + (b.toNat - 0x80)
      if p.owed = 1 then Char.ofNat bits :: run none rest
      else run (some ⟨bits, p.owed - 1, 0x80, 0xBF⟩) rest
    else replacement :: first b.toNat fun pending => run pending rest

def decode (octets : List UInt8) : List Char :=
  run none octets

def encode (s : String) : List UInt8 :=
  s.toUTF8.data.toList

end Utf8

end MeterFeed
