import MeterFeed.Json.Value
import MeterFeed.Text.Quoted

/-!
# Printing JSON

The text of a value: `", "` between elements, `": "` after a name, every character beyond ASCII as
one or two UTF-16 units in hexadecimal, and doubles in their shortest digits. `Json.print` is the
second side of the reader: what it prints of a value without doubles, the reader reads back.
-/

namespace MeterFeed

namespace Json

/-- Payloads write a double as messages do, with their own words for the values that are none. -/
def layout : Layout := ⟨-4, 16, 2, "NaN", "Infinity"⟩

def unitEscape (n : Nat) : List Char :=
  Quoted.backslash :: 'u' :: Quoted.hex 4 n

def printChar (c : Char) : List Char :=
  if c = Quoted.mark ∨ c = Quoted.backslash then [Quoted.backslash, c]
  else if c = '\n' then [Quoted.backslash, 'n']
  else if c = '\r' then [Quoted.backslash, 'r']
  else if c = '\t' then [Quoted.backslash, 't']
  else if c.toNat = 12 then [Quoted.backslash, 'f']
  else if c.toNat = 8 then [Quoted.backslash, 'b']
  else if 32 ≤ c.toNat ∧ c.toNat < 127 then [c]
  else if c.toNat < 0x10000 then unitEscape c.toNat
  else
    let v := c.toNat - 0x10000
    unitEscape (0xD800 + v / 0x400) ++ unitEscape (0xDC00 + v % 0x400)

def printText (s : String) : List Char :=
  Quoted.mark :: s.toList.flatMap printChar ++ [Quoted.mark]

def printInt (n : Int) : List Char :=
  if n < 0 then '-' :: Layout.digits n.natAbs else Layout.digits n.natAbs

def printNumber : Number → List Char
  | .int n => printInt n
  | .real x => (layout.write x).toList

mutual

def print : Json → List Char
  | .null => "null".toList
  | .bool b => if b then "true".toList else "false".toList
  | .number n => printNumber n
  | .text s => printText s
  | .array elements => '[' :: printElements elements ++ [']']
  | .object members => '\x7b' :: printMembers members ++ ['\x7d']

def printElements : List Json → List Char
  | [] => []
  | [x] => print x
  | x :: rest => print x ++ [',', ' '] ++ printElements rest

def printMembers : List (String × Json) → List Char
  | [] => []
  | [(k, x)] => printText k ++ [':', ' '] ++ print x
  | (k, x) :: rest => printText k ++ [':', ' '] ++ print x ++ [',', ' '] ++ printMembers rest

end

end Json

end MeterFeed
