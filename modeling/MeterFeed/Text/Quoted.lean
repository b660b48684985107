import MeterFeed.Text.CodePoint
import MeterFeed.Text.Printable

/-!
# Quoted texts

How a message quotes a text: between apostrophes, or between quotation marks if the text has an
apostrophe and no quotation mark. The delimiter and the backslash are escaped, line feed, return
and tab have letters, and any other unprintable character is written by its code in two, four or
eight hexadecimal digits, as few as hold it.
-/

namespace MeterFeed

namespace Quoted

def apostrophe : Char := Char.ofNat 39

def mark : Char := Char.ofNat 34

def backslash : Char := Char.ofNat 92

def hex (width n : Nat) : List Char :=
  let ds := Nat.toDigits 16 n
  List.replicate (width - ds.length) '0' ++ ds

def delimiter (cs : List Char) : Char :=
  if cs.contains apostrophe && !cs.contains mark then mark else apostrophe

def character (delimiter c : Char) : List Char :=
  if c = delimiter ∨ c = backslash then [backslash, c]
  else if c = '\n' then [backslash, 'n']
  else if c = '\r' then [backslash, 'r']
  else if c = '\t' then [backslash, 't']
  else if Printable.isPrintable c then [c]
  else if c.toNat < 0x100 then backslash :: 'x' :: hex 2 c.toNat
  else if c.toNat < 0x10000 then backslash :: 'u' :: hex 4 c.toNat
  else backslash :: 'U' :: hex 8 c.toNat

def quote (cs : List Char) : List Char :=
  let d := delimiter cs
  d :: cs.flatMap (character d) ++ [d]

def text (s : String) : String :=
  String.ofList (quote s.toList)

/-- One code point of a quoted text; those without a character are written by their code. -/
def codePoint (delimiter : Char) (c : Nat) : List Char :=
  if c.isValidChar then character delimiter (Char.ofNat c) else backslash :: 'u' :: hex 4 c

def codePoints (cs : List Nat) : String :=
  let d := delimiter (cs.map Char.ofNat)
  String.ofList (d :: cs.flatMap (codePoint d) ++ [d])

end Quoted

end MeterFeed
