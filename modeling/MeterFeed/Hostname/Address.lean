import MeterFeed.Text.DecimalDigit
import MeterFeed.Text.Parts

/-!
# Addresses of hosts

A host may be named by its address: four decimal numbers with points between them, or, in brackets,
eight hexadecimal ones with colons between them. Of the latter the last two may be written as four
decimal numbers, and one run of zeros may be left out; a percent sign and a zone may follow.
-/

namespace MeterFeed

namespace Address

/-! ## Four decimal numbers -/

/-- True of a text that looks like four decimal numbers, of any size, with points between them. -/
def looksFourPart (cs : List Char) : Bool :=
  let parts := partsAt '.' cs
  parts.length == 4 && parts.all fun part => !part.isEmpty && part.all DecimalDigit.isAscii

def isOctet (cs : List Char) : Bool :=
  !cs.isEmpty && cs.all DecimalDigit.isAscii && cs.length ≤ 3 &&
    (cs == ['0'] || cs.head? != some '0') &&
    cs.foldl (fun n c => n * 10 + (c.toNat - 48)) 0 ≤ 255

def isFourPart (cs : List Char) : Bool :=
  let parts := partsAt '.' cs
  parts.length == 4 && parts.all isOctet

/-! ## Eight hexadecimal numbers -/

def isGroup (cs : List Char) : Bool :=
  !cs.isEmpty && cs.length ≤ 4 && cs.all fun c =>
    c.isDigit || ('a' ≤ c && c ≤ 'f') || ('A' ≤ c && c ≤ 'F')

/-- Parts in which two groups stand in place of a last part of four decimal numbers. -/
def withoutPoints? (parts : List (List Char)) : Option (List (List Char)) :=
  match parts.getLast? with
  | none => some parts
  | some last =>
    if !last.contains '.' then some parts
    else if isFourPart last then some (parts.dropLast ++ [['0'], ['0']])
    else none

/-- The groups on the outer side of what is left out, which come from the outside; nothing has to
stand there. -/
def outer (parts : List (List Char)) : List (List Char) :=
  if parts = [[]] then [] else parts

/-- True of parts that make eight groups, when the groups left out are told by an empty part. -/
def isEightPart (parts : List (List Char)) : Bool :=
  let inner := (parts.drop 1).dropLast
  match inner.findIdx? List.isEmpty with
  | none => parts.length == 8 && parts.all isGroup
  | some i =>
    let before := outer (parts.take (i + 1))
    let after := outer (parts.drop (i + 2))
    before.length + after.length ≤ 7 && before.all isGroup && after.all isGroup

def isGrouped (cs : List Char) : Bool :=
  match withoutPoints? (partsAt ':' cs) with
  | none => false
  | some parts => isEightPart parts

def isZoned (cs : List Char) : Bool :=
  let (address, zone) := cutAt '%' cs
  isGrouped address && (!cs.contains '%' || (!zone.isEmpty && !zone.contains '%'))

end Address

end MeterFeed
