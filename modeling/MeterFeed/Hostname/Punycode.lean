import MeterFeed.Text.CodePoint

/-!
# Punycode

A text beyond ASCII is written in ASCII by its ASCII characters, a hyphen if there are any, and
then, in the order of their code points, how far it is from each of the other characters to the
next. Such a distance is written in digits of base 36, the least one first, and ends with the first
digit below a threshold; the threshold of a place depends on a bias, which follows the distances.
-/

namespace MeterFeed

namespace Punycode

def firstBias : Nat := 72

/-- The least code point that is not written as it is. -/
def firstWide : Nat := 0x80

/-- The threshold of the digit at a place, counted from zero. -/
def threshold (place bias : Nat) : Nat :=
  max 1 (min 26 (36 * (place + 1) - bias))

theorem threshold_pos (place bias : Nat) : 1 ≤ threshold place bias := by
  unfold threshold
  omega

theorem threshold_le (place bias : Nat) : threshold place bias ≤ 26 := by
  unfold threshold
  omega

/-- How often a distance is to be divided, times 36, and what is left of it then. -/
def shrink (distance : Nat) : Nat × Nat :=
  if 455 < distance then
    let (total, left) := shrink (distance / 35)
    (total + 36, left)
  else (0, distance)
termination_by distance
decreasing_by exact Nat.div_lt_self (by omega) (by omega)

/-- The bias after a distance, when so many characters are written. -/
def adapt (distance count : Nat) (first : Bool) : Nat :=
  let distance := if first then distance / 700 else distance / 2
  let (total, left) := shrink (distance + distance / count)
  total + 36 * left / (left + 38)

/-! ## Writing -/

def digit (d : Nat) : Char :=
  Char.ofNat (if d < 26 then 0x61 + d else 0x30 + (d - 26))

def digits (bias place n : Nat) : List Char :=
  let t := threshold place bias
  if n < t then [digit n]
  else digit (t + (n - t) % (36 - t)) :: digits bias (place + 1) ((n - t) / (36 - t))
termination_by n
decreasing_by
  have := threshold_pos place bias
  have := threshold_le place bias
  calc (n - threshold place bias) / (36 - threshold place bias)
      ≤ n - threshold place bias := Nat.div_le_self _ _
    _ < n := by omega

structure Progress where
  written : List Char
  distance : Nat
  bias : Nat
  count : Nat
  deriving DecidableEq, Repr

/-- Passes a character while those of a code point are written, after some of ASCII. -/
def pass (ascii code : Nat) (p : Progress) (c : Nat) : Progress :=
  if c < code then { p with distance := p.distance + 1 }
  else if c = code then
    { written := p.written ++ digits p.bias 0 p.distance
      distance := 0
      bias := adapt p.distance (p.count + 1) (p.count == ascii)
      count := p.count + 1 }
  else p

/-- Writes the characters of some code points in ascending order; `next` is the least one that the
distance has not passed yet. -/
def writeWide (cs : List Nat) (ascii : Nat) :
    List Nat → Nat → Progress → Progress
  | [], _, p => p
  | code :: codes, next, p =>
    let p := { p with distance := p.distance + (code - next) * (p.count + 1) }
    let p := cs.foldl (pass ascii code) p
    writeWide cs ascii codes (code + 1) { p with distance := p.distance + 1 }

def wideCodes (cs : List Nat) : List Nat :=
  ((cs.filter (firstWide ≤ ·)).eraseDups).mergeSort (decide <| · ≤ ·)

def plain (cs : List Nat) : List Char :=
  (cs.filter (· < firstWide)).map Char.ofNat

def encode (cs : List Nat) : List Char :=
  let ascii := plain cs
  let start : Progress := ⟨[], 0, firstBias, ascii.length⟩
  ascii ++ (if ascii.isEmpty then [] else ['-']) ++
    (writeWide cs ascii.length (wideCodes cs) firstWide start).written

/-! ## Reading -/

def digit? (c : Char) : Option Nat :=
  if c.isLower then some (c.toNat - 0x61)
  else if c.isUpper then some (c.toNat - 0x41)
  else if c.isDigit then some (c.toNat - 0x30 + 26)
  else none

/-- A distance that digits from a place on add to, each counting `weight` times, and what follows
them. -/
def takeDistance? (bias : Nat) : List Char → Nat → Nat → Nat → Option (Nat × List Char)
  | [], _, _, _ => none
  | c :: cs, place, weight, sum =>
    match digit? c with
    | none => none
    | some d =>
      let t := threshold place bias
      if d < t then some (sum + d * weight, cs)
      else takeDistance? bias cs (place + 1) (weight * (36 - t)) (sum + d * weight)

theorem length_takeDistance? {bias place weight sum : Nat} {cs : List Char}
    {r : Nat × List Char} (h : takeDistance? bias cs place weight sum = some r) :
    r.2.length < cs.length := by
  induction cs generalizing place weight sum with
  | nil => simp [takeDistance?] at h
  | cons c cs ih =>
    rw [takeDistance?] at h
    split at h
    · simp at h
    · simp only at h
      split at h
      · cases h
        simp
      · have := ih h
        simp only [List.length_cons]
        omega

/-- Puts characters into a text by their distances; `code` and `place` say where the last one
went. -/
def readWide? (bias code place : Nat) (first : Bool)
    (text : List Nat) (cs : List Char) : Option (List Nat) :=
  match cs with
  | [] => some text
  | c :: rest =>
    match found : takeDistance? bias (c :: rest) 0 1 0 with
    | none => none
    | some (distance, after) =>
      have : after.length < (c :: rest).length := length_takeDistance? found
      let count := text.length + 1
      let total := place + distance
      let code := code + total / count
      if code ≤ CodePoint.last then
        readWide? (adapt distance count first) code (total % count + 1) false
          (text.insertIdx (total % count) code) after
      else none
termination_by cs.length
decreasing_by exact this

def decode? (cs : List Char) : Option (List Nat) :=
  let wide := (cs.reverse.takeWhile (· ≠ '-')).reverse
  readWide? firstBias firstWide 0 true ((cs.take (cs.length - wide.length - 1)).map Char.toNat) wide

end Punycode

end MeterFeed
