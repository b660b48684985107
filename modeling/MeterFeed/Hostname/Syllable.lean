import MeterFeed.Text.CodePoint

/-!
# Syllables of Korean

A syllable is made of one of 19 first sounds, one of 21 vowels, and one of 27 last sounds or none.
Its sounds are characters as well as the whole of it, and the code point of a syllable follows from
those of its sounds.
-/

namespace MeterFeed

namespace Syllable

def initials : Nat := 19

def vowels : Nat := 21

/-- The number of ways to end, one of which is to have no last sound. -/
def endings : Nat := 28

def firstInitial : Nat := 0x1100

def firstVowel : Nat := 0x1161

def noEnding : Nat := 0x11A7

def first : Nat := 0xAC00

def count : Nat := initials * vowels * endings

def isSyllable (code : Nat) : Bool :=
  first ≤ code && code < first + count

/-- True of the code point of a syllable without a last sound. -/
def isOpen (code : Nat) : Bool :=
  isSyllable code && (code - first) % endings == 0

def sounds? (code : Nat) : Option (List Nat) :=
  if !isSyllable code then none
  else
    let i := code - first
    let start := [firstInitial + i / endings / vowels, firstVowel + i / endings % vowels]
    some (if isOpen code then start else start ++ [noEnding + i % endings])

/-- The syllable of a first sound and a vowel, or of a syllable without a last sound and one. -/
def joined? (base next : Nat) : Option Nat :=
  if firstInitial ≤ base ∧ base < firstInitial + initials ∧
      firstVowel ≤ next ∧ next < firstVowel + vowels then
    some (first + ((base - firstInitial) * vowels + (next - firstVowel)) * endings)
  else if isOpen base ∧ noEnding < next ∧ next < noEnding + endings then
    some (base + (next - noEnding))
  else none

end Syllable

end MeterFeed
