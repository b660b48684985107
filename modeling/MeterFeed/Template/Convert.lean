import MeterFeed.Json.Display
import MeterFeed.Number.Rounded
import MeterFeed.Template.Error

/-!
# Conversions

The letter of a directive says how its argument is shown: `s`, `r` and `a` as a text, `d`, `i`, `u`,
`o`, `x` and `X` as an integer, `e`, `f` and `g` in either case as a double, and `c` as a character.
The flags choose a sign, the mark of a base, and what a text is filled up with that is shorter than
its width: zeros go between a number's sign and its digits, spaces in front or behind.
-/

namespace MeterFeed

structure Format where
  /-- Fill up behind. -/
  left : Bool
  plus : Bool
  /-- Leave a space for a plus sign. -/
  blank : Bool
  /-- Show the mark of a base, and a point that nothing follows. -/
  alternate : Bool
  zero : Bool
  width : Nat
  precision : Option Nat
  deriving DecidableEq, Repr

/-- An argument as it is shown, in parts. -/
structure Shown where
  numeric : Bool
  sign : List Char
  mark : List Char
  body : List Char
  deriving DecidableEq, Repr

namespace Shown

def ofText (cs : List Char) : Shown :=
  ⟨false, [], [], cs⟩

def whole (s : Shown) : List Char :=
  s.sign ++ s.mark ++ s.body

/-- The parts, filled up to a width. -/
def fill (f : Format) (s : Shown) : List Char :=
  let gap := f.width - s.whole.length
  if f.left then s.whole ++ List.replicate gap ' '
  else if s.numeric && f.zero then s.sign ++ s.mark ++ List.replicate gap '0' ++ s.body
  else List.replicate gap ' ' ++ s.whole

end Shown

namespace Format

def sign (f : Format) (negative : Bool) : List Char :=
  if negative then ['-'] else if f.plus then ['+'] else if f.blank then [' '] else []

def text (f : Format) (cs : List Char) : Shown :=
  .ofText (match f.precision with
    | some n => cs.take n
    | none => cs)

def greatestPrecision : Nat := Word.int.greatest - 3

/-- An integer in digits of a base, with zeros in front up to the precision. -/
def integer (f : Format) (base : Nat) (mark : List Char) (n : Int) : Except TemplateError Shown :=
  let least := f.precision.getD 0
  if greatestPrecision < least then .error .endlessInteger
  else
    let ds := Layout.padded least (Nat.toDigits base n.natAbs)
    .ok ⟨true, f.sign (n < 0), if f.alternate then mark else [], ds⟩

/-- Digits before and after a point; the point is left out if nothing follows it. -/
def pointed (f : Format) (before after : List Char) : List Char :=
  if after.isEmpty && !f.alternate then before else before ++ '.' :: after

def exponent (power : Int) : List Char :=
  ['e', if power < 0 then '-' else '+'] ++ Layout.padded 2 (Layout.digits power.natAbs)

def trimmed (f : Format) (after : List Char) : List Char :=
  if f.alternate then after else Rounded.withoutZeros after

/-- So many digits, positionally unless the exponent is below -4 or the digits end before the
point. -/
def general (f : Format) (v : Shortest.Quotient) (count : Nat) : List Char :=
  let (ds, first) := Rounded.significant v (count - 1)
  if first < -4 ∨ count ≤ first then
    f.pointed (ds.take 1) (f.trimmed (ds.drop 1)) ++ exponent first
  else if first < 0 then
    f.pointed ['0'] (f.trimmed (List.replicate (-first - 1).toNat '0' ++ ds))
  else
    f.pointed (ds.take (first.toNat + 1)) (f.trimmed (ds.drop (first.toNat + 1)))

/-- The digits of a magnitude, in the form that a letter in lower case asks for. -/
def magnitude (f : Format) (letter : Char) (v : Shortest.Quotient) : List Char :=
  let precision := f.precision.getD 6
  if letter = 'f' then
    let (before, after) := Rounded.fixed v precision
    f.pointed before after
  else if letter = 'e' then
    let (ds, first) := Rounded.significant v precision
    f.pointed (ds.take 1) (ds.drop 1) ++ exponent first
  else f.general v (max precision 1)

def real (f : Format) (letter : Char) : Binary64 → Shown
  | .nan => ⟨true, f.sign false, [], ['n', 'a', 'n']⟩
  | .inf negative => ⟨true, f.sign negative, [], ['i', 'n', 'f']⟩
  | .finite negative m e =>
    ⟨true, f.sign negative, [], f.magnitude letter (Shortest.scaleTwo m e)⟩

end Format

namespace Convert

def text : Json → String
  | .text s => s
  | x => x.display

def asciiCharacter (c : Char) : List Char :=
  if c.toNat < 0x80 then [c]
  else if c.toNat < 0x100 then Quoted.backslash :: 'x' :: Quoted.hex 2 c.toNat
  else if c.toNat < 0x10000 then Quoted.backslash :: 'u' :: Quoted.hex 4 c.toNat
  else Quoted.backslash :: 'U' :: Quoted.hex 8 c.toNat

/-- An argument that is an integer, or one of the truth values, which are zero and one. -/
def integer? : Json → Option Int
  | .bool b => some (if b then 1 else 0)
  | .number (.int n) => some n
  | _ => none

/-- An argument as an integer; places after the point are cut. -/
def cut (letter : Char) (x : Json) : Except TemplateError Int :=
  match x with
  | .number (.real .nan) => .error .notNumber
  | .number (.real (.inf _)) => .error .infinite
  | .number (.real (.finite negative m e)) =>
    let n : Int := m * 2 ^ e.toNat / 2 ^ (-e).toNat
    .ok (if negative then -n else n)
  | _ =>
    match integer? x with
    | some n => .ok n
    | none => .error (.noNumber letter x.kind)

/-- An argument as the integer that it is. -/
def exact (letter : Char) (x : Json) : Except TemplateError Int :=
  match integer? x with
  | some n => .ok n
  | none => .error (.noInteger letter x.kind)

def real (x : Json) : Except TemplateError Binary64 :=
  match x with
  | .number (.real r) => .ok r
  | _ =>
    match integer? x with
    | none => .error (.noReal x.kind)
    | some n =>
      match Binary64.ofInt? n with
      | some r => .ok r
      | none => .error .beyondDoubles

/-- An argument as a character, which an integer may stand for. -/
def character (x : Json) : Except TemplateError Char :=
  match x with
  | .text s =>
    match s.toList with
    | [c] => .ok c
    | _ => .error .noCharacter
  | _ =>
    match integer? x with
    | none => .error .noCharacter
    | some n => if 0 ≤ n ∧ n < 0x110000 then .ok (Char.ofNat n.toNat) else .error .beyondCharacters

def capitals (s : Shown) : Shown :=
  { s with mark := s.mark.map Char.toUpper, body := s.body.map Char.toUpper }

def shown? (f : Format) (letter : Char) (x : Json) : Option (Except TemplateError Shown) :=
  match letter with
  | 's' => some (.ok (f.text (text x).toList))
  | 'r' => some (.ok (f.text x.display.toList))
  | 'a' => some (.ok (f.text (x.display.toList.flatMap asciiCharacter)))
  | 'd' | 'i' | 'u' => some ((cut letter x).bind (f.integer 10 []))
  | 'o' => some ((exact letter x).bind (f.integer 8 ['0', 'o']))
  | 'x' => some ((exact letter x).bind (f.integer 16 ['0', 'x']))
  | 'X' => some (((exact letter x).bind (f.integer 16 ['0', 'x'])).map capitals)
  | 'e' | 'f' | 'g' => some ((real x).map (f.real letter))
  | 'E' | 'F' | 'G' => some ((real x).map fun r => capitals (f.real letter.toLower r))
  | 'c' => some ((character x).map fun c => .ofText [c])
  | _ => none

end Convert

end MeterFeed
