import MeterFeed.Json.Reader
import MeterFeed.Text.Blank

/-!
# Configured numbers

How a configured text denotes an integer or a double. Blanks around the number do not count, the
digits may be those of any script, a sign may stand in front, and a single underscore may stand
between two digits. A double may also leave out the digits on one side of its point, and may be one
of the words for infinity and for what is no number, in any case.
-/

namespace MeterFeed

inductive NumeralError where
  | noInteger (text : String)
  | noDouble (text : String)
  | tooManyDigits (count : Nat)
  deriving DecidableEq, Repr

def NumeralError.message : NumeralError → String
  | .noInteger text =>
    "invalid literal for int() with base 10: " ++
      String.ofList ((Quoted.quote text.toList).take 200)
  | .noDouble text => "could not convert string to float: " ++ Quoted.text text
  | .tooManyDigits count => (Json.Problem.tooManyDigits count).message

namespace Numeral

/-- A character with a digit of another script brought to its ASCII form. -/
def plain (c : Char) : Char :=
  match DecimalDigit.value? c with
  | some d => Char.ofNat (48 + d)
  | none => c

def body (s : String) : List Char :=
  (Blank.strip Blank.isNumberBlank s.toList).map plain

def takeSign : List Char → Bool × List Char
  | '-' :: cs => (true, cs)
  | '+' :: cs => (false, cs)
  | cs => (false, cs)

/-- Leaves out underscores that stand between two digits; `previous` is the character before. -/
def withoutUnderscores (previous : Char) : List Char → Option (List Char)
  | [] => if previous = '_' then none else some []
  | c :: cs =>
    if c = '_' then
      if DecimalDigit.isAscii previous then withoutUnderscores c cs else none
    else if previous = '_' && !DecimalDigit.isAscii c then none
    else (withoutUnderscores c cs).map (c :: ·)

/-- The integer that a text denotes. The digits are counted before what follows them is looked at,
so too long a number is reported as that. -/
def integer (s : String) : Except NumeralError Int :=
  let (negative, cs) := takeSign (body s)
  let isPart := fun c => DecimalDigit.isAscii c || c == '_'
  match withoutUnderscores ' ' (cs.takeWhile isPart) with
  | none => .error (.noInteger s)
  | some ds =>
    if Json.maxDigits < ds.length then .error (.tooManyDigits ds.length)
    else if ds.isEmpty || !(cs.dropWhile isPart).isEmpty then .error (.noInteger s)
    else
      let n : Int := Json.natOf ds
      .ok (if negative then -n else n)

def wordValue? (negative : Bool) (cs : List Char) : Option Binary64 :=
  let word := String.ofList (cs.map Char.toLower)
  if word = "inf" ∨ word = "infinity" then some (.inf negative)
  else if word = "nan" then some .nan
  else none

/-- The double of digits, a point, digits and an exponent, of which some may be missing. -/
def decimal? (negative : Bool) (cs : List Char) : Option Binary64 :=
  let whole := cs.takeWhile DecimalDigit.isAscii
  let rest := cs.dropWhile DecimalDigit.isAscii
  let (part, rest) := match rest with
    | '.' :: rest => (rest.takeWhile DecimalDigit.isAscii, rest.dropWhile DecimalDigit.isAscii)
    | _ => ([], rest)
  let (power, rest) := Json.exponent? rest
  if rest.isEmpty && !(whole.isEmpty && part.isEmpty) then
    some (Json.realOf negative (whole ++ part) (power.getD 0 - part.length))
  else none

def double (s : String) : Except NumeralError Binary64 :=
  match withoutUnderscores ' ' (body s) with
  | none => .error (.noDouble s)
  | some cs =>
    let (negative, cs) := takeSign cs
    match wordValue? negative cs with
    | some x => .ok x
    | none =>
      match decimal? negative cs with
      | some x => .ok x
      | none => .error (.noDouble s)

end Numeral

end MeterFeed
