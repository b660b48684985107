import MeterFeed.Json.Reader
import MeterFeed.Text.Blank

/-!
# The limit of a request

A request may limit the number of measurements that it gets: an integer from 0 to 1000. A text that
is an integer as JSON writes it states that integer. Any other text may have white space around the
integer, a sign, zeros in front, a point with zeros and nothing else after it, and single
underscores between the digits; `Limit.clean?` takes all of that away, and what is left has to be an
integer as JSON writes it.

Too long an integer is told from other bad texts only in a text that is not cleaned, and there by
the characters that it begins with.
-/

namespace MeterFeed

inductive LimitError where
  | noInteger
  | tooManyDigits
  | tooSmall
  | tooLarge
  deriving DecidableEq, Repr

def LimitError.word : LimitError → String
  | .noInteger => "int_parsing"
  | .tooManyDigits => "int_parsing_size"
  | .tooSmall => "greater_than_equal"
  | .tooLarge => "less_than_equal"

namespace Limit

def standard : Int := 100

def greatest : Int := 1000

/-- Takes a plus sign away, unless a minus sign follows it. -/
def withoutPlus? : List Char → Option (List Char)
  | '+' :: '-' :: _ => none
  | '+' :: cs => some cs
  | cs => some cs

def takeMinus : List Char → Bool × List Char
  | '-' :: cs => (true, cs)
  | cs => (false, cs)

/-- True of the characters that the zeros in front may give way to. -/
def isOpening (c : Char) : Bool :=
  (DecimalDigit.isAscii c && c != '0') || c == '-'

/-- Takes away zeros in front, after a first one; of zeros alone the last character is left, and
before a point one character is. -/
def dropZeros (previous : Char) : List Char → Option (List Char)
  | [] => some [previous]
  | c :: cs =>
    if c = '0' ∨ c = '_' then dropZeros c cs
    else if c = '.' then some (previous :: c :: cs)
    else if isOpening c then some (c :: cs)
    else none

/-- Takes away zeros in front of a text that begins with a digit or a minus sign. -/
def withoutZeros? : List Char → Option (List Char)
  | [] => none
  | c :: cs =>
    if c = '0' then dropZeros c cs
    else if isOpening c then some (c :: cs)
    else none

/-- Takes a point away that zeros follow, at least one and nothing else. -/
def withoutFraction (cs : List Char) : List Char :=
  let part := (cs.dropWhile (· ≠ '.')).drop 1
  if !part.isEmpty && part.all (· == '0') then cs.takeWhile (· ≠ '.') else cs

def hasDouble : List Char → Bool
  | '_' :: '_' :: _ => true
  | _ :: cs => hasDouble cs
  | [] => false

def withoutUnderscores (cs : List Char) : List Char :=
  if cs.head? = some '_' ∨ cs.getLast? = some '_' ∨ hasDouble cs then cs
  else cs.filter (· ≠ '_')

def clean? (cs : List Char) : Option (List Char) := do
  let cs ← withoutPlus? (Blank.strip Blank.isNumberBlank cs)
  let (negative, cs) := takeMinus cs
  let cs ← withoutZeros? cs
  let cs := withoutUnderscores (withoutFraction cs)
  return if negative then '-' :: cs else cs

/-- The integer that a text writes as JSON does. Too many digits are reported whatever follows
them. -/
def integer? (cs : List Char) : Except LimitError Int :=
  let (negative, body) := takeMinus cs
  let ds := body.takeWhile DecimalDigit.isAscii
  if body = ['0'] then .ok 0
  else if ds.isEmpty || body.head? == some '0' then .error .noInteger
  else if Json.maxDigits < ds.length then .error .tooManyDigits
  else if ds.length < body.length then .error .noInteger
  else
    let n : Int := Json.natOf ds
    .ok (if negative then -n else n)

/-- The integer that a text writes, as it stands or else cleaned. -/
def parse (cs : List Char) : Except LimitError Int :=
  match integer? cs with
  | .ok n => .ok n
  | .error .tooManyDigits => .error .tooManyDigits
  | .error _ =>
    match (clean? cs).map integer? with
    | some (.ok n) => .ok n
    | _ => .error .noInteger

def read (s : String) : Except LimitError Int :=
  match parse s.toList with
  | .error e => .error e
  | .ok n =>
    if n < 0 then .error .tooSmall
    else if greatest < n then .error .tooLarge
    else .ok n

end Limit

end MeterFeed
