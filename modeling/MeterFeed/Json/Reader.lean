import MeterFeed.Json.Value
import MeterFeed.Text.DecimalDigit
import MeterFeed.Text.Quoted

/-!
# Reading JSON

`Json.read` reads a whole text. Beyond the grammar of JSON it accepts the words `NaN`, `Infinity`
and `-Infinity`; a number with a fraction or an exponent is a double, any other is an exact integer
of at most `maxDigits` digits; of the members of one name the last value counts, at the first
place. A failure names the first thing that is wrong and where.

The scanners work on the characters that remain and return those that they leave. A failure is
located by the number of characters that remained; `read` turns that into line, column and
position, counted in characters. `scanValue`, `scanElements` and `scanMembers` recurse on an
allowance, of which two units a character suffice.
-/

namespace MeterFeed

namespace Json

inductive Problem where
  | byteOrderMark
  | expectingValue
  | expectingName
  | expectingColon
  | expectingComma
  | extraData
  | unterminatedText
  | controlCharacter
  | badEscape
  | badUnitEscape
  | tooManyDigits (count : Nat)
  deriving DecidableEq, Repr

structure Failure where
  problem : Problem
  remaining : Nat
  deriving DecidableEq, Repr

def maxDigits : Nat := 4300

def isSpace (c : Char) : Bool :=
  c == ' ' || c == '\t' || c == '\n' || c == '\r'

def skip (cs : List Char) : List Char :=
  cs.dropWhile isSpace

def after? (word cs : List Char) : Option (List Char) :=
  if word.isPrefixOf cs then some (cs.drop word.length) else none

/-! ## Texts -/

def hexValue? (c : Char) : Option Nat :=
  let n := c.toNat
  if 48 ≤ n ∧ n ≤ 57 then some (n - 48)
  else if 97 ≤ n ∧ n ≤ 102 then some (n - 87)
  else if 65 ≤ n ∧ n ≤ 70 then some (n - 55)
  else none

def unit? (a b c d : Char) : Option Nat :=
  match hexValue? a, hexValue? b, hexValue? c, hexValue? d with
  | some a, some b, some c, some d => some (((a * 16 + b) * 16 + c) * 16 + d)
  | _, _, _, _ => none

def escaped? (c : Char) : Option Nat :=
  if c = Quoted.mark ∨ c = Quoted.backslash ∨ c = '/' then some c.toNat
  else if c = 'b' then some 8
  else if c = 'f' then some 12
  else if c = 'n' then some 10
  else if c = 'r' then some 13
  else if c = 't' then some 9
  else none

/-- The codes of a text up to its closing mark: code points of the characters that stand for
themselves, UTF-16 units of escapes. `opening` is the text from its opening mark on. -/
def scanText (opening : List Char) : List Char → Except Failure (List Nat × List Char)
  | [] => .error ⟨.unterminatedText, opening.length⟩
  | c :: rest =>
    if c = Quoted.mark then .ok ([], rest)
    else if c = Quoted.backslash then
      match rest with
      | [] => .error ⟨.unterminatedText, opening.length⟩
      | e :: tail =>
        if e = 'u' then
          match tail with
          | h₁ :: h₂ :: h₃ :: h₄ :: tail =>
            if tail.isEmpty then .error ⟨.badUnitEscape, rest.length⟩
            else match unit? h₁ h₂ h₃ h₄ with
              | none => .error ⟨.badUnitEscape, rest.length⟩
              | some u =>
                match scanText opening tail with
                | .ok (codes, left) => .ok (u :: codes, left)
                | .error f => .error f
          | _ => .error ⟨.badUnitEscape, rest.length⟩
        else match escaped? e with
          | none => .error ⟨.badEscape, rest.length + 1⟩
          | some n =>
            match scanText opening tail with
            | .ok (codes, left) => .ok (n :: codes, left)
            | .error f => .error f
    else if c.toNat ≤ 31 then .error ⟨.controlCharacter, rest.length + 1⟩
    else
      match scanText opening rest with
      | .ok (codes, left) => .ok (c.toNat :: codes, left)
      | .error f => .error f

def isHigh (n : Nat) : Bool :=
  0xD800 ≤ n && n ≤ 0xDBFF

def isLow (n : Nat) : Bool :=
  0xDC00 ≤ n && n ≤ 0xDFFF

/-- The character of a code; a half of a pair has none and becomes a replacement character. -/
def codeChar (n : Nat) : Char :=
  if isHigh n || isLow n then Char.ofNat 0xFFFD else Char.ofNat n

/-- The characters of codes, where a high and a low unit next to each other make one. -/
def joinUnits : List Nat → List Char
  | [] => []
  | [n] => [codeChar n]
  | n :: m :: rest =>
    if isHigh n && isLow m then
      Char.ofNat (0x10000 + (n - 0xD800) * 0x400 + (m - 0xDC00)) :: joinUnits rest
    else codeChar n :: joinUnits (m :: rest)

/-! ## Numbers -/

def natOf (ds : List Char) : Nat :=
  ds.foldl (fun n c => n * 10 + (c.toNat - 48)) 0

/-- The digits of an integer part: a single zero, or digits that begin with another one. -/
def wholeDigits? (cs : List Char) : Option (List Char × List Char) :=
  match cs with
  | '0' :: rest => some (['0'], rest)
  | c :: _ =>
    if DecimalDigit.isAscii c then
      some (cs.takeWhile DecimalDigit.isAscii, cs.dropWhile DecimalDigit.isAscii)
    else none
  | [] => none

/-- The digits after a point; a point without digits is no fraction. -/
def fractionDigits (cs : List Char) : List Char × List Char :=
  match cs with
  | '.' :: rest =>
    let ds := rest.takeWhile DecimalDigit.isAscii
    if ds.isEmpty then ([], cs) else (ds, rest.dropWhile DecimalDigit.isAscii)
  | _ => ([], cs)

def exponentSign (cs : List Char) : Bool × List Char :=
  match cs with
  | '-' :: rest => (true, rest)
  | '+' :: rest => (false, rest)
  | _ => (false, cs)

/-- An exponent; a letter without digits is none. -/
def exponent? (cs : List Char) : Option Int × List Char :=
  match cs with
  | c :: rest =>
    if c = 'e' ∨ c = 'E' then
      let (negative, tail) := exponentSign rest
      let ds := tail.takeWhile DecimalDigit.isAscii
      if ds.isEmpty then (none, cs)
      else
        let n : Int := natOf ds
        (some (if negative then -n else n), tail.dropWhile DecimalDigit.isAscii)
    else (none, cs)
  | [] => (none, [])

def realOf (negative : Bool) (ds : List Char) (power : Int) : Binary64 :=
  Binary64.ofDecimal negative (natOf ds) (ds.dropWhile (· == '0')).length power

def scanNumber (cs : List Char) : Except Failure (Number × List Char) :=
  let (negative, body) := match cs with
    | '-' :: rest => (true, rest)
    | _ => (false, cs)
  match wholeDigits? body with
  | none => .error ⟨.expectingValue, cs.length⟩
  | some (whole, rest) =>
    let (part, rest) := fractionDigits rest
    let (power, rest) := exponent? rest
    if part.isEmpty && power.isNone then
      if maxDigits < whole.length then .error ⟨.tooManyDigits whole.length, cs.length⟩
      else
        let n : Int := natOf whole
        .ok (.int (if negative then -n else n), rest)
    else .ok (.real (realOf negative (whole ++ part) (power.getD 0 - part.length)), rest)

/-! ## Values -/

def words : List (List Char × Json) := [
  ("null".toList, .null), ("true".toList, .bool true), ("false".toList, .bool false),
  ("NaN".toList, real .nan), ("Infinity".toList, real (.inf false)),
  ("-Infinity".toList, real (.inf true))]

def scanScalar (cs : List Char) : Except Failure (Json × List Char) :=
  match words.findSome? fun word => (after? word.1 cs).map fun rest => (word.2, rest) with
  | some found => .ok found
  | none =>
    match scanNumber cs with
    | .ok (n, rest) => .ok (.number n, rest)
    | .error f => .error f

mutual

def scanValue : Nat → List Char → Except Failure (Json × List Char)
  | 0, cs => .error ⟨.expectingValue, cs.length⟩
  | _ + 1, [] => .error ⟨.expectingValue, 0⟩
  | allowance + 1, c :: rest =>
    if c = Quoted.mark then
      match scanText (c :: rest) rest with
      | .ok (codes, rest) => .ok (.text (String.ofList (joinUnits codes)), rest)
      | .error f => .error f
    else if c = '[' then
      match skip rest with
      | ']' :: rest => .ok (.array [], rest)
      | rest =>
        match scanElements allowance rest with
        | .ok (elements, rest) => .ok (.array elements, rest)
        | .error f => .error f
    else if c = '\x7b' then
      match skip rest with
      | '\x7d' :: rest => .ok (.object [], rest)
      | rest =>
        match scanMembers allowance rest with
        | .ok (members, rest) => .ok (.object (Fields.ofPairs members), rest)
        | .error f => .error f
    else scanScalar (c :: rest)

def scanElements : Nat → List Char → Except Failure (List Json × List Char)
  | 0, cs => .error ⟨.expectingValue, cs.length⟩
  | allowance + 1, cs =>
    match scanValue allowance cs with
    | .error f => .error f
    | .ok (x, rest) =>
      match skip rest with
      | ']' :: rest => .ok ([x], rest)
      | ',' :: rest =>
        match scanElements allowance (skip rest) with
        | .ok (xs, rest) => .ok (x :: xs, rest)
        | .error f => .error f
      | rest => .error ⟨.expectingComma, rest.length⟩

def scanMembers : Nat → List Char → Except Failure (List (String × Json) × List Char)
  | 0, cs => .error ⟨.expectingName, cs.length⟩
  | allowance + 1, cs =>
    match cs with
    | [] => .error ⟨.expectingName, 0⟩
    | c :: rest =>
      if c ≠ Quoted.mark then .error ⟨.expectingName, rest.length + 1⟩
      else
        match scanText (c :: rest) rest with
        | .error f => .error f
        | .ok (codes, rest) =>
          match skip rest with
          | ':' :: rest =>
            match scanValue allowance (skip rest) with
            | .error f => .error f
            | .ok (x, rest) =>
              let member := (String.ofList (joinUnits codes), x)
              match skip rest with
              | '\x7d' :: rest => .ok ([member], rest)
              | ',' :: rest =>
                match scanMembers allowance (skip rest) with
                | .ok (members, rest) => .ok (member :: members, rest)
                | .error f => .error f
              | rest => .error ⟨.expectingComma, rest.length⟩
          | rest => .error ⟨.expectingColon, rest.length⟩

end

/-! ## Whole texts -/

def scan (cs : List Char) : Except Failure Json :=
  match cs with
  | c :: _ =>
    if c.toNat = 0xFEFF then .error ⟨.byteOrderMark, cs.length⟩
    else go cs
  | [] => go cs
where
  /-- A value, with white space around it, and nothing else. -/
  go (cs : List Char) : Except Failure Json :=
    match scanValue (2 * cs.length + 2) (skip cs) with
    | .error f => .error f
    | .ok (x, rest) =>
      match skip rest with
      | [] => .ok x
      | rest => .error ⟨.extraData, rest.length⟩

structure ReadError where
  problem : Problem
  line : Nat
  column : Nat
  position : Nat
  deriving DecidableEq, Repr

def Failure.locate (cs : List Char) (f : Failure) : ReadError :=
  let position := cs.length - f.remaining
  let before := cs.take position
  ⟨f.problem, before.count '\n' + 1, (before.reverse.takeWhile (· ≠ '\n')).length + 1, position⟩

def Problem.message : Problem → String
  | .byteOrderMark => "Unexpected UTF-8 BOM (decode using utf-8-sig)"
  | .expectingValue => "Expecting value"
  | .expectingName => "Expecting property name enclosed in double quotes"
  | .expectingColon => "Expecting ':' delimiter"
  | .expectingComma => "Expecting ',' delimiter"
  | .extraData => "Extra data"
  | .unterminatedText => "Unterminated string starting at"
  | .controlCharacter => "Invalid control character at"
  | .badEscape => "Invalid \\escape"
  | .badUnitEscape => "Invalid \\uXXXX escape"
  | .tooManyDigits count =>
    "Exceeds the limit (" ++ toString maxDigits ++ " digits) for integer string conversion: " ++
      "value has " ++ toString count ++
      " digits; use sys.set_int_max_str_digits() to increase the limit"

/-- The message of an error; too long an integer is reported without its place. -/
def ReadError.message (e : ReadError) : String :=
  match e.problem with
  | .tooManyDigits count => (Problem.tooManyDigits count).message
  | problem =>
    problem.message ++ ": line " ++ toString e.line ++ " column " ++ toString e.column ++
      " (char " ++ toString e.position ++ ")"

def readChars (cs : List Char) : Except ReadError Json :=
  match scan cs with
  | .ok x => .ok x
  | .error f => .error (f.locate cs)

def read (s : String) : Except ReadError Json :=
  readChars s.toList

end Json

end MeterFeed
