import MeterFeed.Hostname.Composition
import MeterFeed.Hostname.Context
import MeterFeed.Hostname.Direction
import MeterFeed.Hostname.Punycode
import MeterFeed.Hostname.Repertoire
import MeterFeed.Text.Quoted

/-!
# Labels

A host name is made of labels. A label is composed, begins with no mark, has hyphens neither at its
ends nor in its third and fourth place, has only the characters of host names, each in its context,
and goes in directions that can be read. A label beyond ASCII is sent as `xn--` and its punycode,
in at most 63 characters.
-/

namespace MeterFeed

/-- Why a text is no label; positions count from one. -/
inductive LabelError where
  | empty
  | tooLong
  | notComposed
  | innerHyphens
  | outerHyphen
  | leadingMark
  | joiner (c : Nat) (position : Nat) (label : List Nat)
  /-- A joiner stands behind a character without a known name. -/
  | strayJoiner (c : Nat) (position : Nat) (label : List Nat)
  | context (c : Nat) (position : Nat) (label : List Nat)
  | disallowed (c : Nat) (position : Nat) (label : List Nat)
  | direction (fault : DirectionFault) (label : List Nat)
  | noCode
  | codeEndsWithHyphen
  | badCode
  /-- The code of a text is not the one that it is written in. -/
  | otherCode
  deriving DecidableEq, Repr

namespace LabelError

def codePoint (c : Nat) : String :=
  String.ofList ('U' :: '+' :: (Quoted.hex 4 c).map Char.toUpper)

def message : LabelError → String
  | .empty => "Empty Label"
  | .tooLong => "Label too long"
  | .notComposed => "Label must be in Normalization Form C"
  | .innerHyphens => "Label has disallowed hyphens in 3rd and 4th position"
  | .outerHyphen => "Label must not start or end with a hyphen"
  | .leadingMark => "Label begins with an illegal combining character"
  | .joiner c position label =>
    "Joiner " ++ codePoint c ++ " not allowed at position " ++ toString position ++ " in " ++
      Quoted.codePoints label
  | .strayJoiner c position label =>
    "Unknown codepoint adjacent to joiner " ++ codePoint c ++ " at position " ++
      toString position ++ " in " ++ Quoted.codePoints label
  | .context c position label =>
    "Codepoint " ++ codePoint c ++ " not allowed at position " ++ toString position ++ " in " ++
      Quoted.codePoints label
  | .disallowed c position label =>
    "Codepoint " ++ codePoint c ++ " at position " ++ toString position ++ " of " ++
      Quoted.codePoints label ++ " not allowed"
  | .direction (.unknown position) label =>
    "Unknown directionality in label " ++ Quoted.codePoints label ++ " at position " ++
      toString position
  | .direction .first label =>
    "First codepoint in label " ++ Quoted.codePoints label ++
      " must be directionality L, R or AL"
  | .direction (.againstLeft position) _ =>
    "Invalid direction for codepoint at position " ++ toString position ++
      " in a right-to-left label"
  | .direction (.againstRight position) _ =>
    "Invalid direction for codepoint at position " ++ toString position ++
      " in a left-to-right label"
  | .direction .mixedNumbers _ => "Can not mix numeral types in a right-to-left label"
  | .direction .last _ => "Label ends with illegal codepoint directionality"
  | .noCode => "Malformed A-label, no Punycode eligible content found"
  | .codeEndsWithHyphen => "A-label must not end with a hyphen"
  | .badCode => "Invalid A-label"
  | .otherCode => "A-label is not the canonical Punycode encoding of its U-label"

end LabelError

namespace Label

def sign : List Char := ['x', 'n', '-', '-']

def maxLength : Nat := 63

def maxName : Nat := 254

/-- The first character of a label that may not stand where it does; those before it come in
reverse. -/
def badCharacter? (label before : List Nat) : List Nat → Option LabelError
  | [] => none
  | c :: after =>
    if !Repertoire.holds c then some (.disallowed c (before.length + 1) label)
    else if Context.allows label before after c then badCharacter? label (c :: before) after
    else if !Context.isJoiner c then some (.context c (before.length + 1) label)
    else if before.head?.any Repertoire.isNameless then
      some (.strayJoiner c (before.length + 1) label)
    else some (.joiner c (before.length + 1) label)

def hyphen : Nat := 0x2D

def fault? (label : List Nat) : Option LabelError :=
  if label.isEmpty then some .empty
  else if maxName < label.length then some .tooLong
  else if !Composition.isComposed label then some .notComposed
  else if (label.drop 2).take 2 = [hyphen, hyphen] then some .innerHyphens
  else if label.head? = some hyphen ∨ label.getLast? = some hyphen then some .outerHyphen
  else if label.head?.any Mark.isMark then some .leadingMark
  else
    badCharacter? label [] label <|> (Direction.fault? label).map fun f => .direction f label

/-- A label that has been found right. -/
def checked (label : List Nat) : Except LabelError (List Nat) :=
  match fault? label with
  | some e => .error e
  | none => .ok label

def received (label : List Char) : Except LabelError (List Nat) :=
  if !sign.isPrefixOf label then checked (label.map Char.toNat)
  else
    let code := label.drop sign.length
    if code.isEmpty then .error .noCode
    else if code.getLast? = some '-' then .error .codeEndsWithHyphen
    else
      match Punycode.decode? code with
      | none => .error .badCode
      | some label => if Punycode.encode label = code then checked label else .error .otherCode

def isAscii (c : Char) : Bool :=
  c.toNat < 0x80

def unbounded (label : List Char) : Except LabelError (List Char) :=
  if label.all isAscii then (received label).map fun _ => label
  else (checked (label.map Char.toNat)).map fun codes => sign ++ Punycode.encode codes

def sent (label : List Char) : Except LabelError (List Char) :=
  match unbounded label with
  | .error e => .error e
  | .ok a => if maxLength < a.length then .error .tooLong else .ok a

end Label

end MeterFeed
