import MeterFeed.Text.DecimalDigit

/-!
# Templates

A template is a text with directives in it. A directive begins with a percent sign and goes on, in
this order, with a key in parentheses, flags, a width, a point and a precision, a size letter that
counts for nothing, and the letter of its conversion; only the last of these has to be there. Two
percent signs stand for one.

`Template.pieces` takes a template apart. What is wrong in a directive is kept in it, for the time
when the directive is carried out.
-/

namespace MeterFeed

inductive Amount where
  | unstated
  | argument
  | stated (n : Nat)
  deriving DecidableEq, Repr

inductive Key where
  | unstated
  | named (name : String)
  | unclosed
  deriving DecidableEq, Repr

/-- A directive; it has no letter if the template ends within it. -/
structure Directive where
  key : Key
  flags : List Char
  width : Amount
  precision : Amount
  letter : Option Char
  deriving DecidableEq, Repr

namespace Directive

def isFlag (c : Char) : Bool :=
  ['-', '+', ' ', '#', '0'].contains c

def isSize (c : Char) : Bool :=
  ['h', 'l', 'L'].contains c

/-- The characters of a key up to its closing parenthesis, with so many more open, and what follows
that. -/
def closeKey? (depth : Nat) : List Char → Option (List Char × List Char)
  | [] => none
  | c :: cs =>
    if c = ')' then
      if depth = 0 then some ([], cs)
      else (closeKey? (depth - 1) cs).map fun (key, rest) => (c :: key, rest)
    else
      (closeKey? (if c = '(' then depth + 1 else depth) cs).map fun (key, rest) => (c :: key, rest)

def takeKey : List Char → Key × List Char
  | '(' :: cs =>
    match closeKey? 0 cs with
    | some (key, rest) => (.named (String.ofList key), rest)
    | none => (.unclosed, [])
  | cs => (.unstated, cs)

def natural (ds : List Char) : Nat :=
  ds.foldl (fun n c => n * 10 + (c.toNat - 48)) 0

def takeAmount : List Char → Amount × List Char
  | '*' :: cs => (.argument, cs)
  | cs =>
    let ds := cs.takeWhile DecimalDigit.isAscii
    (if ds.isEmpty then .unstated else .stated (natural ds), cs.dropWhile DecimalDigit.isAscii)

def takePrecision : List Char → Amount × List Char
  | '.' :: cs =>
    let (amount, rest) := takeAmount cs
    (if amount = .unstated then .stated 0 else amount, rest)
  | cs => (.unstated, cs)

def skipSize : List Char → List Char
  | c :: cs => if isSize c then cs else c :: cs
  | [] => []

def scan (cs : List Char) : Directive × List Char :=
  let (key, rest) := takeKey cs
  let flags := rest.takeWhile isFlag
  let (width, rest) := takeAmount (rest.dropWhile isFlag)
  let (precision, rest) := takePrecision rest
  let rest := skipSize rest
  (⟨key, flags, width, precision, rest.head?⟩, rest.drop 1)

end Directive

inductive Piece where
  | plain (c : Char)
  /-- A directive, and the index of its letter in the template. -/
  | directive (d : Directive) (index : Nat)
  deriving DecidableEq, Repr

namespace Template

/-- The parts of a template from an index on, after leaving some characters out. -/
def piecesFrom (index skipped : Nat) : List Char → List Piece
  | [] => []
  | c :: cs =>
    match skipped with
    | n + 1 => piecesFrom (index + 1) n cs
    | 0 =>
      if c ≠ '%' then .plain c :: piecesFrom (index + 1) 0 cs
      else if cs.head? = some '%' then .plain '%' :: piecesFrom (index + 1) 1 cs
      else
        let (d, rest) := Directive.scan cs
        let length := cs.length - rest.length
        .directive d (index + length) :: piecesFrom (index + 1) length cs

def pieces (template : String) : List Piece :=
  piecesFrom 0 0 template.toList

end Template

end MeterFeed
