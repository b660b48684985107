import MeterFeed.Fields
import MeterFeed.Template.Convert
import MeterFeed.Template.Directive

/-!
# Filling templates

The directives of a template take the arguments one after the other, each of them first its width
and its precision if those are arguments too. Arguments without names have to be used up. A single
argument with members gives names to them: a directive with a key takes the member of that name, and
a directive without one may take the argument as a whole, once.
-/

namespace MeterFeed

structure Arguments where
  named : Option (Fields Json)
  rest : List Json
  deriving DecidableEq

namespace Arguments

def ofList : List Json → Arguments
  | [.object (m :: ms)] => ⟨some (m :: ms), [.object (m :: ms)]⟩
  | args => ⟨none, args⟩

def next (a : Arguments) : Except TemplateError (Json × Arguments) :=
  match a.rest with
  | [] => .error .tooFew
  | x :: rest => .ok (x, { a with rest })

/-- Makes the argument that a key names the next one. -/
def select (key : Key) (a : Arguments) : Except TemplateError Arguments :=
  match key, a.named with
  | .unstated, _ => .ok a
  | _, none => .error .unnamed
  | .unclosed, some _ => .error .openKey
  | .named name, some members =>
    match Fields.value? name members with
    | some x => .ok { a with rest := [x] }
    | none => .error (.missingKey name)

def amount (word : Word) (tooWide : TemplateError) (amount : Amount) (a : Arguments) :
    Except TemplateError (Option Int × Arguments) :=
  match amount with
  | .unstated => .ok (none, a)
  | .stated n => if word.greatest < n then .error tooWide else .ok (some n, a)
  | .argument =>
    match a.next with
    | .error e => .error e
    | .ok (x, a) =>
      match Convert.integer? x with
      | none => .error .badAmount
      | some n => if word.holds n then .ok (some n, a) else .error (.wideAmount word)

def isDone (a : Arguments) : Bool :=
  a.named.isSome || a.rest.isEmpty

end Arguments

namespace Template

def greatestWidth : Nat := 2 ^ 32

/-- What flags, a width and a precision ask for. A negative width fills up behind; the least of all
widths has no opposite and asks for nothing to fill. -/
def format (flags : List Char) (width precision : Option Int) : Format where
  left := flags.contains '-' || decide (width.getD 0 < 0)
  plus := flags.contains '+'
  blank := flags.contains ' '
  alternate := flags.contains '#'
  zero := flags.contains '0'
  width := if width = some Word.size.least then 0 else (width.getD 0).natAbs
  precision := precision.map Int.toNat

def convert (d : Directive) (index : Nat) (a : Arguments) :
    Except TemplateError (List Char × Arguments) := do
  let a ← a.select d.key
  let (width, a) ← a.amount .size .wideWidth d.width
  let (precision, a) ← a.amount .int .widePrecision d.precision
  match d.letter with
  | none => .error .incomplete
  | some letter =>
    let (x, a) ← a.next
    let f := format d.flags width precision
    match Convert.shown? f letter x with
    | none => .error (.unknownLetter letter index)
    | some shown =>
      let shown ← shown
      if greatestWidth < f.width then .error .endlessText else .ok (shown.fill f, a)

def fillPieces : List Piece → Arguments → Except TemplateError (List Char)
  | [], a => if a.isDone then .ok [] else .error .tooMany
  | .plain c :: rest, a => (fillPieces rest a).map (c :: ·)
  | .directive d index :: rest, a =>
    match convert d index a with
    | .error e => .error e
    | .ok (shown, a) => (fillPieces rest a).map (shown ++ ·)

def fill (template : String) (args : List Json) : Except TemplateError String :=
  (fillPieces (pieces template) (.ofList args)).map String.ofList

end Template

end MeterFeed
