import MeterFeed.Halt
import MeterFeed.Json.Printer
import MeterFeed.Record.Error

/-!
# Readings and labels

A reading is a double or an integer from zero to `Number.unsignedMax`; a larger integer becomes the
double next to it, a negative one is no reading. A label is a boolean, a reading or a text. An
array becomes one text: its elements in order, texts as they are and other values as they are
printed, with a comma and a space between them; so an array without texts and doubles can be read
back from its label. Objects, null and negative integers are no labels.
-/

namespace MeterFeed

inductive Label where
  | flag (b : Bool)
  | number (n : Number)
  | text (s : String)
  deriving DecidableEq, Repr

def Label.toJson : Label → Json
  | .flag b => .bool b
  | .number n => .number n
  | .text s => .text s

/-- The double next to an integer, if there is one. -/
def Number.toReal? : Number → Except Fault Binary64
  | .real x => .ok x
  | .int n =>
    match Binary64.ofInt? n with
    | some x => .ok x
    | none => .error .integerTooLarge

/-- The reading that a number stands for: none if it is a negative integer. -/
def Number.reading? (n : Number) : Except Fault (Option Number) :=
  match n with
  | .real x => .ok (some (.real x))
  | .int k =>
    if k < 0 then .ok none
    else if (Number.unsignedMax : Int) < k then
      match n.toReal? with
      | .ok x => .ok (some (.real x))
      | .error f => .error f
    else .ok (some (.int k))

def Json.reading? : Json → Except Fault (Option Number)
  | .number n => n.reading?
  | _ => .ok none

def Json.elementText : Json → List Char
  | .text s => s.toList
  | x => x.print

/-- The texts of elements, with a comma and a space between them. -/
def Json.fold : List Json → List Char
  | [] => []
  | [x] => x.elementText
  | x :: rest => x.elementText ++ [',', ' '] ++ Json.fold rest

def Label.decode : Json → Except (Halt Shape) Label
  | .bool b => .ok (.flag b)
  | .number n =>
    match n.reading? with
    | .ok (some reading) => .ok (.number reading)
    | .ok none => .error (.error .negativeInteger)
    | .error f => .error (.fault f)
  | .text s => .ok (.text s)
  | .array elements => .ok (.text (String.ofList (Json.fold elements)))
  | .object _ => .error (.error .object)
  | .null => .error (.error .null)

end MeterFeed
