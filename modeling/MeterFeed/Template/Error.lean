import MeterFeed.Json.Value
import MeterFeed.Number.Word
import MeterFeed.Text.Quoted

/-!
# Why arguments do not fit a template

Arguments are put into a template directive by directive, and the first one that does not get what
it needs decides.
-/

namespace MeterFeed

inductive TemplateError where
  | unnamed
  | openKey
  | missingKey (name : String)
  /-- A width or a precision is taken from an argument that is no integer. -/
  | badAmount
  | wideAmount (word : Word)
  | wideWidth
  | widePrecision
  /-- An integer is to have more digits than a text may have. -/
  | endlessInteger
  | endlessText
  | incomplete
  | tooFew
  | tooMany
  | unknownLetter (letter : Char) (index : Nat)
  | noInteger (letter : Char) (found : Json.Kind)
  | noNumber (letter : Char) (found : Json.Kind)
  | noReal (found : Json.Kind)
  | infinite
  | notNumber
  | beyondDoubles
  | noCharacter
  | beyondCharacters
  deriving DecidableEq, Repr

namespace TemplateError

/-- A letter as messages show it: those that are no printable ASCII are not shown. -/
def shownLetter (c : Char) : String :=
  if 31 ≤ c.toNat ∧ c.toNat ≤ 126 then String.ofList [c] else "?"

def message : TemplateError → String
  | .unnamed => "format requires a mapping"
  | .openKey => "incomplete format key"
  | .missingKey name => Quoted.text name
  | .badAmount => "* wants int"
  | .wideAmount word => word.overflow
  | .wideWidth => "width too big"
  | .widePrecision => "precision too big"
  | .endlessInteger => "precision too large"
  | .endlessText => ""
  | .incomplete => "incomplete format"
  | .tooFew => "not enough arguments for format string"
  | .tooMany => "not all arguments converted during string formatting"
  | .unknownLetter letter index =>
    "unsupported format character " ++ String.ofList [Quoted.apostrophe] ++ shownLetter letter ++
      String.ofList [Quoted.apostrophe] ++ " (0x" ++
      String.ofList (Nat.toDigits 16 letter.toNat) ++ ") at index " ++ toString index
  | .noInteger letter found =>
    "%" ++ String.ofList [letter] ++ " format: an integer is required, not " ++ found.word
  | .noNumber letter found =>
    "%" ++ String.ofList [letter] ++ " format: a real number is required, not " ++ found.word
  | .noReal found => "must be real number, not " ++ found.word
  | .infinite => "cannot convert float infinity to integer"
  | .notNumber => "cannot convert float NaN to integer"
  | .beyondDoubles => "int too large to convert to float"
  | .noCharacter => "%c requires int or char"
  | .beyondCharacters => "%c arg not in range(0x110000)"

end TemplateError

end MeterFeed
