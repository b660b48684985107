import MeterFeed.Json.Display

/-!
# Why a record is refused

A record is refused for a required field that is missing, for the value of a field, or, inside its
labels, for a value that no label can have. `Reason` says what is wrong with a value, `Shape` names
the values that no label can have, and `DecodeError.message` puts them into words.
-/

namespace MeterFeed

/-- A value that no label can have. -/
inductive Shape where
  | object
  | null
  | negativeInteger
  deriving DecidableEq, Repr

def Shape.word : Shape → String
  | .object => "object"
  | .null => "null"
  | .negativeInteger => "negative integer"

def Shape.statement (word : String) : String :=
  "unsupported JSON shape: " ++ word

def Shape.message (shape : Shape) : String :=
  Shape.statement shape.word

/-- What is wrong with the value of a field. -/
inductive Reason where
  | unrecognized
  | expectedText (found : Json.Kind)
  | expectedObject (found : Json.Kind)
  | expectedReading (found : Json)
  | expectedTime
  /-- A number of epoch seconds lies outside the years 1 to 9999. -/
  | epochOutOfRange (seconds : Number)
  /-- A text does not have the shape of a time. -/
  | misshapenTime (text : String)
  /-- A text has the shape of a time that does not exist. -/
  | impossibleTime (text : String)
  | label (name : String) (shape : Shape)
  deriving DecidableEq

def Reason.message : Reason → String
  | .unrecognized => "unrecognized JSON shape"
  | .expectedText found => "expected a string, got " ++ found.word
  | .expectedObject found => "expected an object, got " ++ found.word
  | .expectedReading found => "expected a float or non-negative integer, got " ++ found.display
  | .expectedTime => "expected epoch seconds or RFC-3339 string"
  | .epochOutOfRange seconds => "epoch seconds out of range: " ++ seconds.text
  | .misshapenTime text => "not an RFC-3339 string with UTC offset: " ++ Quoted.text text
  | .impossibleTime text => "not an RFC-3339 string: " ++ Quoted.text text
  | .label name shape => "label " ++ Quoted.text name ++ ": " ++ shape.message

inductive DecodeError where
  | missing (field : String)
  | bad (field : String) (reason : Reason)
  | badTime (reason : Reason)
  | unsupported (shape : Shape)
  deriving DecidableEq

namespace DecodeError

def field : DecodeError → String
  | .missing field => field
  | .bad field _ => field
  | .badTime _ => "timestamp"
  | .unsupported _ => "attribute"

def missingStatement (field : String) : String :=
  "missing required field " ++ field

def badStatement (field reason : String) : String :=
  "bad value for field " ++ field ++ ": " ++ reason

def undecodedStatement (field : String) : String :=
  "cannot decode field " ++ field

def message : DecodeError → String
  | .missing field => missingStatement (Quoted.text field)
  | .bad field reason => badStatement (Quoted.text field) reason.message
  | .badTime reason => badStatement (Quoted.text "timestamp") reason.message
  | .unsupported shape => shape.message

end DecodeError

end MeterFeed
