import MeterFeed.Json.Value
import MeterFeed.Text.Quoted

/-!
# How messages show a value

Messages show a JSON value in one line: texts are quoted, numbers have their message text, and the
three constants have words of their own.
-/

namespace MeterFeed

namespace Json

mutual

def display : Json → String
  | .null => "None"
  | .bool b => if b then "True" else "False"
  | .number n => n.text
  | .text s => Quoted.text s
  | .array elements => "[" ++ displayElements elements ++ "]"
  | .object members => "\x7b" ++ displayMembers members ++ "\x7d"

def displayElements : List Json → String
  | [] => ""
  | [x] => display x
  | x :: rest => display x ++ ", " ++ displayElements rest

def displayMembers : List (String × Json) → String
  | [] => ""
  | [(k, x)] => Quoted.text k ++ ": " ++ display x
  | (k, x) :: rest => Quoted.text k ++ ": " ++ display x ++ ", " ++ displayMembers rest

end

end Json

end MeterFeed
