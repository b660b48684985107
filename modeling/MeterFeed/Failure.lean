import MeterFeed.Json.Display
import MeterFeed.Journal
import MeterFeed.Template.Convert

/-!
# The errors of a feed

Every error that a feed answers for is of a kind, and kinds stand below one another: below the
general kind there are five families, and below those the kinds of what goes wrong in them. An error
is made from parts. Most kinds have names for their parts, of which the last one may be missing in
some kinds; the kinds that only state what they say take any number of them.
-/

namespace MeterFeed

/-- The kinds of errors. -/
inductive FailureKind where
  | general
  | decode
  | missing
  | bad
  | badTime
  | unsupported
  | batch
  | notArray
  | fetch
  | transport
  | invalidPayload
  | map
  | poll
  deriving DecidableEq, Repr

namespace FailureKind

def all : List FailureKind := [
  .general, .decode, .missing, .bad, .badTime, .unsupported, .batch, .notArray, .fetch, .transport,
  .invalidPayload, .map, .poll]

def word : FailureKind → String
  | .general => "KwollectError"
  | .decode => "DecodeError"
  | .missing => "MissingField"
  | .bad => "BadValue"
  | .badTime => "BadTimestamp"
  | .unsupported => "UnsupportedShape"
  | .batch => "BatchError"
  | .notArray => "NotAnArray"
  | .fetch => "FetchError"
  | .transport => "TransportError"
  | .invalidPayload => "InvalidPayload"
  | .map => "MapError"
  | .poll => "PollError"

def ofWord? (word : String) : Option FailureKind :=
  all.find? fun kind => kind.word == word

/-- A kind and those above it, up to the general one. -/
def lineage : FailureKind → List FailureKind
  | .general => [.general]
  | .decode => [.decode, .general]
  | .missing => [.missing, .decode, .general]
  | .bad => [.bad, .decode, .general]
  | .badTime => [.badTime, .bad, .decode, .general]
  | .unsupported => [.unsupported, .decode, .general]
  | .batch => [.batch, .general]
  | .notArray => [.notArray, .batch, .general]
  | .fetch => [.fetch, .general]
  | .transport => [.transport, .fetch, .general]
  | .invalidPayload => [.invalidPayload, .fetch, .general]
  | .map => [.map, .general]
  | .poll => [.poll, .general]

/-- The names of the parts that an error needs, and how many more it may have; none for the kinds
that take any parts. -/
def parts? : FailureKind → Option (List String × Nat)
  | .general | .batch | .map | .poll => none
  | .decode => some (["field"], 1)
  | .missing => some (["field"], 0)
  | .bad => some (["field"], 1)
  | .badTime => some ([], 1)
  | .unsupported | .notArray => some (["kind"], 0)
  | .fetch => some (["url", "message"], 0)
  | .transport | .invalidPayload => some (["url", "cause"], 0)

end FailureKind

inductive Part where
  | value (x : Json)
  | cause (what : Json)
  deriving DecidableEq

namespace Part

def text : Part → String
  | .value x => Convert.text x
  | .cause what => Convert.text what

def display : Part → String
  | .value x => x.display
  | .cause what => "RuntimeError(" ++ what.display ++ ")"

/-- True of a part that says nothing: a null, false, zero, or something empty. -/
def isBlank : Part → Bool
  | .cause _ => false
  | .value x =>
    match x with
    | .null | .bool false | .text "" | .array [] | .object [] => true
    | .number (.int n) => n == 0
    | .number (.real (.finite _ m _)) => m == 0
    | _ => false

def statement : List Part → String
  | [] => ""
  | [part] => part.text
  | parts => "(" ++ String.intercalate ", " (parts.map display) ++ ")"

end Part

/-- Why parts make no error of a kind. -/
inductive PartsError where
  | missing (kind : FailureKind) (names : List String)
  | tooMany (kind : FailureKind) (required optional given : Nat)
  deriving DecidableEq, Repr

namespace PartsError

def listed : List String → String
  | [] => ""
  | [name] => Quoted.text name
  | [first, last] => Quoted.text first ++ " and " ++ Quoted.text last
  | first :: rest => Quoted.text first ++ ", " ++ listed rest

def plural (count : Nat) : String :=
  if count = 1 then "" else "s"

/-- A number of parts that an error takes. The error itself is counted as a part. -/
def counted (required optional : Nat) : String :=
  if optional = 0 then
    toString (required + 1) ++ " positional argument" ++ plural (required + 1)
  else
    "from " ++ toString (required + 1) ++ " to " ++ toString (required + optional + 1) ++
      " positional arguments"

def message : PartsError → String
  | .missing kind names =>
    kind.word ++ ".__init__() missing " ++ toString names.length ++
      " required positional argument" ++ plural names.length ++ ": " ++ listed names
  | .tooMany kind required optional given =>
    kind.word ++ ".__init__() takes " ++ counted required optional ++ " but " ++
      toString (given + 1) ++ " were given"

end PartsError

/-- An error that a feed answers for, by its kind and the parts that it was made from. -/
structure Failure where
  kind : FailureKind
  parts : List Part
  deriving DecidableEq

namespace Failure

def badParts? (kind : FailureKind) (parts : List Part) : Option PartsError :=
  match kind.parts? with
  | none => none
  | some (names, optional) =>
    if parts.length < names.length then some (.missing kind (names.drop parts.length))
    else if names.length + optional < parts.length then
      some (.tooMany kind names.length optional parts.length)
    else none

def make (kind : FailureKind) (parts : List Part) : Except PartsError Failure :=
  match badParts? kind parts with
  | some e => .error e
  | none => .ok ⟨kind, parts⟩

def part (f : Failure) (i : Nat) : Part :=
  f.parts.getD i (.value .null)

/-- The reason at a place, or else the standard one. -/
def reason (f : Failure) (i : Nat) (standard : Reason) : Part :=
  f.parts.getD i (.value (.text standard.message))

def message (f : Failure) : String :=
  let text (i : Nat) := (f.part i).text
  let shown (i : Nat) := (f.part i).display
  match f.kind with
  | .general | .batch | .map | .poll => Part.statement f.parts
  | .decode => if (f.part 1).isBlank then DecodeError.undecodedStatement (shown 0) else text 1
  | .missing => DecodeError.missingStatement (shown 0)
  | .bad => DecodeError.badStatement (shown 0) (f.reason 1 .unrecognized).text
  | .badTime =>
    DecodeError.badStatement (Quoted.text "timestamp") (f.reason 0 .expectedTime).text
  | .unsupported => Shape.statement (text 0)
  | .notArray => BatchError.statement (text 0)
  | .fetch => text 1
  | .transport => FetchError.transportStatement (text 0) (text 1)
  | .invalidPayload => FetchError.payloadStatement (text 0) (text 1)

def attributes (f : Failure) : List (String × Part) :=
  let named (name : String) := Part.value (.text name)
  match f.kind with
  | .general | .batch | .map | .poll => []
  | .decode | .missing => [("field", f.part 0)]
  | .bad => [("field", f.part 0), ("reason", f.reason 1 .unrecognized)]
  | .badTime => [("field", named "timestamp"), ("reason", f.reason 0 .expectedTime)]
  | .unsupported => [("field", named "attribute"), ("kind", f.part 0)]
  | .notArray => [("kind", f.part 0)]
  | .fetch => [("url", f.part 0)]
  | .transport | .invalidPayload => [("url", f.part 0), ("cause", f.part 1)]

end Failure

def DecodeError.failureKind : DecodeError → FailureKind
  | .missing _ => .missing
  | .bad .. => .bad
  | .badTime _ => .badTime
  | .unsupported _ => .unsupported

def BatchError.failureKind : BatchError → FailureKind
  | .notArray _ => .notArray

def FetchError.failureKind : FetchError → FailureKind
  | .transport .. => .transport
  | .invalidPayload .. => .invalidPayload

end MeterFeed
