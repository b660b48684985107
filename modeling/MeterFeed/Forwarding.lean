import MeterFeed.Template.Fill

/-!
# Forwarded log records

Loggers have dotted names; the parent of a logger is the nearest one above it, a name cut before a
dot. A record that is grave enough goes to the handlers of its logger and then up to the parent, as
long as the logger lets its records go up. The loggers of `Forwarding.owners` are set up with one
handler that forwards records, and do not let records go up; so every record is forwarded at most
once.

A record that comes with arguments has a template for its text. The text is made when the record is
forwarded: of a record whose arguments do not fit its template nothing is forwarded, and whoever
writes it gets the error. So it is with a level that is no integer. Each record is handled by
itself; what became of those before it does not matter.
-/

namespace MeterFeed

namespace Forwarding

/-- The loggers that forward their records and let none go up. -/
def owners : List String :=
  ["apscheduler", "uvicorn", "uvicorn.error", "uvicorn.access"]

/-- The least level of a record that is not dropped at once. -/
def threshold : Int := 30

/-- The names above a name whose characters come in reverse, nearest first. A dot counts unless the
character after it is one that counted, and unless it is the first character. -/
def above (counted : Bool) : List Char → List (List Char)
  | [] => []
  | c :: rest =>
    if c = '.' ∧ ¬ counted ∧ rest ≠ [] then rest.reverse :: above true rest
    else above false rest

/-- A name and the names above it, nearest first. -/
def path (name : String) : List String :=
  name :: (above false name.toList.reverse).map String.ofList

structure Setup where
  /-- How many of its handlers forward records. -/
  handlers : Nat
  /-- Whether its records go up to the parent. -/
  goesUp : Bool
  deriving DecidableEq

def setups : Fields Setup :=
  owners.foldl (fun setups name => Fields.put name ⟨1, false⟩ setups) []

/-- The setup of a logger; one that nobody set up has no handler and lets its records go up. -/
def setup (name : String) : Setup :=
  (Fields.value? name setups).getD ⟨0, true⟩

/-- How often a record on its way up is forwarded. -/
def climb : List String → Nat
  | [] => 0
  | name :: rest => (setup name).handlers + if (setup name).goesUp then climb rest else 0

/-- How often a record of a logger is forwarded. -/
def times (logger : String) (level : Int) : Nat :=
  if level < threshold then 0 else climb (path logger)

/-- The word for a level; a level without a name is shown by its number. -/
def levelWord (level : Int) : String :=
  if level = 10 then "DEBUG"
  else if level = 20 then "INFO"
  else if level = 30 then "WARNING"
  else if level = 40 then "ERROR"
  else if level = 50 then "CRITICAL"
  else "Level " ++ toString level

/-- A record of a logger; there may be no integer for its level. -/
structure LogRecord where
  level : Option Int
  text : String
  args : List Json

def LogRecord.message (r : LogRecord) : Except TemplateError String :=
  if r.args.isEmpty then .ok r.text else Template.fill r.text r.args

inductive Stop where
  | noLevel
  | template (e : TemplateError)
  deriving DecidableEq, Repr

def Stop.message : Stop → String
  | .noLevel => "level must be an integer"
  | .template e => e.message

abbrev Line := String × String

/-- What is forwarded of a record of a logger, or what is raised to whoever writes it. -/
def handle (logger : String) (r : LogRecord) : Except Stop (List Line) :=
  match r.level with
  | none => .error .noLevel
  | some level =>
    let count := times logger level
    if count = 0 then .ok []
    else
      match r.message with
      | .error e => .error (.template e)
      | .ok text => .ok (List.replicate count (levelWord level, text))

/-- What arrives of the records of a logger, whichever of them raise something. -/
def arrivals (logger : String) (records : List LogRecord) : List Line :=
  records.flatMap fun r => (handle logger r).toOption.getD []

end Forwarding

end MeterFeed
