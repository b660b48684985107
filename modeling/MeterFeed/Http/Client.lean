import MeterFeed.Journal
import MeterFeed.Settings
import MeterFeed.Text.Utf8

/-!
# Fetching

A fetch is one authenticated request and no more. The session answers with a status and a body,
or fails. Statuses from 400 to 599 are errors; the body of any other answer is read as UTF-8, with
replacement characters for what is none, and then as JSON.
-/

namespace MeterFeed

inductive SessionAnswer where
  | response (status : Nat) (reason : String) (body : List UInt8)
  /-- No answer, for a reason of transport. -/
  | failure (message : String)
  /-- A failure that is none of HTTP's. -/
  | fault (sort : SessionFault) (message : String)
  deriving DecidableEq

namespace Http

def statusError? (status : Nat) (reason url : String) : Option TransportCause :=
  if 400 ≤ status ∧ status < 500 then some (.clientError status reason url)
  else if 500 ≤ status ∧ status < 600 then some (.serverError status reason url)
  else none

def payload (body : List UInt8) : Except Json.ReadError Json :=
  Json.readChars (Utf8.decode body)

/-- What an answer comes to: the notes, and the payload. -/
def conclude (url : String) : SessionAnswer → List Entry × Except (Halt FetchError) Json
  | .failure message => ([], .error (.error (.transport url (.session message))))
  | .fault sort message => ([], .error (.fault (.session sort message)))
  | .response status reason body =>
    match statusError? status reason url with
    | some cause => ([], .error (.error (.transport url cause)))
    | none =>
      match payload body with
      | .ok x => ([.received body.length], .ok x)
      | .error e => ([.received body.length], .error (.error (.invalidPayload url e)))

end Http

structure Credentials where
  login : String
  password : String
  deriving DecidableEq, Repr

structure Call where
  url : String
  credentials : Credentials
  timeout : Number
  deriving DecidableEq

structure Client where
  credentials : Credentials
  timeout : Number
  deriving DecidableEq

structure NoTransport where
  url : String
  deriving DecidableEq, Repr

def NoTransport.message (e : NoTransport) : String :=
  "No connection adapters were found for " ++ Quoted.text e.url

structure Fetched where
  calls : List Call
  entries : List Entry
  result : Except (Halt FetchError) Json

namespace Client

def retries : Nat := 0

def transports : List String := ["https://", "http://"]

/-- How often a request for a URL is repeated when it fails. -/
def retriesFor (url : String) : Except NoTransport Nat :=
  if transports.any fun start => start.toList.isPrefixOf (LowerCase.text url).toList then
    .ok retries
  else .error ⟨url⟩

/-- The client with the stated parts; those that are not stated come from the settings. -/
def make (login password : Option String) (timeout : Option Number) (settings : Settings) :
    Client :=
  ⟨⟨login.getD settings.login, password.getD settings.password⟩,
    timeout.getD settings.timeout⟩

def fetch (c : Client) (url : String) (answer : SessionAnswer) : Fetched :=
  let (entries, result) := Http.conclude url answer
  ⟨[⟨url, c.credentials, c.timeout⟩], .fetching url :: entries, result⟩

end Client

end MeterFeed
