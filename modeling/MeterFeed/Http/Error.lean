import MeterFeed.Json.Reader

/-!
# Why a fetch fails

A fetch fails in transport, when the session does not answer or answers with an error status, or on
its payload, when the body of the answer is no JSON.
-/

namespace MeterFeed

inductive TransportCause where
  | clientError (status : Nat) (reason url : String)
  | serverError (status : Nat) (reason url : String)
  /-- The session did not get an answer. -/
  | session (message : String)
  deriving DecidableEq, Repr

def TransportCause.message : TransportCause → String
  | .clientError status reason url =>
    toString status ++ " Client Error: " ++ reason ++ " for url: " ++ url
  | .serverError status reason url =>
    toString status ++ " Server Error: " ++ reason ++ " for url: " ++ url
  | .session message => message

inductive FetchError where
  | transport (url : String) (cause : TransportCause)
  | invalidPayload (url : String) (cause : Json.ReadError)
  deriving DecidableEq, Repr

namespace FetchError

def url : FetchError → String
  | .transport url _ => url
  | .invalidPayload url _ => url

def transportStatement (url cause : String) : String :=
  "request to " ++ url ++ " failed: " ++ cause

def payloadStatement (url cause : String) : String :=
  "response from " ++ url ++ " is not valid JSON: " ++ cause

def message : FetchError → String
  | .transport url cause => transportStatement url cause.message
  | .invalidPayload url cause => payloadStatement url cause.message

end FetchError

end MeterFeed
