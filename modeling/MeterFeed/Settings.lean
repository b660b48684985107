import MeterFeed.Text.LowerCase
import MeterFeed.Text.Numeral
import MeterFeed.Text.Parts

/-!
# Settings

The settings of a feed are read from named texts. A list is written with commas; blanks around an
element and empty elements do not count. A switch is on for one of four words. The numbers are read
in the order of `Settings.ofTexts`, so the first bad one is the one that is reported.
-/

namespace MeterFeed

def splitList (raw : String) : List String :=
  let parts := (partsAt ',' raw.toList).map (Blank.strip Blank.isBlank)
  (parts.filter fun part => !part.isEmpty).map String.ofList

def onWords : List String := ["1", "true", "yes", "on"]

def isOn (raw : String) : Bool :=
  onWords.contains (LowerCase.text (String.ofList (Blank.strip Blank.isBlank raw.toList)))

structure Settings where
  baseUrl : String
  site : String
  hosts : List String
  metrics : List String
  unsignedMetrics : List String
  login : String
  password : String
  timeout : Number
  ackTimeout : Number
  pollInterval : Int
  usePollTime : Bool
  sinkCapacity : Int
  apiHost : String
  apiPort : Int
  logLevel : String
  deriving DecidableEq

namespace Settings

def names : List String := [
  "KWOLLECT_BASE_URL", "KWOLLECT_SITE", "KWOLLECT_HOSTNAMES", "KWOLLECT_METRICS",
  "KWOLLECT_UINT_METRICS", "KWOLLECT_LOGIN", "KWOLLECT_PASSWORD", "KWOLLECT_TIMEOUT",
  "KWOLLECT_TRIGGER_ACK_TIMEOUT", "KWOLLECT_POLL_INTERVAL", "KWOLLECT_USE_POLL_TIMESTAMP",
  "KWOLLECT_SINK_CAPACITY", "API_HOST", "API_PORT", "LOG_LEVEL"]

def standard : Settings where
  baseUrl := "https://api.grid5000.fr/stable"
  site := "lyon"
  hosts := ["taurus-7"]
  metrics := ["wattmetre_power_watt"]
  unsignedMetrics := []
  login := "login"
  password := "password"
  timeout := .real (Binary64.ofRatio false 30 1)
  ackTimeout := .real (Binary64.ofRatio false 1 1)
  pollInterval := 60
  usePollTime := false
  sinkCapacity := 1000
  apiHost := "0.0.0.0"
  apiPort := 8000
  logLevel := "INFO"

def double (texts : Fields String) (name : String) (standard : Number) :
    Except NumeralError Number :=
  match Fields.value? name texts with
  | none => .ok standard
  | some text =>
    match Numeral.double text with
    | .ok x => .ok (.real x)
    | .error e => .error e

def integer (texts : Fields String) (name : String) (standard : Int) : Except NumeralError Int :=
  match Fields.value? name texts with
  | none => .ok standard
  | some text => Numeral.integer text

def text (texts : Fields String) (name standard : String) : String :=
  (Fields.value? name texts).getD standard

def list (texts : Fields String) (name : String) (standard : List String) : List String :=
  match Fields.value? name texts with
  | none => standard
  | some raw => splitList raw

def ofTexts (texts : Fields String) : Except NumeralError Settings := do
  let timeout ← double texts "KWOLLECT_TIMEOUT" standard.timeout
  let ackTimeout ← double texts "KWOLLECT_TRIGGER_ACK_TIMEOUT" standard.ackTimeout
  let pollInterval ← integer texts "KWOLLECT_POLL_INTERVAL" standard.pollInterval
  let sinkCapacity ← integer texts "KWOLLECT_SINK_CAPACITY" standard.sinkCapacity
  let apiPort ← integer texts "API_PORT" standard.apiPort
  return {
    baseUrl := text texts "KWOLLECT_BASE_URL" standard.baseUrl
    site := text texts "KWOLLECT_SITE" standard.site
    hosts := list texts "KWOLLECT_HOSTNAMES" standard.hosts
    metrics := list texts "KWOLLECT_METRICS" standard.metrics
    unsignedMetrics := list texts "KWOLLECT_UINT_METRICS" standard.unsignedMetrics
    login := text texts "KWOLLECT_LOGIN" standard.login
    password := text texts "KWOLLECT_PASSWORD" standard.password
    timeout
    ackTimeout
    pollInterval
    usePollTime := isOn (text texts "KWOLLECT_USE_POLL_TIMESTAMP" "false")
    sinkCapacity
    apiHost := text texts "API_HOST" standard.apiHost
    apiPort
    logLevel := text texts "LOG_LEVEL" standard.logLevel }

end Settings

end MeterFeed
