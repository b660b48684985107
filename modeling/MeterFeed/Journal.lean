import MeterFeed.Http.Error
import MeterFeed.Mapping
import MeterFeed.Time.Iso
import MeterFeed.Window

/-!
# The journal

Everything a feed does that others can see is an entry of its journal, in order: what it logs, what
it asks of the session, what it asks of the scheduler. `Entry.line?` is the log line of an entry,
for the entries that have one.
-/

namespace MeterFeed

/-- A query that is ready to be fetched. -/
structure Request where
  url : String
  window : Window
  deriving DecidableEq

inductive Phase where
  | idle
  | windowArmed
  | waitingForEvent
  | fetching
  | emitting
  deriving DecidableEq, Repr

def Phase.word : Phase → String
  | .idle => "idle"
  | .windowArmed => "window_armed"
  | .waitingForEvent => "waiting_for_event"
  | .fetching => "fetching"
  | .emitting => "emitting"

inductive BatchError where
  | notArray (found : String)
  deriving DecidableEq, Repr

namespace BatchError

def statement (found : String) : String :=
  "expected a JSON array of records, got " ++ found

def message : BatchError → String
  | .notArray found => statement found

end BatchError

inductive SchedulerCall where
  /-- Add the polling job, to run every so many seconds. -/
  | addJob (interval : Int)
  | start
  | runAt (time : DateTime)
  | shutdown
  deriving DecidableEq

inductive Level where
  | debug
  | info
  | warning
  | error
  deriving DecidableEq, Repr

def Level.word : Level → String
  | .debug => "DEBUG"
  | .info => "INFO"
  | .warning => "WARNING"
  | .error => "ERROR"

inductive Entry where
  | fetching (url : String)
  /-- The session is asked for a URL. -/
  | requested (url : String)
  | answered
  | received (bytes : Nat)
  | skipped (index : Nat) (e : DecodeError)
  | parsed (decoded refused : Nat)
  | moved (before after : Phase)
  | registered (name : String) (valueType : ValueType)
  | opened (metrics : Nat) (start : DateTime)
  | closed
  | ignored
  /-- An event at a reading of the clock armed a request. -/
  | armed (r : Request) (reading : DateTime)
  | displaced (r : Request)
  | took (r : Request)
  | untriggered
  | unacknowledged (timeout : Number)
  | handlerFailed (message : String)
  | inFlight
  | slotBusy
  | nothingPending
  | fetchFailed (e : FetchError)
  | discarded (e : BatchError)
  | dropped (device : String) (e : MapError)
  | emitted (window : Window) (count total : Nat)
  | noSubscriber (event : String)
  | subscriberFailed (handler event message : String)
  | scheduler (call : SchedulerCall)
  | scheduled (interval : Int)
  | unscheduled
  | pollFailed (e : FetchError)
  | serving (host port : String)

namespace Entry

def span (w : Window) : String :=
  w.start.text ++ " -> " ++ w.finish.text

/-- The log line of an entry. -/
def line? : Entry → Option (Level × String)
  | .fetching url => some (.info, "Fetching Kwollect data from " ++ url)
  | .requested _ => none
  | .answered => none
  | .received bytes => some (.debug, "Kwollect response: " ++ toString bytes ++ " bytes")
  | .skipped index e =>
    some (.warning, "Skipping Kwollect record #" ++ toString index ++ ": " ++ e.message)
  | .parsed decoded refused =>
    some (.info, "Parsed Kwollect batch: " ++ toString decoded ++ " decoded, " ++
      toString refused ++ " skipped")
  | .moved before after =>
    some (.debug, "Coordinator " ++ before.word ++ " -> " ++ after.word)
  | .registered name valueType =>
    some (.info, "Registered metric " ++ name ++ " as " ++ valueType.word)
  | .opened metrics start =>
    some (.info, "Kwollect input started: " ++ toString metrics ++
      " metric(s), window opened at " ++ start.text)
  | .closed => some (.info, "Kwollect input stopped")
  | .ignored => some (.warning, "Event received before start(), ignored")
  | .armed r _ => some (.info, "Fetch armed for " ++ r.url)
  | .displaced r =>
    some (.warning, "Pending fetch for window " ++ span r.window ++
      " was never polled; replaced by the new window (last write wins)")
  | .took _ => none
  | .untriggered =>
    some (.debug, "No trigger configured, the next scheduled poll will fetch")
  | .unacknowledged timeout =>
    some (.warning, "Poll did not pick up the fetch within " ++ timeout.text ++ "s")
  | .handlerFailed message => some (.error, "Kwollect event handler failed: " ++ message)
  | .inFlight => some (.debug, "A fetch is already in flight, skipping this poll")
  | .slotBusy => some (.debug, "Slot busy, skipping this take")
  | .nothingPending => some (.debug, "No pending Kwollect fetch, nothing to poll")
  | .fetchFailed e => some (.error, "Failed to fetch Kwollect data: " ++ e.message)
  | .discarded e => some (.error, "Discarding Kwollect response: " ++ e.message)
  | .dropped device e =>
    some (.warning, "Dropping record of " ++ device ++ ": " ++ e.message)
  | .emitted window count total =>
    some (.info, "Kwollect cycle " ++ span window ++ ": " ++ toString count ++ "/" ++
      toString total ++ " point(s) emitted")
  | .noSubscriber event => some (.debug, "No subscriber for event " ++ event)
  | .subscriberFailed handler event message =>
    some (.error, "Handler " ++ handler ++ " failed on event " ++ event ++ ": " ++ message)
  | .scheduler _ => none
  | .scheduled interval =>
    some (.info, "Scheduler started: Kwollect poll every " ++ toString interval ++ "s")
  | .unscheduled => some (.info, "Scheduler stopped gracefully")
  | .pollFailed e => some (.error, "Poll cycle failed: " ++ e.message)
  | .serving host port => some (.info, "Kwollect input API on " ++ host ++ ":" ++ port)

end Entry

end MeterFeed
