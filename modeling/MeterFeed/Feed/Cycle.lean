import MeterFeed.Batch
import MeterFeed.Feed.Basic

/-!
# Polling

A poll does nothing while a fetch is running. Otherwise it takes the request out of the slot, if
there is one, and runs its cycle: ask the session, read the answer, decode the batch, map the
records. Commands kept for the inside of a session request are run when the session has been asked
and before it answers. Whatever a cycle comes to, afterwards no fetch is running and the phase says
whether the coordinator is started and whether a request waits.

`Polled.points` are the points that the poll produced; whoever polls appends them to its
accumulator.
-/

namespace MeterFeed

/-- What a poll came to. -/
structure Polled where
  points : List Point
  result : Except (Halt FetchError) Nat

/-- What mapping records came to: the notes, the points, and the fault that ended it. -/
structure Mapped where
  entries : List Entry
  points : List Point
  stop : Option Fault

namespace Feed

/-- Maps records to points; those that are refused are noted and dropped. -/
def mapRecords (source : Source) (time : DateTime) : List Record → Mapped
  | [] => ⟨[], [], none⟩
  | r :: rs =>
    match source.normalize r time with
    | .ok point =>
      let rest := mapRecords source time rs
      ⟨rest.entries, point :: rest.points, rest.stop⟩
    | .error (.error e) =>
      let rest := mapRecords source time rs
      ⟨.dropped r.deviceId e :: rest.entries, rest.points, rest.stop⟩
    | .error (.fault fault) => ⟨[], [], some fault⟩

/-- Runs the commands that are kept for the inside of a session request, once. -/
def runKept (inside : Inside) (f : Feed) : Feed :=
  match f.kept with
  | none => f
  | some commands =>
    let (answers, f) := inside commands { f with kept := none }
    { f with inner := f.inner ++ [answers] }

def fetch (inside : Inside) (url : String) (f : Feed) : Except (Halt FetchError) Json × Feed :=
  let f := (f.notes [.fetching url, .requested url]).runKept inside
  let (entries, result) := Http.conclude url f.session
  (result, f.notes (.answered :: entries))

/-- Maps the records of a batch and notes the end of the cycle. -/
def emit (request : Request) (time : DateTime) (records : List Record) (f : Feed) :
    Polled × Feed :=
  let f := f.enter .emitting
  let mapped := mapRecords f.source time records
  let f := f.notes mapped.entries
  match mapped.stop with
  | some fault => (⟨mapped.points, .error (.fault fault)⟩, f)
  | none =>
    let count := mapped.points.length
    (⟨mapped.points, .ok count⟩, f.note (.emitted request.window count records.length))

def digest (request : Request) (time : DateTime) (payload : Json) (f : Feed) : Polled × Feed :=
  let (entries, result) := Batch.parse payload
  let f := f.notes entries
  match result with
  | .ok records => f.emit request time records
  | .error (.error e) => (⟨[], .ok 0⟩, f.note (.discarded e))
  | .error (.fault fault) => (⟨[], .error (.fault fault)⟩, f)

def cycle (inside : Inside) (request : Request) (time : DateTime) (f : Feed) : Polled × Feed :=
  match (f.enter .fetching).fetch inside request.url with
  | (.ok payload, f) => f.digest request time payload
  | (.error (.error e), f) => (⟨[], .error (.error e)⟩, f.note (.fetchFailed e))
  | (.error (.fault fault), f) => (⟨[], .error (.fault fault)⟩, f)

/-- The phase of a coordinator that runs no fetch. -/
def restingPhase (c : Coordinator) : Phase :=
  if !c.started then .idle
  else if c.slot.isPending then .fetching
  else .waitingForEvent

def setFetching (fetching : Bool) (f : Feed) : Feed :=
  { f with coordinator := { f.coordinator with fetching } }

def settle (f : Feed) : Feed :=
  let f := f.setFetching false
  f.enter (restingPhase f.coordinator)

/-- Takes the waiting request out of the slot, and acknowledges it. -/
def takeRequest (f : Feed) : Option Request × Feed :=
  match f.coordinator.slot.take with
  | (.busy, _) => (none, (f.note .slotBusy).note .nothingPending)
  | (.nothing, _) => (none, f.note .nothingPending)
  | (.item request, slot) =>
    (some request,
      { f with coordinator := { f.coordinator with slot, acknowledged := true } }.note
        (.took request))

def poll (inside : Inside) (time : Option DateTime) (f : Feed) : Polled × Feed :=
  if f.coordinator.fetching then (⟨[], .ok 0⟩, f.note .inFlight)
  else
    match (f.setFetching true).takeRequest with
    | (none, f) => (⟨[], .ok 0⟩, f.settle)
    | (some request, f) =>
      let (polled, f) := f.cycle inside request (time.getD f.clock)
      (polled, f.settle)

def pollInto (inside : Inside) (time : Option DateTime) (f : Feed) :
    Except (Halt FetchError) Nat × Feed :=
  let (polled, f) := f.poll inside time
  (polled.result, { f with accumulator := f.accumulator.append polled.points })

end Feed

end MeterFeed
