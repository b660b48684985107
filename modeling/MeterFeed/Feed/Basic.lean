import MeterFeed.EventBus.Basic
import MeterFeed.Feed.Command
import MeterFeed.Sink
import MeterFeed.Slot
import MeterFeed.Source

/-!
# Feeds

A feed is a coordinator with everything around it: the source that it asks, the session that
answers, the registry and the bus, the clock, the accumulator, and the host with its scheduler and
its sink. Whatever it does is noted in its journal.

The coordinator lets one fetch run at a time. An event closes the window that began with the last
one and puts the request for it into the slot; a poll takes the request out of the slot and fetches.

`FeedState` is all that there is between two commands. A command is answered by its result together
with the state after it, and a `Feed` is a state together with the answers of the commands that ran
inside its session requests.
-/

namespace MeterFeed

/-- What a coordinator remembers. -/
structure Coordinator where
  phase : Phase
  slot : Slot Request
  nextStart : Option DateTime
  /-- The handles of the last start that succeeded. -/
  metrics : Fields Metric
  started : Bool
  fetching : Bool
  /-- A poll has taken a request since the last one was put into the slot. -/
  acknowledged : Bool

namespace Coordinator

def initial : Coordinator where
  phase := .idle
  slot := Slot.empty
  nextStart := none
  metrics := []
  started := false
  fetching := false
  acknowledged := false

end Coordinator

/-- The handlers on the bus of a feed. -/
inductive Subscriber where
  | coordinator
  deriving DecidableEq, Repr

/-- The scheduler and the sink of a feed. -/
structure Host where
  sink : Sink Point
  /-- The registry that the host starts with, if the feed has another one by now. -/
  registry : Option Registry
  running : Bool
  scheduled : Bool
  interval : Int
  /-- The scheduler runs the polling job as soon as it is asked to. -/
  immediate : Bool
  /-- What the scheduler's own clock shows. -/
  present : DateTime

def Host.initial (sink : Sink Point) (interval : Int) (immediate : Bool) (present : DateTime) :
    Host where
  sink
  registry := none
  running := false
  scheduled := false
  interval
  immediate
  present

/-- A coordinator with everything around it, as it is between two commands. -/
structure FeedState where
  source : Source
  coordinator : Coordinator
  registry : Registry
  bus : EventBus Subscriber
  clock : DateTime
  session : SessionAnswer
  kept : Option (List Command)
  trigger : Option Trigger
  /-- How long the coordinator waits for a poll, as it is shown. -/
  ackTimeout : Number
  accumulator : Accumulator Point
  host : Host
  journal : List Entry

/-- The answer to a command: what it came to, and the state after it. -/
structure Answer where
  result : Except (Halt FetchError) Reply
  state : FeedState

namespace Answer

def phase (a : Answer) : Phase :=
  a.state.coordinator.phase

/-- True if a request waits in the slot after a command. -/
def pending (a : Answer) : Bool :=
  a.state.coordinator.slot.isPending

end Answer

structure Feed extends FeedState where
  /-- The answers of the commands that ran inside session requests, request by request. -/
  inner : List (List Answer)

/-- How commands are run inside a session request. -/
abbrev Inside := List Command → Feed → List Answer × Feed

namespace Feed

def initial (source : Source) (clock : DateTime) (session : SessionAnswer)
    (trigger : Option Trigger) (ackTimeout : Number) (host : Host) : Feed where
  source
  coordinator := .initial
  registry := .empty
  bus := .empty
  clock
  session
  kept := none
  trigger
  ackTimeout
  accumulator := .empty
  host
  journal := []
  inner := []

def note (e : Entry) (f : Feed) : Feed :=
  { f with journal := f.journal ++ [e] }

def notes (es : List Entry) (f : Feed) : Feed :=
  { f with journal := f.journal ++ es }

/-- Brings the coordinator into a phase, and notes it if that is another one. -/
def enter (phase : Phase) (f : Feed) : Feed :=
  let g := { f with coordinator := { f.coordinator with phase } }
  if f.coordinator.phase = phase then g else g.note (.moved f.coordinator.phase phase)

def answer (result : Except (Halt FetchError) Reply) (f : Feed) : Answer :=
  ⟨result, f.toFeedState⟩

end Feed

end MeterFeed
