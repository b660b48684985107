import MeterFeed.Journal
import MeterFeed.Slot

/-!
# Access to a slot

The parties around a slot offer, take and look whether something is pending, and one of them may
hold the slot for a while. Whoever offers or looks meanwhile waits for the release; whoever takes
does not wait: the take is skipped, and a note says so. A list of accesses has them in the order in
which they go through.
-/

namespace MeterFeed

namespace Slot

/-- What a party does with a slot; an offer may be of no item. -/
inductive Access (α : Type) where
  | offer (item : Option α)
  | take
  | look
  | hold
  | release
  deriving DecidableEq

inductive Reply (α : Type) where
  | displaced (item : Option α)
  | taken (t : Taken α)
  | pending (b : Bool)
  | done
  deriving DecidableEq

variable {α : Type}

def Access.offered? : Access α → Option α
  | .offer item => item
  | _ => none

def Reply.handed? : Reply α → Option α
  | .displaced item => item
  | .taken t => t.toOption
  | _ => none

def Reply.entries : Reply α → List Entry
  | .taken .busy => [.slotBusy]
  | _ => []

def access (s : Slot α) : Access α → Reply α × Slot α
  | .offer item =>
    let (displaced, s) := s.exchange item
    (.displaced displaced, s)
  | .take =>
    let (taken, s) := s.take
    (.taken taken, s)
  | .look => (.pending s.isPending, s)
  | .hold => (.done, s.hold)
  | .release => (.done, s.release)

def run (s : Slot α) : List (Access α) → List (Reply α) × Slot α
  | [] => ([], s)
  | a :: rest =>
    let (reply, s) := s.access a
    let (replies, s) := s.run rest
    (reply :: replies, s)

end Slot

end MeterFeed
