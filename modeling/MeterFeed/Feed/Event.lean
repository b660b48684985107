import MeterFeed.Feed.Host

/-!
# Events

The end of a measurement cycle closes the window: the request for it goes into the slot, and the
trigger is to get it polled at once. If afterwards no poll has taken the request, that is noted.
Handling an event never fails; what goes wrong is noted, and unless the window was closed nothing
has changed.
-/

namespace MeterFeed

namespace Feed

/-- The request for the window from a start to the clock's time, or to its start if that is
later. -/
def nextRequest (start : DateTime) (f : Feed) : Except Fault Request := do
  let finish ← f.clock.later start
  let window ← Window.make start finish
  let url ← f.source.url window
  return ⟨url, window⟩

/-- Puts a request into the slot; the next window begins where its window ends. -/
def arm (request : Request) (f : Feed) : Option Request × Feed :=
  let (displaced, slot) := f.coordinator.slot.offer request
  let coordinator := { f.coordinator with
    nextStart := some request.window.finish
    acknowledged := false
    slot }
  (displaced, ({ f with coordinator }.enter .fetching).note (.armed request f.clock))

/-- Does what the trigger does; what stopped it, if anything did. -/
def fire (inside : Inside) (trigger : Trigger) (f : Feed) : Option (Halt FetchError) × Feed :=
  match trigger with
  | .noop => (none, f)
  | .fail => (some (.fault .schedulerGone), f)
  | .schedule => f.runJobNow inside
  | .poll =>
    match f.pollInto inside none with
    | (.ok _, f) => (none, f)
    | (.error halt, f) => (some halt, f)

def noteFailure (halt : Halt FetchError) (f : Feed) : Feed :=
  f.note (.handlerFailed (halt.message FetchError.message))

/-- Gets the armed request polled at once, if there is a trigger. -/
def requestPoll (inside : Inside) (f : Feed) : Feed :=
  match f.trigger with
  | none => f.note .untriggered
  | some trigger =>
    match f.fire inside trigger with
    | (some halt, f) => f.noteFailure halt
    | (none, f) =>
      if f.coordinator.acknowledged then f
      else
        match Span.untimed? f.ackTimeout with
        | some fault => f.noteFailure (.fault fault)
        | none => f.note (.unacknowledged f.ackTimeout)

/-- Notes the request that a new one took the place of. -/
def noteDisplaced (displaced : Option Request) (f : Feed) : Feed :=
  match displaced with
  | some request => f.note (.displaced request)
  | none => f

def notify (inside : Inside) (f : Feed) : Feed :=
  match f.coordinator.nextStart, f.coordinator.started with
  | some start, true =>
    match f.nextRequest start with
    | .error fault => f.noteFailure (.fault fault)
    | .ok request =>
      let (displaced, f) := f.arm request
      (f.noteDisplaced displaced).requestPoll inside
  | _, _ => f.note .ignored

def call (inside : Inside) (f : Feed) : Subscriber → Feed
  | .coordinator => f.notify inside

def publish (inside : Inside) (f : Feed) : Nat × Feed :=
  let handlers := f.bus.handlers cycleFinished
  let f := if handlers.isEmpty then f.note (.noSubscriber cycleFinished) else f
  (handlers.length, handlers.foldl (call inside) f)

/-- Checks the names of a payload with whoever takes it in, one after the other. -/
def checkPayload (recipients : List Recipient) (names : List String) : Except Fault Unit :=
  match recipients with
  | [] => .ok ()
  | r :: rest =>
    match r.clash? names with
    | some name => .error (.reservedName r name)
    | none => checkPayload rest names

/-- Publishes the end of a measurement cycle with a payload that has to get by recipients. -/
def publishWith (inside : Inside) (recipients : List Recipient) (names : List String) (f : Feed) :
    Except Fault Nat × Feed :=
  match checkPayload recipients names with
  | .error fault => (.error fault, f)
  | .ok () => let (count, f) := f.publish inside; (.ok count, f)

def notifyWith (inside : Inside) (names : List String) (f : Feed) : Except Fault Unit × Feed :=
  match checkPayload [.coordinator] names with
  | .error fault => (.error fault, f)
  | .ok () => (.ok (), f.notify inside)

end Feed

end MeterFeed
