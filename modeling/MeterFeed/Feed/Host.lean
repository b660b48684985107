import MeterFeed.Feed.Cycle
import MeterFeed.Feed.Lifecycle
import MeterFeed.Time.Span

/-!
# The host

The host starts and stops the coordinator together with the scheduler, whose polling job polls into
the sink. A failed fetch is noted and the job goes on with the next poll; a fault passes through. If
the scheduler could not be started, the coordinator is started all the same, and the scheduler has
no job to run.

The host takes the present from the clock of the coordinator, both when it polls and when it has the
job run now. A host that is in service reads the clock of its system there, and only the coordinator
reads the one that it was given; the two are one clock here, which whoever runs the feed may set.
-/

namespace MeterFeed

namespace Feed

def schedule (call : SchedulerCall) (f : Feed) : Feed :=
  f.note (.scheduler call)

def stopScheduler (f : Feed) : Feed :=
  { f with host := { f.host with running := false } }

def pollingJob : String := "kwollect_input_poll"

def writeSink (points : List Point) (f : Feed) : Feed :=
  { f with host := { f.host with sink := f.host.sink.write points } }

/-- The polling job: polls into the sink, at the present in UTC, which the coordinator's clock shows
in place of the system's. -/
def pollOnce (inside : Inside) (f : Feed) : Except Fault Nat × Feed :=
  match f.clock.toUtc with
  | .error fault => (.error fault, f)
  | .ok now =>
    match f.poll inside (some now) with
    | (⟨points, .ok count⟩, f) => (.ok count, f.writeSink points)
    | (⟨_, .error (.error e)⟩, f) => (.ok 0, f.note (.pollFailed e))
    | (⟨_, .error (.fault fault)⟩, f) => (.error fault, f)

/-- Has the scheduler run the polling job now, at the present that the coordinator's clock shows in
place of the system's. -/
def runJobNow (inside : Inside) (f : Feed) : Option (Halt FetchError) × Feed :=
  match f.clock.toUtc with
  | .error fault => (some (.fault fault), f)
  | .ok now =>
    let f := f.schedule (.runAt now)
    if !f.host.immediate then (none, f)
    else if !f.host.scheduled then (some (.fault (.noJob pollingJob)), f)
    else
      match f.pollOnce inside with
      | (.ok _, f) => (none, f)
      | (.error fault, f) => (some (.fault fault), f)

def firstRun (h : Host) : Except Fault DateTime := do
  Span.after (← Span.ofSeconds h.interval) h.present

def startOwn (f : Feed) : Except Fault (Fields Metric) × Feed :=
  match f.host.registry with
  | none => f.start
  | some own =>
    let (result, g) := { f with registry := own }.start
    (result, { g with registry := f.registry, host := { g.host with registry := some g.registry } })

/-- Gives the feed a new registry; the host keeps the one that it has. -/
def newRegistry (f : Feed) : Feed :=
  let own := f.host.registry.getD f.registry
  { f with registry := .empty, host := { f.host with registry := some own } }

def startScheduler (f : Feed) : Feed :=
  let f := (f.schedule (.addJob f.host.interval)).schedule .start
  { f with host := { f.host with running := true, scheduled := true } }

/-- Starts the coordinator, and then the scheduler unless the polling job cannot be scheduled. -/
def launch (f : Feed) : Except Fault Unit × Feed :=
  match f.startOwn with
  | (.error fault, f) => (.error fault, f)
  | (.ok _, f) =>
    match firstRun f.host with
    | .error fault => (.error fault, f)
    | .ok _ => (.ok (), f.startScheduler.note (.scheduled f.host.interval))

def shutdown (f : Feed) : Feed :=
  let f := f.stop
  let f := if f.host.running then (f.schedule .shutdown).stopScheduler else f
  f.note .unscheduled

end Feed

end MeterFeed
