import MeterFeed.Feed.Basic

/-!
# Starting and stopping

A start registers the metrics of the source, opens the first window at the clock's time and
subscribes the coordinator. It fails if the coordinator is started, and if a metric name is taken;
then the names before that one stay registered and nothing else has changed. A stop takes the
subscription back; it leaves what waits in the slot.
-/

namespace MeterFeed

namespace Feed

/-- Registers the metrics of the source: what stopped it, or the table of handles. -/
def registerMetrics (f : Feed) : Except Fault (Fields Metric) × Feed :=
  let (metrics, stop, registry) := f.source.registerNames f.source.metrics f.registry
  let f := { f with registry }.notes
    (metrics.map fun (m : Metric) => .registered m.name m.valueType)
  match stop with
  | some fault => (.error fault, f)
  | none =>
    let table := Source.table metrics
    (.ok table, { f with source := f.source.withTable table })

/-- Opens the first window and subscribes the coordinator, whose handles are known. -/
def opening (table : Fields Metric) (f : Feed) : Feed :=
  let f := { f with
    coordinator := { f.coordinator with metrics := table, nextStart := some f.clock } }
  let f := f.enter .windowArmed
  let f := { f with
    coordinator := { f.coordinator with started := true }
    bus := f.bus.subscribe cycleFinished .coordinator }
  (f.enter .waitingForEvent).note (.opened table.length f.clock)

def start (f : Feed) : Except Fault (Fields Metric) × Feed :=
  if f.coordinator.started then (.error .alreadyStarted, f)
  else
    match f.registerMetrics with
    | (.error fault, f) => (.error fault, f)
    | (.ok table, f) => (.ok table, f.opening table)

def unsubscribe (f : Feed) : Feed :=
  if f.coordinator.started then
    { f with
      coordinator := { f.coordinator with started := false }
      bus := f.bus.unsubscribe cycleFinished .coordinator }
  else f

def stop (f : Feed) : Feed :=
  (f.unsubscribe.enter .idle).note .closed

end Feed

end MeterFeed
