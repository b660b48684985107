import MeterFeed.Surface.Respond

/-!
# Running commands

`Feed.obey` carries out one command, where `inside` says how the commands are run that were kept for
the inside of a session request. `Feed.performAt` closes that knot with a bound on how deep such
commands are nested: at bound zero nothing is run inside, and at a greater one the kept commands are
run at the bound below. A kept list is run once and holds only lists that are nested less deep, so
`Feed.perform` takes the depth of the kept list for the bound.

What every command keeps is proved for `obey`, whatever `inside` does that keeps it too, and then
holds at every bound.
-/

namespace MeterFeed

namespace Feed

/-- A result with a feed, as the answer of a command. -/
def reply (result : Except (Halt FetchError) Reply) (f : Feed) : Answer × Feed :=
  (f.answer result, f)

def done (r : Reply) (f : Feed) : Answer × Feed :=
  f.reply (.ok r)

def faulty {α : Type} (describe : α → Reply) (outcome : Except Fault α × Feed) :
    Answer × Feed :=
  match outcome with
  | (.ok x, f) => f.done (describe x)
  | (.error fault, f) => f.reply (.error (.fault fault))

def polled (outcome : Except (Halt FetchError) Nat × Feed) : Answer × Feed :=
  outcome.2.reply (outcome.1.map .count)

def advance (micros : Int) (f : Feed) : Except Fault DateTime × Feed :=
  match Span.after micros f.clock with
  | .ok t => (.ok t, { f with clock := t })
  | .error fault => (.error fault, f)

def obey (inside : Inside) (command : Command) (f : Feed) : Answer × Feed :=
  match command with
  | .start => faulty (fun table => .metrics (table.map Prod.snd)) f.start
  | .launch => faulty (fun _ => .nothing) f.launch
  | .stop => f.stop.done .nothing
  | .shutdown => f.shutdown.done .nothing
  | .publish names => faulty .count (f.publishWith inside [.bus] names)
  | .announce names => faulty .count (f.publishWith inside [.host, .bus] names)
  | .notify names => faulty (fun _ => .nothing) (f.notifyWith inside names)
  | .poll time => polled (f.pollInto inside time)
  | .pollOnce => faulty .count (f.pollOnce inside)
  | .advance micros => faulty .time (f.advance micros)
  | .setClock time => { f with clock := time }.done (.time time)
  | .respond answer => { f with session := answer }.done .nothing
  | .setTrigger trigger => { f with trigger }.done .nothing
  | .duringFetch [] => { f with kept := none }.done .nothing
  | .duringFetch commands => { f with kept := some commands }.done .nothing
  | .drain =>
    let (points, accumulator) := f.accumulator.drain
    { f with accumulator }.done (.points points)
  | .metrics => f.done (.metrics (f.coordinator.metrics.map Prod.snd))
  | .registeredNames => f.done (.names f.registry.names)
  | .newRegistry => f.newRegistry.done .nothing
  | .subscribers => f.done (.count (f.bus.handlers cycleFinished).length)
  | .isStarted => f.done (.truth f.coordinator.started)
  | .recent limit => f.done (.points (f.host.sink.recent limit))
  | .request method target =>
    match Surface.respond inside method target f with
    | (.ok r, f) => f.done (.http r)
    | (.error e, f) => f.done (.lost e)

def obeyAll (obey : Command → Feed → Answer × Feed) : List Command → Feed → List Answer × Feed
  | [], f => ([], f)
  | c :: cs, f =>
    let (answer, f) := obey c f
    let (answers, f) := obeyAll obey cs f
    (answer :: answers, f)

/-- Carries out a command, with kept commands nested at most so deep. -/
def performAt : Nat → Command → Feed → Answer × Feed
  | 0 => obey fun _ f => ([], f)
  | bound + 1 => obey (obeyAll (performAt bound))

/-- How deep the commands are nested that are kept for the next session request. -/
def keptDepth (f : Feed) : Nat :=
  match f.kept with
  | some commands => Command.depths commands + 1
  | none => 0

def perform (command : Command) (f : Feed) : Answer × Feed :=
  performAt f.keptDepth command f

def run (commands : List Command) (f : Feed) : List Answer × Feed :=
  obeyAll perform commands f

end Feed

end MeterFeed
