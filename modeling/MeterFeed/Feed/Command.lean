import MeterFeed.Http.Client
import MeterFeed.Point
import MeterFeed.Surface.Location

/-!
# Commands

A command is one thing that is done to a feed from outside. Commands may also be kept for the inside
of the next session request: `Command.duringFetch` holds a list of them, which again may hold some.
`Command.depth` counts that nesting. Every command comes to a reply or to what stopped it.
-/

namespace MeterFeed

/-- What the coordinator does to get polled at once. -/
inductive Trigger where
  | noop
  | poll
  /-- Fail, for want of a scheduler. -/
  | fail
  | schedule
  deriving DecidableEq, Repr

/-- One thing that is done to a feed. -/
inductive Command where
  | start
  /-- Start the coordinator and the scheduler. -/
  | launch
  | stop
  /-- Stop the coordinator and the scheduler. -/
  | shutdown
  /-- Publish the end of a measurement cycle on the bus, with a payload of these names. -/
  | publish (names : List String)
  /-- Have the host publish the end of a measurement cycle. -/
  | announce (names : List String)
  /-- Hand the end of a measurement cycle to the coordinator, past the bus. -/
  | notify (names : List String)
  /-- Poll into the accumulator, at a time or else at the clock's. -/
  | poll (time : Option DateTime)
  /-- Run the polling job: poll into the sink. -/
  | pollOnce
  | advance (micros : Int)
  | setClock (time : DateTime)
  /-- Have the session give an answer from now on. -/
  | respond (answer : SessionAnswer)
  | setTrigger (trigger : Option Trigger)
  /-- Keep commands for the inside of the next session request, in place of those kept before. -/
  | duringFetch (commands : List Command)
  | drain
  | metrics
  | registeredNames
  | newRegistry
  | subscribers
  | isStarted
  | recent (limit : Option Int)
  | request (method target : String)

namespace Command

mutual

/-- How deep commands are nested in a command. -/
def depth : Command → Nat
  | .duringFetch commands => depths commands + 1
  | _ => 0

def depths : List Command → Nat
  | [] => 0
  | c :: cs => max (depth c) (depths cs)

end

end Command

/-- What an answer of the HTTP surface holds. -/
inductive Body where
  | json (x : Json)
  | page (text : String)
  deriving DecidableEq

structure HttpReply where
  status : Nat
  body : Body
  deriving DecidableEq

/-- The JSON value of an answer; a page is none, but is read all the same. -/
def HttpReply.json (r : HttpReply) : Except Json.ReadError Json :=
  match r.body with
  | .json x => .ok x
  | .page text => Json.read text

inductive Reply where
  | nothing
  | count (n : Nat)
  | truth (b : Bool)
  | time (t : DateTime)
  | names (names : List String)
  | metrics (metrics : List Metric)
  | points (points : List Point)
  | http (reply : HttpReply)
  | lost (reason : Lost)
  deriving DecidableEq

end MeterFeed
