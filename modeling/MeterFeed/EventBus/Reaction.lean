import MeterFeed.EventBus.Basic
import MeterFeed.Journal

/-!
# Handlers that act on the bus

A handler here is known by its name. A call makes it act on the bus as it likes (`Reaction`): it
subscribes and unsubscribes handlers, counts them, publishes events, looks at what came of that, and
ends well or fails. What handlers remember from one moment to the next is a memory that all of them
share. A failure is noted and the next handler is called. Every call is recorded with its payload,
which holds values of any type by name.

A handler of a `Stage` has no memory and a script: it does the same to every call, up to the first
action that fails.

A publication can set off another one, and so on without end. `Scene.publishAt` follows that down to
a depth and gives up below; whenever it does not give up, a greater depth changes nothing.
-/

namespace MeterFeed

/-- Why an action on the bus or a handler fails. What is meant to end the whole program is no
failure. -/
inductive BusError where
  | notCallable
  /-- A payload uses a name that the bus has for something else. -/
  | reservedName (name : String)
  | failed (message : String)
  deriving DecidableEq, Repr

def BusError.message : BusError → String
  | .notCallable => "handler must be callable"
  | .reservedName name => Recipient.bus.refusal name
  | .failed message => message

/-- What an action names as a handler. -/
inductive HandlerName where
  | handler (name : String)
  | other
  deriving DecidableEq, Repr

inductive BusAction (π : Type) where
  | subscribe (event : String) (handler : HandlerName)
  | unsubscribe (event : String) (handler : HandlerName)
  | subscribers (event : String)
  | publish (event : String) (payload : Fields π)
  | fail (message : String)

/-- How a handler goes on: what it does to the bus, and to the memory before each thing it does. -/
inductive Reaction (σ π : Type) where
  | done (memory : σ)
  | fail (e : BusError) (memory : σ)
  /-- Does something and goes on with what came of it and with the memory as it is by then. -/
  | act (action : BusAction π) (memory : σ) (next : Except BusError Nat → σ → Reaction σ π)

def Reaction.ofScript {π : Type} : List (BusAction π) → Reaction Unit π
  | [] => .done ()
  | action :: actions =>
    .act action () fun outcome _ =>
      match outcome with
      | .ok _ => ofScript actions
      | .error e => .fail e ()

/-- A bus of named handlers, what they remember and how they react to a call, with the calls so far
and the journal. -/
structure Scene (σ π : Type) where
  bus : EventBus String
  memory : σ
  react : String → Fields π → σ → Reaction σ π
  seen : List (String × Fields π)
  journal : List Entry

abbrev Stage (π : Type) := Scene Unit π

def Stage.initial {π : Type} (scripts : Fields (List (BusAction π))) : Stage π where
  bus := .empty
  memory := ()
  react name _ _ := .ofScript ((Fields.value? name scripts).getD [])
  seen := []
  journal := []

namespace Scene

variable {σ π : Type}

def note (e : Entry) (s : Scene σ π) : Scene σ π :=
  { s with journal := s.journal ++ [e] }

/-- How a publication is carried out: the number of handlers that it went to. -/
abbrev Publish (σ π : Type) := String → Fields π → Scene σ π → Option (Nat × Scene σ π)

def act (publish : Publish σ π) (action : BusAction π) (s : Scene σ π) :
    Option (Except BusError Nat × Scene σ π) :=
  match action with
  | .subscribe event (.handler name) => some (.ok 0, { s with bus := s.bus.subscribe event name })
  | .subscribe _ .other => some (.error .notCallable, s)
  | .unsubscribe event (.handler name) =>
    some (.ok 0, { s with bus := s.bus.unsubscribe event name })
  | .unsubscribe _ .other => some (.ok 0, s)
  | .subscribers event => some (.ok (s.bus.handlers event).length, s)
  | .publish event payload =>
    match Recipient.bus.clash? (Fields.names payload) with
    | some name => some (.error (.reservedName name), s)
    | none => (publish event payload s).map fun done => (.ok done.1, done.2)
  | .fail message => some (.error (.failed message), s)

def carryOut (publish : Publish σ π) : Reaction σ π → Scene σ π →
    Option (Option BusError × Scene σ π)
  | .done memory, s => some (none, { s with memory })
  | .fail e memory, s => some (some e, { s with memory })
  | .act action memory next, s =>
    match act publish action { s with memory } with
    | none => none
    | some (outcome, s) => carryOut publish (next outcome s.memory) s

def call (publish : Publish σ π) (name : String) (payload : Fields π) (s : Scene σ π) :
    Option (Option BusError × Scene σ π) :=
  carryOut publish (s.react name payload s.memory) { s with seen := s.seen ++ [(name, payload)] }

def shown (name : String) : String :=
  "<handler " ++ name ++ ">"

def deliver (publish : Publish σ π) (event : String) (payload : Fields π) :
    List String → Scene σ π → Option (Scene σ π)
  | [], s => some s
  | name :: names, s =>
    match s.call publish name payload with
    | none => none
    | some (none, s) => s.deliver publish event payload names
    | some (some e, s) =>
      (s.note (.subscriberFailed (shown name) event e.message)).deliver publish event payload names

/-- Publishes an event to the handlers that are subscribed now, down to a depth. -/
def publishAt : Nat → Publish σ π
  | 0, _, _, _ => none
  | depth + 1, event, payload, s =>
    let names := s.bus.handlers event
    let s := if names.isEmpty then s.note (.noSubscriber event) else s
    (s.deliver (publishAt depth) event payload names).map fun s => (names.length, s)

/-- The depth down to which publications are followed. -/
def depthLimit : Nat := 1000

/-- Carries out an action; none if publications go on for too long. -/
def perform (action : BusAction π) (s : Scene σ π) : Option (Except BusError Nat × Scene σ π) :=
  s.act (publishAt depthLimit) action

end Scene

end MeterFeed
