import Mathlib.Logic.Relation
import MeterFeed.Feed.Run

/-!
# Acts

Commands run inside one another: an event polls through its trigger, the poll asks the session, and
inside that request further commands run. `Act` cuts all of this into pieces between which nothing
else can run, so that a run, however nested, is one sequence of acts.

* `Act s t` : a piece of work leads from the state `s` to the state `t`;
* `Path s t` : acts lead from `s` to `t`; `Path.keeps` carries an invariant of acts along it;
* `Meanwhile s t` : acts lead from `s` to `t`, and one fetch is running all the time;
* `Reachable s` : acts lead to `s` from the initial state of a feed.
-/

namespace MeterFeed

/-- True of the entries that report something and stand for no change of the coordinator, no
request to the session or the scheduler, and no part of a poll. -/
def Entry.isReport : Entry → Bool
  | .requested _ | .moved .. | .opened .. | .closed | .armed .. | .displaced _ | .took _ => false
  | .scheduler _ => false
  | .answered | .inFlight | .slotBusy | .nothingPending => false
  | _ => true

/-- True of reports, and of what is noted when the phase changes. -/
def Entry.isQuiet : Entry → Bool
  | .moved .. => true
  | e => e.isReport

theorem Entry.isQuiet_of_isReport {e : Entry} (h : e.isReport = true) : e.isQuiet = true := by
  cases e <;> first | rfl | exact h

theorem foldl_filter_eq {α : Type} {keep : Entry → Bool} {note : α → Entry → α}
    (h : ∀ a e, keep e = false → note a e = a) (journal : List Entry) (a : α) :
    (journal.filter keep).foldl note a = journal.foldl note a := by
  rw [List.foldl_filter]
  congr 1
  funext a e
  split
  · rfl
  · rename_i he
    exact (h a e (Bool.eq_false_iff.mpr he)).symm

theorem filterMap_filter_eq {α : Type} {keep : Entry → Bool} {pick : Entry → Option α}
    (h : ∀ e, keep e = false → pick e = none) (journal : List Entry) :
    (journal.filter keep).filterMap pick = journal.filterMap pick := by
  rw [List.filterMap_filter]
  congr 1
  funext e
  split
  · rfl
  · rename_i he
    exact (h e (Bool.eq_false_iff.mpr he)).symm

/-! ## The pieces of a poll -/

namespace Feed

def ask (request : Request) (f : Feed) : Feed :=
  (f.enter .fetching).notes [.fetching request.url, .requested request.url]

def conclude (request : Request) (time : DateTime) (f : Feed) : Polled × Feed :=
  let (entries, result) := Http.conclude request.url f.session
  let f := f.notes (.answered :: entries)
  match result with
  | .ok payload => f.digest request time payload
  | .error (.error e) => (⟨[], .error (.error e)⟩, f.note (.fetchFailed e))
  | .error (.fault fault) => (⟨[], .error (.fault fault)⟩, f)

theorem cycle_eq (inside : Inside) (request : Request) (time : DateTime) (f : Feed) :
    f.cycle inside request time = ((f.ask request).runKept inside).conclude request time := by
  unfold cycle fetch conclude ask
  generalize runKept inside ((f.enter .fetching).notes _) = g
  dsimp only
  rcases Http.conclude request.url g.session with ⟨entries, (e | fault) | payload⟩ <;> rfl

theorem enter_eq (phase : Phase) (f : Feed) :
    f.enter phase = { f with
      coordinator := { f.coordinator with phase }
      journal := f.journal ++
        if f.coordinator.phase = phase then [] else [.moved f.coordinator.phase phase] } := by
  unfold enter
  by_cases h : f.coordinator.phase = phase
  · simp [h]
  · simp [h, note]

end Feed

/-! ## Acts and paths -/

/-- Only the surroundings of the coordinator change. -/
structure Around (s t : FeedState) : Prop where
  source : t.source = s.source
  coordinator : t.coordinator = s.coordinator
  bus : t.bus = s.bus
  journal : t.journal = s.journal

/-- A piece of work between two places at which other commands may run. -/
inductive Act : FeedState → FeedState → Prop where
  | around {s t : FeedState} (h : Around s t) : Act s t
  | noted (f : Feed) (e : Entry) (h : e.isReport = true) : Act f.toFeedState (f.note e).toFeedState
  | scheduled (f : Feed) (call : SchedulerCall) :
    Act f.toFeedState (f.schedule call).toFeedState
  /-- The coordinator is started, after its metrics were registered. -/
  | opened (f g : Feed) (table : Fields Metric) (idle : f.coordinator.started = false)
    (registered : f.registerMetrics = (.ok table, g)) :
    Act f.toFeedState (g.opening table).toFeedState
  | closed (f : Feed) : Act f.toFeedState f.stop.toFeedState
  /-- An event puts the request for the window that it closes into the slot. -/
  | armed (f : Feed) (start : DateTime) (request : Request)
    (started : f.coordinator.started = true) (next : f.coordinator.nextStart = some start)
    (made : f.nextRequest start = .ok request) :
    Act f.toFeedState ((f.arm request).2.noteDisplaced (f.arm request).1).toFeedState
  /-- A poll takes the request out of the slot and asks the session for it. -/
  | asked (f g : Feed) (request : Request) (free : f.coordinator.fetching = false)
    (taken : (f.setFetching true).takeRequest = (some request, g)) :
    Act f.toFeedState (g.ask request).toFeedState
  | idled (f g : Feed) (free : f.coordinator.fetching = false)
    (untaken : (f.setFetching true).takeRequest = (none, g)) :
    Act f.toFeedState g.settle.toFeedState
  | skipped (f : Feed) (busy : f.coordinator.fetching = true) :
    Act f.toFeedState (f.note .inFlight).toFeedState
  /-- The session has answered, and the poll ends. -/
  | concluded (f : Feed) (request : Request) (time : DateTime)
    (busy : f.coordinator.fetching = true) :
    Act f.toFeedState (f.conclude request time).2.settle.toFeedState

/-- Acts lead from one state to another. -/
abbrev Path : FeedState → FeedState → Prop := Relation.ReflTransGen Act

theorem Path.keeps {P : FeedState → Prop} (hact : ∀ s t, Act s t → P s → P t) {s t : FeedState}
    (hpath : Path s t) (hs : P s) : P t := by
  induction hpath with
  | refl => exact hs
  | tail _ act ih => exact hact _ _ act ih

/-- Acts lead from one state to another in the middle of a fetch. -/
abbrev Meanwhile : FeedState → FeedState → Prop :=
  Relation.ReflTransGen fun s t =>
    Act s t ∧ s.coordinator.fetching = true ∧ t.coordinator.fetching = true

/-- Acts lead to a state from the initial one of a feed. -/
def Reachable (s : FeedState) : Prop :=
  ∃ source clock session trigger ackTimeout host,
    Path (Feed.initial source clock session trigger ackTimeout host).toFeedState s

theorem Reachable.trans {s t : FeedState} (h : Reachable s) (hpath : Path s t) : Reachable t := by
  obtain ⟨source, clock, session, trigger, ackTimeout, host, hs⟩ := h
  exact ⟨source, clock, session, trigger, ackTimeout, host, hs.trans hpath⟩

/-- What holds of the initial state of every feed and is kept by every act holds of every reachable
state. -/
theorem Reachable.keeps {P : FeedState → Prop}
    (hinitial : ∀ source clock session trigger ackTimeout host,
      P (Feed.initial source clock session trigger ackTimeout host).toFeedState)
    (hact : ∀ s t, Act s t → P s → P t) {s : FeedState} (h : Reachable s) : P s := by
  obtain ⟨source, clock, session, trigger, ackTimeout, host, hpath⟩ := h
  exact hpath.keeps hact (hinitial source clock session trigger ackTimeout host)

end MeterFeed
