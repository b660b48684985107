import MeterFeed.Proofs.Poll

/-!
# One fetch at a time

Commands that run inside a session request may poll in every way there is: by themselves, through
the trigger of an event, through the scheduler. Such a poll finds the fetch running, and is skipped.
So a session request begins only when the last one was answered, and what is armed in the meantime
waits until the poll that made the request has come to its end (`single_flight`).

`SingleFlight` says this of any reachable feed, and not only of those between two commands: polls
are attempted in the middle of commands as well.
-/

namespace MeterFeed

def Entry.isUnskipped : Entry → Bool
  | .requested _ | .took _ | .nothingPending => true
  | _ => false

/-- What a feed has done, and what it does when it polls, one fetch at a time. -/
structure SingleFlight (f : Feed) : Prop where
  /-- Until the session has answered it is not asked again, and every poll is skipped. -/
  apart : ∀ before e after, f.journal = before ++ e :: after →
    (Standing.after before).asking = true → e.isUnskipped = false
  /-- A poll that is attempted meanwhile comes to nothing, and changes nothing. -/
  skipped : (Standing.after f.journal).asking = true → ∀ inside time,
    f.poll inside time = (⟨[], .ok 0⟩, f.note .inFlight) ∧
      f.pollInto inside time = (.ok 0, f.note .inFlight)
  /-- After any other poll the request waits that was armed last during the poll. -/
  waiting : (Standing.after f.journal).asking = false → ∀ time, ∃ during,
    (f.poll Feed.run time).2.journal = f.journal ++ during ∧
      (f.poll Feed.run time).2.coordinator.slot.item = (during.filterMap Entry.armed?).getLast?

namespace Orderly

variable {s : FeedState} {before after : List Entry} {e : Entry}

theorem isUnskipped_of_asking (h : Orderly s) (hjournal : s.journal = before ++ e :: after)
    (hasking : (Standing.after before).asking = true) : e.isUnskipped = false := by
  cases e with
  | requested | took | nothingPending =>
    have hallows := h.allows hjournal rfl
    simp [Standing.Allows, hasking] at hallows
  | _ => rfl

end Orderly

namespace Feed

variable {f : Feed}

/-- After a poll that was not skipped, the request waits that was armed last during the poll. -/
theorem waiting_poll (h : Reachable f.toFeedState) (free : f.coordinator.fetching = false)
    (time : Option DateTime) : ∃ during,
      (f.poll run time).2.journal = f.journal ++ during ∧
        (f.poll run time).2.coordinator.slot.item = (during.filterMap Entry.armed?).getLast? := by
  cases hitem : f.coordinator.slot.item with
  | none =>
    have hafter : Reachable (f.poll run time).2.toFeedState :=
      h.trans (runs_poll sound_run time f).path
    have hadds := (adds_poll_of_nothing run time free hitem).2
    have ⟨during, hjournal, _⟩ := hadds
    refine ⟨during, hjournal, ?_⟩
    rw [h.orderly.item_eq hafter.orderly hadds,
      hadds.filterMap hjournal Entry.armed?_of_not_turn]
    exact hitem
  | some request =>
    obtain ⟨during, hfetches⟩ := fetches_poll h free hitem time
    exact ⟨during, hfetches.journal, hfetches.waits⟩

theorem singleFlight (h : Reachable f.toFeedState) : SingleFlight f := by
  have hfetching : (Standing.after f.journal).asking = f.coordinator.fetching :=
    congrArg Standing.asking h.orderly.standing
  refine ⟨fun before e after hjournal => h.orderly.isUnskipped_of_asking hjournal, ?_, ?_⟩
  · intro hasking inside time
    have hbusy : f.coordinator.fetching = true := hfetching.symm.trans hasking
    exact ⟨poll_of_busy hbusy, pollInto_of_busy hbusy⟩
  · intro hidle
    exact waiting_poll h (hfetching.symm.trans hidle)

end Feed

/-- **One fetch at a time.** Every answer of a run, from inside a session request or not, shows a
reachable state. Whatever led to a feed, the session was never asked before it had answered; a poll
that is attempted while it is being asked comes to nothing and changes nothing; and after any other
poll what waits is the request that was armed last during that poll. -/
theorem single_flight (source : Source) (clock : DateTime) (session : SessionAnswer)
    (trigger : Option Trigger) (ackTimeout : Number) (host : Host) (commands : List Command) :
    (∀ a ∈ (Feed.initial source clock session trigger ackTimeout host).everyAnswer commands,
      Reachable a.state) ∧
    ∀ f : Feed, Reachable f.toFeedState → SingleFlight f :=
  ⟨fun _ ha => Feed.reachable_of_mem_everyAnswer ha, fun _ h => Feed.singleFlight h⟩

/-- A poll in the middle of a fetch. -/
theorem single_flight_sample : ∃ a ∈ Feed.Sample.feed.everyAnswer Feed.Sample.commands,
    (Standing.after a.state.journal).asking = true ∧ ∀ answers inside time,
      Feed.pollInto inside time ⟨a.state, answers⟩ =
        (.ok 0, Feed.note .inFlight ⟨a.state, answers⟩) := by
  obtain ⟨a, ha, hasking⟩ : ∃ a ∈ Feed.Sample.feed.everyAnswer Feed.Sample.commands,
      (Standing.after a.state.journal).asking = true := by
    decide +kernel
  obtain ⟨hreachable, hflight⟩ :
      (∀ a ∈ Feed.Sample.feed.everyAnswer Feed.Sample.commands, Reachable a.state) ∧
        ∀ f : Feed, Reachable f.toFeedState → SingleFlight f :=
    single_flight _ _ _ _ _ _ _
  refine ⟨a, ha, hasking, fun answers inside time => ?_⟩
  exact ((hflight ⟨a.state, answers⟩ (hreachable a ha)).skipped hasking inside time).2

end MeterFeed
