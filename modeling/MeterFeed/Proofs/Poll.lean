import MeterFeed.Proofs.Ledger
import MeterFeed.Proofs.Standing

/-!
# The course of a poll

A poll finds one of three things, and there is one lemma for each: a fetch is running
(`Feed.poll_of_busy`), nothing waits (`Feed.adds_poll_of_nothing`), or a request waits
(`Feed.poll_of_waiting`). In the last case the poll is cut where the session answers:

* `Feed.begun request f` : the request is taken and the session is asked for it;
* `(f.begun request).runKept inside` : the session answers;
* `Feed.conclude`, `Feed.settle` : the poll comes to its end.

`Feed.adds_poll_of_waiting` says which turns such a poll adds to the journal, whatever runs inside
the session request, and `Feed.fetches_poll` what that comes to: one request is taken and asked for.
-/

namespace MeterFeed

def Entry.took? : Entry → Option Request
  | .took r => some r
  | _ => none

/-! ## Nobody holds the slot -/

theorem Turn.unheld {s t : FeedState} (turn : Turn s t)
    (h : s.coordinator.slot.held = false) : t.coordinator.slot.held = false := by
  cases turn with
  | still _ coordinator | skipped _ _ coordinator | opened _ _ _ coordinator
  | closed _ coordinator | armed _ _ _ _ _ _ _ _ _ coordinator | asked _ _ _ _ coordinator
  | idled _ _ coordinator | concluded _ _ coordinator => rw [coordinator]; exact h

theorem Reachable.unheld {s : FeedState} (h : Reachable s) : s.coordinator.slot.held = false :=
  h.keeps (fun _ _ _ _ _ _ => rfl) fun _ _ act => act.turn.unheld

/-! ## What waits after some turns -/

theorem Standing.waiting_foldl {σ : Standing} {es : List Entry} (h : ∀ r, Entry.took r ∉ es) :
    (es.foldl next σ).waiting = (es.filterMap Entry.armed?).getLast?.or σ.waiting := by
  induction es using List.reverseRecOn with
  | nil => rfl
  | append_singleton es e ih =>
    have hes : ∀ r, Entry.took r ∉ es := fun r hr => h r (List.mem_append_left _ hr)
    rw [List.foldl_append, List.filterMap_append]
    cases e with
    | took r => exact absurd (List.mem_append_right es List.mem_cons_self) (h r)
    | armed r reading => simp [next, Entry.armed?]
    | _ => simpa [next, Entry.armed?] using ih hes

theorem Orderly.item_eq {s t : FeedState} {es : List Entry} (hs : Orderly s) (ht : Orderly t)
    (hadds : Adds es s t) :
    t.coordinator.slot.item = (es.foldl Standing.next s.coordinator.standing).waiting := by
  have hstanding := hadds.after
  rw [hs.standing, ht.standing] at hstanding
  exact congrArg Standing.waiting hstanding

theorem Adds.filterMap {α : Type} {pick : Entry → Option α} {s t : FeedState} {es during : List Entry}
    (hadds : Adds es s t) (hjournal : t.journal = s.journal ++ during)
    (hpick : ∀ e, e.isTurn = false → pick e = none) :
    during.filterMap pick = es.filterMap pick := by
  obtain ⟨entries, hentries, rfl⟩ := hadds
  obtain rfl : during = entries := List.append_cancel_left (hjournal.symm.trans hentries)
  exact (filterMap_filter_eq hpick during).symm

theorem Entry.took?_of_not_turn (e : Entry) (h : e.isTurn = false) : e.took? = none := by
  cases e <;> first | rfl | cases h

namespace Feed

variable {inside : Inside} {f : Feed} {request : Request} {time : Option DateTime}

/-! ## A poll that fetches nothing -/

theorem poll_of_busy (busy : f.coordinator.fetching = true) :
    f.poll inside time = (⟨[], .ok 0⟩, f.note .inFlight) := by
  unfold poll
  rw [if_pos busy]

theorem pollInto_of_busy (busy : f.coordinator.fetching = true) :
    f.pollInto inside time = (.ok 0, f.note .inFlight) := by
  unfold pollInto
  rw [poll_of_busy busy]
  dsimp only
  rw [Accumulator.append_nil]

theorem adds_poll_of_nothing (inside : Inside) (time : Option DateTime)
    (free : f.coordinator.fetching = false) (empty : f.coordinator.slot.item = none) :
    (f.poll inside time).1 = ⟨[], .ok 0⟩ ∧
      Adds [.nothingPending] f.toFeedState (f.poll inside time).2.toFeedState := by
  unfold poll
  rw [if_neg (by simp [free])]
  rcases htake : (f.setFetching true).takeRequest with ⟨_ | request, g⟩
  · have hbegun : Adds [] f.toFeedState (f.setFetching true).toFeedState := .of_journal_eq rfl
    obtain ⟨-, -, -, hadds⟩ := takeRequest_eq_none htake
    exact ⟨rfl, (hbegun.trans hadds).trans (adds_settle g)⟩
  · obtain ⟨-, hwaits, -⟩ := takeRequest_eq_some_iff.mp htake
    exact absurd (hwaits.symm.trans empty) (by simp)

/-! ## A poll that fetches -/

/-- The request that waits is taken, what runs inside its session request runs, and the cycle ends
with the answer. -/
theorem poll_of_waiting (free : f.coordinator.fetching = false)
    (unheld : f.coordinator.slot.held = false) (waits : f.coordinator.slot.item = some request) :
    f.poll inside time =
      let ended := ((f.begun request).runKept inside).conclude request (time.getD f.clock)
      (ended.1, ended.2.settle) := by
  have htake : (f.setFetching true).takeRequest = (some request, _) :=
    takeRequest_eq_some_iff.mpr ⟨unheld, waits, rfl⟩
  unfold poll
  rw [if_neg (by simp [free]), htake]
  simp only [cycle_eq]
  rfl

theorem act_begun (free : f.coordinator.fetching = false)
    (unheld : f.coordinator.slot.held = false) (waits : f.coordinator.slot.item = some request) :
    Act f.toFeedState (f.begun request).toFeedState :=
  .asked f _ request free (takeRequest_eq_some_iff.mpr ⟨unheld, waits, rfl⟩)

theorem fetching_begun : (f.begun request).coordinator.fetching = true :=
  (reports_ask request _).fetching

/-- While the session is asked, requests are armed, polls are skipped, and the coordinator is
started and stopped; nothing else is done to it. -/
theorem adds_runKept (hinside : Sound inside) (request : Request) (f : Feed) :
    ∃ asides, (∀ e ∈ asides, e.isAside = true) ∧
      Adds ([.took request, .requested request.url] ++ asides) f.toFeedState
        ((f.begun request).runKept inside).toFeedState := by
  have hmeanwhile := (runs_runKept hinside (f.begun request) fetching_begun).meanwhile
  obtain ⟨asides, hadds, hasides⟩ := (hmeanwhile fetching_begun).adds
  exact ⟨asides, hasides, (adds_begun request f).trans hadds⟩

theorem adds_poll_of_waiting (hinside : Sound inside) (time : Option DateTime)
    (free : f.coordinator.fetching = false) (unheld : f.coordinator.slot.held = false)
    (waits : f.coordinator.slot.item = some request) :
    ∃ asides, (∀ e ∈ asides, e.isAside = true) ∧
      Adds (([.took request, .requested request.url] ++ asides) ++ [.answered]) f.toFeedState
        (f.poll inside time).2.toFeedState := by
  obtain ⟨asides, hasides, hadds⟩ := adds_runKept hinside request f
  refine ⟨asides, hasides, ?_⟩
  rw [poll_of_waiting free unheld waits]
  exact hadds.trans (adds_conclude request _ _)

/-- What a poll for a request does to the journal and the slot. -/
structure Fetches (request : Request) (s t : FeedState) (during : List Entry) : Prop where
  journal : t.journal = s.journal ++ during
  requested : during.filterMap Entry.requested? = [request.url]
  took : during.filterMap Entry.took? = [request]
  /-- What waits afterwards is what was armed last in the meantime. -/
  waits : t.coordinator.slot.item = (during.filterMap Entry.armed?).getLast?

/-- What runs inside the session request takes nothing and asks for nothing, so the poll does so
once. -/
theorem fetches_poll (h : Reachable f.toFeedState) (free : f.coordinator.fetching = false)
    (waits : f.coordinator.slot.item = some request) (time : Option DateTime) :
    ∃ during, Fetches request f.toFeedState (f.poll run time).2.toFeedState during := by
  have hafter : Reachable (f.poll run time).2.toFeedState :=
    h.trans (runs_poll sound_run time f).path
  obtain ⟨asides, hasides, hadds⟩ :=
    adds_poll_of_waiting sound_run time free h.unheld waits
  have ⟨during, hjournal, _⟩ := hadds
  have hpick : ∀ {α : Type} {pick : Entry → Option α}, (∀ e, e.isTurn = false → pick e = none) →
      (∀ e, e.isAside = true → pick e = none) → during.filterMap pick =
        [.took request, .requested request.url].filterMap pick ++ [.answered].filterMap pick := by
    intro α pick hturn haside
    have hnone : asides.filterMap pick = [] :=
      List.filterMap_eq_nil_iff.mpr fun e he => haside e (hasides e he)
    rw [hadds.filterMap hjournal hturn, List.filterMap_append, List.filterMap_append, hnone,
      List.append_nil]
  refine ⟨during, hjournal, ?_, ?_, ?_⟩
  · exact hpick Entry.requested?_of_not_turn fun e he => by cases e <;> first | rfl | cases he
  · exact hpick Entry.took?_of_not_turn fun e he => by cases e <;> first | rfl | cases he
  · have hnotook : ∀ r, Entry.took r ∉ asides ++ [.answered] := by
      intro r hr
      rcases List.mem_append.mp hr with hr | hr
      · exact Bool.noConfusion (hasides _ hr)
      · cases List.mem_singleton.mp hr
    rw [h.orderly.item_eq hafter.orderly hadds,
      hadds.filterMap hjournal Entry.armed?_of_not_turn, List.append_assoc, List.foldl_append,
      Standing.waiting_foldl hnotook]
    exact Option.or_none

end Feed

end MeterFeed
