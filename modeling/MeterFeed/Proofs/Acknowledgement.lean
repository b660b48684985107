import MeterFeed.Proofs.Arming

/-!
# What an acknowledgement says

When its trigger has returned, the handler of an event looks whether its request was taken, and
warns if it was not. It looks at one mark that serves all requests: a poll that takes a request sets
it, and every request that is armed clears it (`Reachable.marked`).

The poll of a trigger takes the request of the event at once or never (`Feed.fire_turns`). While the
session is asked for that request another one can be armed, and then the mark is gone though the
request was taken. So the warning is right unless that happens (`handler_warns_iff`), and then it is
wrong (`handler_not_truthful`).
-/

namespace MeterFeed

/-! ## The mark -/

namespace Entry

def acknowledge (mark : Bool) : Entry → Bool
  | .armed .. => false
  | .took _ => true
  | _ => mark

theorem acknowledge_of_not_turn {e : Entry} (h : e.isTurn = false) (mark : Bool) :
    acknowledge mark e = mark := by
  cases e <;> first | rfl | cases h

theorem mem_filterMap_took {es : List Entry} {r : Request} :
    r ∈ es.filterMap took? ↔ .took r ∈ es := by
  rw [List.mem_filterMap]
  constructor
  · rintro ⟨e, he, hr⟩
    cases e <;> cases hr
    exact he
  · intro hr
    exact ⟨.took r, hr, rfl⟩

theorem foldl_acknowledge {es : List Entry} (h : ∀ r, .took r ∉ es) (mark : Bool) :
    es.foldl acknowledge mark = true ↔ mark = true ∧ ∀ r reading, .armed r reading ∉ es := by
  induction es generalizing mark with
  | nil => simp
  | cons e es ih =>
    have hes : ∀ r, .took r ∉ es := fun r hr => h r (List.mem_cons_of_mem e hr)
    rw [List.foldl_cons, ih hes]
    cases e with
    | armed r reading =>
      constructor
      · rintro ⟨hmark, -⟩
        cases hmark
      · rintro ⟨-, harmed⟩
        exact absurd List.mem_cons_self (harmed r reading)
    | took r => exact absurd List.mem_cons_self (h r)
    | _ => simp [acknowledge]

end Entry

theorem Adds.acknowledge {s t : FeedState} {es : List Entry} (h : Adds es s t) (mark : Bool) :
    t.journal.foldl Entry.acknowledge mark =
      es.foldl Entry.acknowledge (s.journal.foldl Entry.acknowledge mark) := by
  obtain ⟨entries, hentries, rfl⟩ := h
  rw [hentries, List.foldl_append]
  exact (foldl_filter_eq (fun mark _ he => Entry.acknowledge_of_not_turn he mark) _ _).symm

theorem Adds.mem_iff {s t : FeedState} {es during : List Entry} (h : Adds es s t)
    (hjournal : t.journal = s.journal ++ during) {e : Entry} (he : e.isTurn = true) :
    e ∈ es ↔ e ∈ during := by
  obtain ⟨entries, hentries, rfl⟩ := h
  obtain rfl : during = entries := List.append_cancel_left (hjournal.symm.trans hentries)
  simp [MeterFeed.turns, he]

/-- The journal tells whether the mark is there. -/
def Marked (s : FeedState) : Prop :=
  s.journal.foldl Entry.acknowledge false = s.coordinator.acknowledged

theorem Marked.keeps {s t : FeedState} (turn : Turn s t) (h : Marked s) : Marked t := by
  have hmarked : ∀ {es : List Entry}, Adds es s t →
      es.foldl Entry.acknowledge s.coordinator.acknowledged = t.coordinator.acknowledged →
      Marked t := by
    intro es hadds hmark
    unfold Marked
    rw [hadds.acknowledge, show _ = _ from h, hmark]
  cases turn with
  | still _ coordinator _ adds | skipped _ _ coordinator _ adds
  | idled _ _ coordinator _ adds | concluded _ _ coordinator _ adds
  | opened _ _ _ coordinator _ adds | closed _ coordinator _ adds
  | asked _ _ _ _ coordinator _ adds => exact hmarked adds (by rw [coordinator]; rfl)
  | armed _ _ request _ _ _ _ _ _ coordinator _ adds =>
    have hnotook : ∀ r, Entry.took r ∉ s.coordinator.slot.waiting.map .displaced := by
      intro r hr
      obtain ⟨x, -, hx⟩ := List.mem_map.mp hr
      cases hx
    have hcleared : (s.coordinator.slot.waiting.map .displaced).foldl Entry.acknowledge false =
        false := Bool.eq_false_iff.mpr fun hmark =>
      nomatch ((Entry.foldl_acknowledge hnotook false).mp hmark).1
    exact hmarked adds (by rw [coordinator]; exact hcleared)

/-- In every reachable state the mark is there if and only if a request was taken and none has been
armed since. -/
theorem Reachable.marked {s : FeedState} (h : Reachable s) : Marked s :=
  h.keeps (fun _ _ _ _ _ _ => rfl) fun _ _ act => Marked.keeps act.turn

theorem Reachable.acknowledged_of_adds {s t : FeedState} {es : List Entry} (hs : Reachable s)
    (ht : Reachable t) (hadds : Adds es s t) :
    t.coordinator.acknowledged = es.foldl Entry.acknowledge s.coordinator.acknowledged := by
  rw [← hs.marked, ← ht.marked, hadds.acknowledge]

/-! ## What a trigger does to the request -/

/-- The turns of a trigger: it polls nothing, or it takes a request, and others can be armed while
the session is asked for it. -/
inductive TriggerTurns (request : Request) : List Entry → Prop where
  | idle (es : List Entry) (h : ∀ e ∈ es, e.took? = none ∧ e.armed? = none) :
    TriggerTurns request es
  | asks (asides : List Entry) (h : ∀ e ∈ asides, e.isAside = true) :
    TriggerTurns request
      ([.took request, .requested request.url] ++ asides ++ [.answered])

namespace TriggerTurns

variable {request : Request} {es : List Entry}

theorem took (h : TriggerTurns request es) :
    es.filterMap Entry.took? = [] ∨ es.filterMap Entry.took? = [request] := by
  cases h with
  | idle es h => exact .inl (List.filterMap_eq_nil_iff.mpr fun e he => (h e he).1)
  | asks asides h =>
    have hnone : asides.filterMap Entry.took? = [] :=
      List.filterMap_eq_nil_iff.mpr fun e he => by
        have haside := h e he
        cases e <;> first | rfl | cases haside
    refine .inr ?_
    rw [List.filterMap_append, List.filterMap_append, hnone]
    rfl

/-- The mark is there afterwards if the request was taken and no other one armed since. -/
theorem acknowledge (h : TriggerTurns request es) : es.foldl Entry.acknowledge false = true ↔
    .took request ∈ es ∧ ∀ r reading, .armed r reading ∉ es := by
  cases h with
  | idle es h =>
    have hnotook : ∀ r, Entry.took r ∉ es := fun r hr => nomatch (h _ hr).1
    rw [Entry.foldl_acknowledge hnotook]
    constructor
    · rintro ⟨hmark, -⟩
      cases hmark
    · rintro ⟨htook, -⟩
      exact absurd htook (hnotook request)
  | asks asides h =>
    have hnotook : ∀ r, Entry.took r ∉ asides ++ [.answered] := by
      intro r hr
      rcases List.mem_append.mp hr with hr | hr
      · exact nomatch h _ hr
      · cases List.mem_singleton.mp hr
    have hmark := Entry.foldl_acknowledge hnotook true
    rw [List.append_assoc, List.foldl_append]
    refine Iff.trans hmark ?_
    constructor
    · rintro ⟨-, harmed⟩
      refine ⟨List.mem_cons_self, fun r reading hr => ?_⟩
      rcases List.mem_append.mp hr with hr | hr
      · simp at hr
      · exact harmed r reading hr
    · rintro ⟨-, harmed⟩
      exact ⟨rfl, fun r reading hr => harmed r reading (List.mem_append_right _ hr)⟩

end TriggerTurns

namespace Feed

variable {f g : Feed} {request : Request}

theorem poll_turns (h : Reachable f.toFeedState) (waits : f.coordinator.slot.item = some request)
    (time : Option DateTime) : ∃ es, TriggerTurns request es ∧
      Adds es f.toFeedState (f.poll run time).2.toFeedState := by
  cases hfetching : f.coordinator.fetching with
  | true =>
    rw [poll_of_busy hfetching]
    exact ⟨[.inFlight], .idle _ (List.forall_mem_singleton.mpr ⟨rfl, rfl⟩), .note .inFlight f⟩
  | false =>
    obtain ⟨asides, hasides, hadds⟩ :=
      adds_poll_of_waiting sound_run time hfetching h.unheld waits
    exact ⟨_, .asks asides hasides, hadds⟩

theorem fire_turns (h : Reachable f.toFeedState) (waits : f.coordinator.slot.item = some request)
    (trigger : Trigger) : ∃ es, TriggerTurns request es ∧
      Adds es f.toFeedState (f.fire run trigger).2.toFeedState := by
  rcases fire_cases run trigger f with hstands | ⟨g, time, hbefore, hafter⟩
  · exact ⟨[], .idle [] (List.forall_mem_nil _), hstands.adds⟩
  · obtain ⟨es, hturns, hadds⟩ := poll_turns (h.trans hbefore.path)
      ((congrArg (·.slot.item) hbefore.coordinator).trans waits) time
    exact ⟨es, hturns, hbefore.adds_between hadds hafter⟩

/-- An event arms a request, its trigger is fired and returns; in the meantime some entries are
noted. -/
structure Fires (f : Feed) (request : Request) (g : Feed) (during : List Entry) : Prop where
  started : f.coordinator.started = true
  closes : ∃ start, f.coordinator.nextStart = some start ∧ f.nextRequest start = .ok request
  fired : ∃ trigger, f.trigger = some trigger ∧ (f.ready request).fire run trigger = (none, g)
  journal : g.journal = (f.ready request).journal ++ during

/-- When the trigger has returned, the handler warns that no poll took its request. -/
def Warns (f g : Feed) : Prop :=
  ∃ timeout, (f.notify run).journal = g.journal ++ [.unacknowledged timeout]

theorem lookTaken_warns :
    (∃ timeout, f.lookTaken.journal = f.journal ++ [.unacknowledged timeout]) ↔
      Span.untimed? f.ackTimeout = none ∧ f.coordinator.acknowledged = false := by
  unfold lookTaken
  cases hmark : f.coordinator.acknowledged with
  | true =>
    refine ⟨fun ⟨timeout, hjournal⟩ => ?_, fun h => nomatch h.2⟩
    exact absurd (List.self_eq_append_right.mp hjournal) (List.cons_ne_nil _ _)
  | false =>
    cases huntimed : Span.untimed? f.ackTimeout with
    | none => exact ⟨fun _ => ⟨rfl, rfl⟩, fun _ => ⟨f.ackTimeout, rfl⟩⟩
    | some fault =>
      refine ⟨fun ⟨timeout, hjournal⟩ => ?_, fun h => nomatch h.1⟩
      cases List.append_cancel_left hjournal

/-- The handler warns if the mark is not there, unless the wait cannot be timed. -/
theorem Fires.warns_iff_unmarked {during : List Entry} (h : f.Fires request g during) :
    f.Warns g ↔ Span.untimed? g.ackTimeout = none ∧ g.coordinator.acknowledged = false := by
  obtain ⟨start, hnext, hmade⟩ := h.closes
  obtain ⟨trigger, htrigger, hfired⟩ := h.fired
  have hhandled : f.notify run = (f.ready request).requestPoll run :=
    notify_eq run h.started hnext hmade
  have hnotify : f.notify run = g.lookTaken := by
    rw [hhandled, requestPoll_eq, (arms_ready request f).trigger, htrigger]
    dsimp only
    rw [hfired]
  unfold Warns
  rw [hnotify]
  exact lookTaken_warns

theorem exists_fires (h : Reachable f.toFeedState) {start : DateTime} {trigger : Trigger}
    (started : f.coordinator.started = true) (next : f.coordinator.nextStart = some start)
    (made : f.nextRequest start = .ok request) (configured : f.trigger = some trigger)
    (returns : ((f.ready request).fire run trigger).1 = none) :
    ∃ during, f.Fires request ((f.ready request).fire run trigger).2 during := by
  have hready := reachable_ready h started next made
  obtain ⟨es, -, during, hjournal, -⟩ :=
    fire_turns hready (arms_ready request f).item trigger
  exact ⟨during, started, ⟨start, next, made⟩, ⟨trigger, configured, by rw [← returns]⟩, hjournal⟩

end Feed

/-- **When the handler warns.** If an event arms a request and its trigger returns, then at most
that request was taken in the meantime; and the handler warns that it was not taken, with a timeout
that can be waited for, exactly if it was not taken or if another request was armed in the
meantime. -/
theorem handler_warns_iff (f : Feed) (h : Reachable f.toFeedState) {request : Request} {g : Feed}
    {during : List Entry} (fires : f.Fires request g during) :
    (during.filterMap Entry.took? = [] ∨ during.filterMap Entry.took? = [request]) ∧
      (f.Warns g ↔ Span.untimed? g.ackTimeout = none ∧
        (.took request ∉ during ∨ ∃ r reading, .armed r reading ∈ during)) := by
  obtain ⟨start, hnext, hmade⟩ := fires.closes
  obtain ⟨trigger, htrigger, hfired⟩ := fires.fired
  have harms := Feed.arms_ready request f
  have hready := Feed.reachable_ready h fires.started hnext hmade
  have hafter : Reachable g.toFeedState := by
    have hruns := (Feed.runs_fire Feed.sound_run trigger (f.ready request)).path
    rw [hfired] at hruns
    exact hready.trans hruns
  obtain ⟨es, hturns, hadds⟩ := Feed.fire_turns hready harms.item trigger
  rw [hfired] at hadds
  refine ⟨?_, ?_⟩
  · rw [hadds.filterMap fires.journal Entry.took?_of_not_turn]
    exact hturns.took
  · have hmem : ∀ e : Entry, e.isTurn = true → (e ∈ es ↔ e ∈ during) := fun _ =>
      hadds.mem_iff fires.journal
    have hmark := hready.acknowledged_of_adds hafter hadds
    have hclear : (f.ready request).coordinator.acknowledged = false := by
      obtain ⟨journal, hchanged⟩ := harms.changed
      rw [hchanged]
    have htruth := hturns.acknowledge
    rw [hclear] at hmark
    rw [fires.warns_iff_unmarked, hmark, ← Bool.not_eq_true, htruth, hmem _ rfl]
    simp only [hmem _ (rfl : Entry.isTurn (.armed _ _) = true)]
    simp only [not_and_or, not_forall, not_not]

/-- A trigger that polls, and an event while the session is asked for no records, `[]`. -/
def Feed.Sample.overtaken : Feed :=
  (feed.run [.start, .setTrigger (some .poll), .respond (.response 200 "OK" [91, 93]),
    .advance 1000000, .duringFetch [.advance 1000000, .notify []]]).2

theorem Feed.Sample.reachable_overtaken : Reachable overtaken.toFeedState :=
  reachable_run_feed _

theorem Feed.Sample.fires_overtaken : ∃ request g during,
    overtaken.Fires request g during ∧ .took request ∈ during ∧
      Span.untimed? g.ackTimeout = none ∧ g.coordinator.acknowledged = false := by
  have hstanding : overtaken.coordinator.started = true ∧
      overtaken.coordinator.nextStart = some clock ∧ overtaken.trigger = some .poll ∧
      (overtaken.nextRequest clock).toOption.isSome = true := by
    decide +kernel
  obtain ⟨hstarted, hnext, htrigger, hmakes⟩ := hstanding
  obtain ⟨request, hmade⟩ := exists_made hmakes
  have hpolls : ∀ request ∈ (overtaken.nextRequest clock).toOption,
      ((overtaken.ready request).fire run .poll).1.isNone = true ∧
        (overtaken.ready request).journal.filterMap Entry.took? = [] ∧
        ((overtaken.ready request).fire run .poll).2.journal.filterMap Entry.took? = [request] ∧
        Span.untimed? ((overtaken.ready request).fire run .poll).2.ackTimeout = none ∧
        ((overtaken.ready request).fire run .poll).2.coordinator.acknowledged = false := by
    decide +kernel
  obtain ⟨hreturns, hbefore, htook, htimed, hmark⟩ := hpolls request (by rw [hmade]; rfl)
  obtain ⟨during, hfires⟩ := exists_fires reachable_overtaken hstarted hnext hmade htrigger
    (Option.isNone_iff_eq_none.mp hreturns)
  rw [hfires.journal, List.filterMap_append, hbefore, List.nil_append] at htook
  exact ⟨request, _, during, hfires, Entry.mem_filterMap_took.mp (by simp [htook]), htimed, hmark⟩

/-- The handler warns there, so another request was armed in the meantime. -/
theorem handler_warns_iff_overtaken : ∃ request g during,
    Feed.Sample.overtaken.Fires request g during ∧ ∃ r reading, .armed r reading ∈ during := by
  obtain ⟨request, g, during, hfires, htook, htimed, hmark⟩ := Feed.Sample.fires_overtaken
  obtain ⟨-, hiff⟩ := handler_warns_iff _ Feed.Sample.reachable_overtaken hfires
  obtain ⟨-, huntaken | harmed⟩ := hiff.mp (hfires.warns_iff_unmarked.mpr ⟨htimed, hmark⟩)
  · exact absurd htook huntaken
  · exact ⟨request, g, during, hfires, harmed⟩

/-- **The warning is not always right**: it can be given although the request was taken. -/
theorem handler_not_truthful : ¬ ∀ (f : Feed) (request : Request) (g : Feed) (during : List Entry),
    Reachable f.toFeedState → f.Fires request g during →
      (f.Warns g ↔ .took request ∉ during) := by
  intro htruthful
  obtain ⟨request, g, during, hfires, htook, htimed, hmark⟩ := Feed.Sample.fires_overtaken
  have hwarns := hfires.warns_iff_unmarked.mpr ⟨htimed, hmark⟩
  exact (htruthful _ request g during Feed.Sample.reachable_overtaken hfires).mp hwarns htook

end MeterFeed
