import MeterFeed.Proofs.Emission
import MeterFeed.Proofs.Poll

/-!
# A cycle from end to end

A poll that finds a request takes it, asks the session for its URL once, and makes of the answer what
the table of answers says (`Outcome`), with the mapper that the source has when the session answers.
There is one, since a request is armed only after a start (`Reachable.mapper_isSome`). The points go
to the end of the accumulator, all of them or none (`cycle_whole`).

The answer of the session and the accumulator are surroundings of the coordinator, so a state stays
reachable when they are exchanged.
-/

namespace MeterFeed

/-! ## A request waits for a source that is registered -/

theorem Turn.mapper_isSome {s t : FeedState} (turn : Turn s t)
    (h : s.source.mapper.isSome = true) : t.source.mapper.isSome = true := by
  cases turn with
  | opened _ _ source =>
    rw [source]
    rfl
  | still source | skipped _ source | closed source | armed _ _ _ _ _ _ _ _ source
  | asked _ _ _ source | idled _ source | concluded _ source => rw [source]; exact h

theorem Path.mapper_isSome {s t : FeedState} (hpath : Path s t)
    (h : s.source.mapper.isSome = true) : t.source.mapper.isSome = true :=
  hpath.keeps (fun _ _ act => act.turn.mapper_isSome) h

/-- The source has a mapper, or nothing was ever armed and no window opened. -/
def Registered (s : FeedState) : Prop :=
  s.source.mapper.isSome = true ∨ (s.coordinator.nextStart = none ∧ s.coordinator.slot.item = none)

theorem Registered.keeps {s t : FeedState} (turn : Turn s t) (h : Registered s) :
    Registered t := by
  rcases h with hmapper | ⟨hnext, hitem⟩
  · exact .inl (turn.mapper_isSome hmapper)
  · cases turn with
    | still _ coordinator | skipped _ _ coordinator | closed _ coordinator
    | idled _ _ coordinator | concluded _ _ coordinator =>
      exact .inr (by rw [coordinator]; exact ⟨hnext, hitem⟩)
    | opened _ _ source =>
      refine .inl ?_
      rw [source]
      rfl
    | armed _ _ _ _ opens =>
      rw [hnext] at opens
      cases opens
    | asked _ _ waits =>
      rw [hitem] at waits
      cases waits

theorem Reachable.mapper_isSome {s : FeedState} {request : Request} (h : Reachable s)
    (waits : s.coordinator.slot.item = some request) : s.source.mapper.isSome = true := by
  have hregistered : Registered s :=
    h.keeps (fun _ _ _ _ _ _ => .inr ⟨rfl, rfl⟩) fun _ _ act => Registered.keeps act.turn
  rcases hregistered with hmapper | ⟨-, hitem⟩
  · exact hmapper
  · rw [hitem] at waits
    cases waits

/-! ## From the take to the last point -/

namespace Feed

variable {f : Feed} {request : Request}

/-- The feed when the session answers to a poll for a request, after whatever ran in the meantime. -/
def answered (request : Request) (f : Feed) : Feed :=
  (f.begun request).runKept run

theorem path_answered (h : Reachable f.toFeedState) (free : f.coordinator.fetching = false)
    (waits : f.coordinator.slot.item = some request) :
    Path f.toFeedState (f.answered request).toFeedState :=
  .head (act_begun free h.unheld waits) (runs_runKept sound_run _ fetching_begun).path

/-- What a poll for a request comes to, and where its points go. -/
structure Cycle (request : Request) (time : Option DateTime) (f : Feed) : Prop where
  /-- The outcome follows the table of answers, and the points end up after those that are there. -/
  outcome : ∃ mapper polled,
    (f.answered request).source.mapper = some mapper ∧
    Outcome request.url mapper (time.getD f.clock) (f.answered request).session polled ∧
    (f.pollInto run time).1 = polled.result ∧
    (f.pollInto run time).2.accumulator = (f.answered request).accumulator.append polled.points
  /-- A poll that does not deliver leaves the accumulator as it was when the session answered. -/
  whole : (f.pollInto run time).2.accumulator = (f.answered request).accumulator ∨
    ∃ points, (f.pollInto run time).2.accumulator = (f.answered request).accumulator.append points ∧
      (f.pollInto run time).1 = .ok points.length
  /-- The session is asked for the URL of the request once, and the request is taken. -/
  fetches : ∃ during, Fetches request f.toFeedState (f.pollInto run time).2.toFeedState during

theorem accumulator_settle_conclude (request : Request) (time : DateTime) (f : Feed) :
    (f.conclude request time).2.settle.accumulator = f.accumulator := by
  obtain ⟨phase, journal, hconclude⟩ := reports_conclude request time f
  obtain ⟨phase', journal', hsettle⟩ :=
    reports_enter (restingPhase (f.conclude request time).2.coordinator)
      ((f.conclude request time).2.setFetching false)
  have hends : (f.conclude request time).2.settle = _ := hsettle
  rw [hends, hconclude]
  rfl

theorem cycle_of_waiting (h : Reachable f.toFeedState) (free : f.coordinator.fetching = false)
    (waits : f.coordinator.slot.item = some request) (time : Option DateTime) :
    f.Cycle request time := by
  have hpath := path_answered h free waits
  obtain ⟨mapper, hmapper⟩ :=
    Option.isSome_iff_exists.mp (hpath.mapper_isSome (h.mapper_isSome waits))
  let ended := (f.answered request).conclude request (time.getD f.clock)
  have hpoll : f.poll run time = (ended.1, ended.2.settle) :=
    poll_of_waiting free h.unheld waits
  have houtcome : Outcome request.url mapper (time.getD f.clock) (f.answered request).session
      ended.1 := outcome_conclude hmapper
  have hresult : (f.pollInto run time).1 = ended.1.result := by
    unfold pollInto
    rw [hpoll]
  have haccumulator : (f.pollInto run time).2.accumulator =
      (f.answered request).accumulator.append ended.1.points := by
    unfold pollInto
    rw [hpoll]
    dsimp only
    rw [accumulator_settle_conclude]
  refine ⟨⟨mapper, ended.1, hmapper, houtcome, hresult, haccumulator⟩, ?_, ?_⟩
  · rcases houtcome.all_or_nothing with hnone | hall
    · rw [hnone, Accumulator.append_nil] at haccumulator
      exact .inl haccumulator
    · exact .inr ⟨_, haccumulator, hresult.trans hall⟩
  · obtain ⟨during, hfetches⟩ := fetches_poll h free waits time
    exact ⟨during, hfetches.journal, hfetches.requested, hfetches.took, hfetches.waits⟩

end Feed

/-- **A cycle is whole.** In every reachable state in which a request waits and no fetch is running,
whatever the session answers and whatever the accumulator holds, a poll takes the request, asks the
session for its URL and for nothing else, and makes of the answer what the table of answers says: an
error of the fetch, a fault, no points, or all points of the batch. -/
theorem cycle_whole (f : Feed) (h : Reachable f.toFeedState)
    (free : f.coordinator.fetching = false) (request : Request)
    (waits : f.coordinator.slot.item = some request) (session : SessionAnswer)
    (accumulator : Accumulator Point) (time : Option DateTime) :
    Feed.Cycle request time { f with session, accumulator } := by
  let g : Feed := { f with session, accumulator }
  have hreachable : Reachable g.toFeedState := h.trans (.single (.around ⟨rfl, rfl, rfl, rfl⟩))
  exact Feed.cycle_of_waiting hreachable free waits time

open Feed.Sample in
/-- The request of the first event is answered with two measures, of which the second one is dropped
since its metric is not registered. The point of the first one goes behind the point that is
there. -/
theorem cycle_whole_sample : ∃ (f : Feed) (request : Request),
    f.coordinator.slot.item = some request ∧ Feed.Cycle request none f ∧
      f.session = answer [measure "power" 131, measure "load" 2] ∧
      f.accumulator = ⟨[point 7]⟩ ∧ (f.pollInto Feed.run none).1 = .ok 1 ∧
      (f.pollInto Feed.run none).2.accumulator = ⟨[point 7, point 131]⟩ := by
  let f := (feed.run [.start, .publish []]).2
  let session := answer [measure "power" 131, measure "load" 2]
  let accumulator : Accumulator Point := ⟨[point 7]⟩
  have hreachable : Reachable f.toFeedState := reachable_run_feed _
  have hstanding : f.coordinator.fetching = false ∧ f.coordinator.slot.item.isSome = true := by
    decide +kernel
  obtain ⟨request, hwaits⟩ := Option.isSome_iff_exists.mp hstanding.2
  have hpoll :
      let ended := Feed.pollInto Feed.run none { f with session, accumulator }
      ended.1.toOption = some 1 ∧ ended.2.accumulator = ⟨[point 7, point 131]⟩ := by
    decide +kernel
  exact ⟨{ f with session, accumulator }, request, hwaits,
    cycle_whole f hreachable hstanding.1 request hwaits session accumulator none, rfl, rfl,
    toOption_eq_some_iff.mp hpoll.1, hpoll.2⟩

end MeterFeed
