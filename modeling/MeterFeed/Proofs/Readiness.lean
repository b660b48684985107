import MeterFeed.Proofs.CivilOrder
import MeterFeed.Proofs.Handling
import MeterFeed.Proofs.Phases
import MeterFeed.Proofs.Poll

/-!
# Ready for the next event

Whatever a feed went through, a coordinator that is started and runs no fetch takes the next event
and the next poll: the event closes the window that began with the last one, and the poll asks for
it (`serves_next_event`). What earlier failures could have spoilt is that a window begins
(`Reachable.nextStart_isSome`), that the coordinator is subscribed just once (`InStep.handlers`),
and that nobody holds the slot (`Reachable.unheld`).
-/

namespace MeterFeed

/-! ## The window that an event closes -/

namespace DateTime

/-- A time is the one of two with the later instant, and the first one if they are the same. -/
def IsLater (c a b : DateTime) : Prop :=
  ∃ i j, a.instant? = some i ∧ b.instant? = some j ∧ c = if i < j then b else a

/-- A time has an offset, and queries can show it. -/
def Showable (t : DateTime) : Prop :=
  t.offset.isSome ∧ ∃ text, ApiTime.text t = .ok text

theorem exists_later {a b : DateTime} (ha : a.offset.isSome) (hb : b.offset.isSome) :
    ∃ c, a.later b = .ok c ∧ c.IsLater a b := by
  obtain ⟨x, hx⟩ := Option.isSome_iff_exists.mp ha
  obtain ⟨y, hy⟩ := Option.isSome_iff_exists.mp hb
  have hi : a.instant? = some (a.ticks - x) := congrArg (Option.map _) hx
  have hj : b.instant? = some (b.ticks - y) := congrArg (Option.map _) hy
  have hbefore : a.isBefore b =
      .ok (decide ((a.ticks : Int) - x < b.ticks - y)) := by
    unfold isBefore orderKey
    rw [ha, hb, hi, hj]
    rfl
  unfold later
  rw [hbefore]
  by_cases hlt : (a.ticks : Int) - x < b.ticks - y
  · rw [decide_eq_true hlt]
    exact ⟨b, rfl, _, _, hi, hj, (if_pos hlt).symm⟩
  · rw [decide_eq_false hlt]
    exact ⟨a, rfl, _, _, hi, hj, (if_neg hlt).symm⟩

theorem IsLater.orderKey_le {a b c : DateTime} (h : c.IsLater a b) : b.orderKey ≤ c.orderKey := by
  obtain ⟨i, j, hi, hj, rfl⟩ := h
  split
  · exact Int.le_refl _
  · unfold orderKey
    rw [hi, hj]
    show j ≤ i
    omega

theorem IsLater.eq_or {a b c : DateTime} (h : c.IsLater a b) : c = a ∨ c = b := by
  obtain ⟨i, j, -, -, rfl⟩ := h
  split
  · exact .inr rfl
  · exact .inl rfl

/-- Between a time and the later one of it and a clock's lies a window, if both have an offset. -/
theorem exists_window {clock start : DateTime} (hclock : clock.offset.isSome)
    (hstart : start.offset.isSome) : ∃ window : Window, clock.later start = .ok window.finish ∧
      Window.make start window.finish = .ok window ∧ window.start = start ∧
      window.finish.IsLater clock start := by
  obtain ⟨finish, hlater, hfinish⟩ := exists_later hclock hstart
  have haware : finish.offset.isSome := by
    rcases hfinish.eq_or with rfl | rfl
    · exact hclock
    · exact hstart
  let window : Window := ⟨start, finish, ⟨hstart, haware⟩, hfinish.orderKey_le⟩
  refine ⟨window, hlater, ?_, rfl, hfinish⟩
  unfold Window.make
  rw [dif_pos window.aware, dif_pos window.ordered]

end DateTime

theorem Source.exists_url {source : Source} {window : Window} (hstart : window.start.Showable)
    (hfinish : window.finish.Showable) : ∃ url, source.url window = .ok url := by
  obtain ⟨-, start, hstart⟩ := hstart
  obtain ⟨-, finish, hfinish⟩ := hfinish
  unfold Source.url Query.url
  rw [hstart, hfinish]
  exact ⟨_, rfl⟩

theorem Feed.nextRequest_eq {f : Feed} {start : DateTime} {window : Window}
    (hlater : f.clock.later start = .ok window.finish)
    (hmade : Window.make start window.finish = .ok window) :
    f.nextRequest start = (f.source.url window).map fun url => ⟨url, window⟩ := by
  unfold nextRequest
  rw [hlater]
  show (Window.make start window.finish >>= _) = _
  rw [hmade]
  show (f.source.url window >>= _) = _
  cases f.source.url window <;> rfl

theorem Feed.exists_nextRequest {f : Feed} {start : DateTime} (hstart : start.Showable)
    (hclock : f.clock.Showable) : ∃ request, f.nextRequest start = .ok request ∧
      request.window.start = start ∧ request.window.finish.IsLater f.clock start ∧
      f.source.url request.window = .ok request.url := by
  obtain ⟨window, hlater, hmade, rfl, hfinish⟩ := DateTime.exists_window hclock.1 hstart.1
  have hshown : window.finish.Showable := by
    rcases hfinish.eq_or with h | h
    all_goals rw [h]; assumption
  obtain ⟨url, hurl⟩ : ∃ url, f.source.url window = .ok url :=
    f.source.exists_url hstart hshown
  exact ⟨⟨url, window⟩, by rw [nextRequest_eq hlater hmade, hurl]; rfl, rfl, hfinish, hurl⟩

/-! ## What earlier failures leave alone -/

theorem Turn.nextStart_isSome {s t : FeedState} (turn : Turn s t)
    (h : s.coordinator.started = true → s.coordinator.nextStart.isSome = true) :
    t.coordinator.started = true → t.coordinator.nextStart.isSome = true := by
  cases turn with
  | still _ coordinator | skipped _ _ coordinator | asked _ _ _ _ coordinator
  | idled _ _ coordinator | concluded _ _ coordinator => rw [coordinator]; exact h
  | opened _ _ _ coordinator | armed _ _ _ _ _ _ _ _ _ coordinator =>
    rw [coordinator]
    exact fun _ => rfl
  | closed _ coordinator =>
    rw [coordinator]
    exact fun hstarted => nomatch hstarted

theorem Reachable.nextStart_isSome {s : FeedState} (h : Reachable s) :
    s.coordinator.started = true → s.coordinator.nextStart.isSome = true :=
  h.keeps (fun _ _ _ _ _ _ hstarted => nomatch hstarted) fun _ _ act => act.turn.nextStart_isSome

/-! ## An event and a poll -/

/-- A command hands the end of a measurement cycle on, with a payload that nobody refuses. -/
def Command.Signals : Command → Prop
  | .publish names => Feed.checkPayload [.bus] names = .ok ()
  | .announce names => Feed.checkPayload [.host, .bus] names = .ok ()
  | .notify names => Feed.checkPayload [.coordinator] names = .ok ()
  | _ => False

/-- A command polls, into the accumulator or into the sink. -/
def Command.Polls : Command → Prop
  | .poll _ | .pollOnce => True
  | _ => False

namespace Feed

variable {f : Feed} {request : Request} {command : Command}

theorem perform_of_signals (h : Reachable f.toFeedState) (started : f.coordinator.started = true)
    (hevent : command.Signals) : (perform command f).2 = f.notify run := by
  have hhandlers : f.bus.handlers cycleFinished = [.coordinator] := by
    rw [h.inStep.handlers, started]
    rfl
  have hpublish : f.publish run = (1, f.notify run) := by
    unfold publish
    rw [hhandlers]
    rfl
  have hobey : perform command f = obey run command f := perform_eq command f
  rw [hobey]
  cases command with
  | publish names | announce names =>
    dsimp only [obey, publishWith]
    rw [show checkPayload _ names = .ok () from hevent, hpublish]
    rfl
  | notify names =>
    dsimp only [obey, notifyWith]
    rw [show checkPayload _ names = .ok () from hevent]
    rfl
  | _ => exact hevent.elim

/-- A polling command does to the coordinator what its poll does, and asks for nothing besides. -/
theorem perform_of_polls (hclock : f.clock.Showable) (hpoll : command.Polls) :
    ∃ time after, (perform command f).2.coordinator = (f.poll run time).2.coordinator ∧
      (perform command f).2.journal = (f.poll run time).2.journal ++ after ∧
      after.filterMap Entry.requested? = [] := by
  have hobey : perform command f = obey run command f := perform_eq command f
  rw [hobey]
  cases command with
  | poll time => exact ⟨time, [], rfl, (List.append_nil _).symm, rfl⟩
  | pollOnce =>
    obtain ⟨now, hnow⟩ : ∃ now, f.clock.toUtc = .ok now := by
      obtain ⟨-, text, htext⟩ := hclock
      cases hnow : f.clock.toUtc with
      | ok now => exact ⟨now, rfl⟩
      | error fault =>
        unfold ApiTime.text DateTime.atOffset at htext
        rw [hnow] at htext
        cases htext
    refine ⟨some now, ?_⟩
    dsimp only [obey, pollOnce]
    rw [hnow]
    dsimp only
    rcases f.poll run (some now) with ⟨⟨points, (e | fault) | count⟩, g⟩
    · exact ⟨[.pollFailed e], rfl, rfl, rfl⟩
    · exact ⟨[], rfl, (List.append_nil _).symm, rfl⟩
    · exact ⟨[], rfl, (List.append_nil _).symm, rfl⟩
  | _ => exact hpoll.elim

theorem nextStart_poll (free : f.coordinator.fetching = false)
    (unheld : f.coordinator.slot.held = false) (waits : f.coordinator.slot.item = some request)
    (unkept : f.kept = none) (inside : Inside) (time : Option DateTime) :
    (f.poll inside time).2.coordinator.nextStart = f.coordinator.nextStart := by
  obtain ⟨phase, journal, hbegun⟩ : ∃ phase journal, f.begun request = { f with
      coordinator := { f.coordinator with
        phase
        slot := { f.coordinator.slot with item := none }
        fetching := true
        acknowledged := true }
      journal } := by
    obtain ⟨phase, journal, hask⟩ := reports_ask request _
    exact ⟨phase, journal, hask⟩
  have hkept : (f.begun request).kept = none := by
    rw [hbegun]
    exact unkept
  obtain ⟨phase', journal', hconclude⟩ :=
    reports_conclude request (time.getD f.clock) (f.begun request)
  rw [poll_of_waiting free unheld waits, runKept_of_none inside hkept]
  show (((f.begun request).conclude request _).2.settle).coordinator.nextStart = _
  rw [coordinator_settle, hconclude, hbegun]

/-- What an event and a poll after it come to, if a window has begun at a time: the session is asked
once, for the window from that time to the later one of it and the clock's time, and there the next
window begins. -/
structure Serves (start : DateTime) (f g : Feed) (request : Request) : Prop where
  starts : request.window.start = start
  ends : request.window.finish.IsLater f.clock start
  written : f.source.url request.window = .ok request.url
  asked : ∃ during, g.journal = f.journal ++ during ∧
    during.filterMap Entry.requested? = [request.url]
  next : g.coordinator.nextStart = some request.window.finish

end Feed

/-- **The next event is served.** In every reachable state in which the coordinator is started, no
fetch is running and no commands are kept, with a trigger that leaves polling to others: a window
has begun, and if queries can show its start and the clock's time, then an event and a poll after it
fetch that window. -/
theorem serves_next_event (f : Feed) (h : Reachable f.toFeedState)
    (started : f.coordinator.started = true) (free : f.coordinator.fetching = false)
    (unkept : f.kept = none) (patient : f.Patient) :
    ∃ start, f.coordinator.nextStart = some start ∧
      (start.Showable → f.clock.Showable → ∀ event poll : Command, event.Signals → poll.Polls →
        ∃ request, f.Serves start (f.run [event, poll]).2 request) := by
  obtain ⟨start, next⟩ := Option.isSome_iff_exists.mp (h.nextStart_isSome started)
  refine ⟨start, next, fun hstart hclock event poll hevent hpoll => ?_⟩
  obtain ⟨request, made, hstarts, hends, hwritten⟩ := Feed.exists_nextRequest hstart hclock
  let g := f.notify Feed.run
  have hevents : (Feed.perform event f).2 = g := Feed.perform_of_signals h started hevent
  have hreachable : Reachable g.toFeedState := h.trans (Feed.runs_notify Feed.sound_run f).path
  obtain ⟨⟨journal, hg⟩, hadds⟩ := Feed.notify_of_patient Feed.run patient started next made
  have hcoordinator : g.coordinator.fetching = false ∧
      g.coordinator.slot.item = some request ∧ g.kept = none ∧ g.clock = f.clock ∧
      g.coordinator.nextStart = some request.window.finish := by
    rw [show g = _ from hg]
    exact ⟨free, rfl, unkept, rfl, rfl⟩
  obtain ⟨hfree, hwaits, hkept, hsame, hnext⟩ := hcoordinator
  have ⟨before, hbefore, _⟩ := hadds
  have hunasked : before.filterMap Entry.requested? = [] := by
    rw [hadds.filterMap hbefore Entry.requested?_of_not_turn]
    exact Ledger.filterMap_displaced (fun _ => rfl) _
  obtain ⟨time, after, hpolls, hjournal, hafter⟩ :=
    Feed.perform_of_polls (f := g) (hsame ▸ hclock) hpoll
  obtain ⟨during, hfetches⟩ := Feed.fetches_poll hreachable hfree hwaits time
  have hrun : (f.run [event, poll]).2 = (Feed.perform poll g).2 := by
    rw [← hevents]
    rfl
  refine ⟨request, hstarts, hends, hwritten, ⟨before ++ during ++ after, ?_, ?_⟩, ?_⟩
  · rw [hrun, hjournal, hfetches.journal, hbefore]
    simp only [List.append_assoc]
  · rw [List.filterMap_append, List.filterMap_append, hunasked, hfetches.requested, hafter]
    rfl
  · rw [hrun, hpolls, Feed.nextStart_poll hfree hreachable.unheld hwaits hkept]
    exact hnext

/-- A session that failed, a start of a coordinator that is started, and a clock that moved on. -/
def Feed.Sample.mishaps : List Command :=
  [.start, .publish [], .poll none, .start, .notify [], .advance 1000000]

/-- After that the next event is served. -/
theorem serves_next_event_after_mishaps :
    let f := (Feed.Sample.feed.run Feed.Sample.mishaps).2
    ∃ request, Feed.Serves Feed.Sample.clock f (f.run [.publish [], .poll none]).2 request := by
  intro f
  have hreachable : Reachable f.toFeedState := Feed.Sample.reachable_run_feed _
  have hstanding : f.coordinator.started = true ∧ f.coordinator.fetching = false ∧
      f.kept.isNone = true ∧ f.trigger = none ∧ f.coordinator.nextStart = some Feed.Sample.clock ∧
      f.clock = ⟨63888703201000000, some 0, by decide⟩ := by
    decide +kernel
  obtain ⟨hstarted, hfree, hkept, htrigger, hnext, hclock⟩ := hstanding
  have hshown : Feed.Sample.clock.Showable ∧ f.clock.Showable := by
    rw [hclock]
    exact ⟨⟨rfl, "2025-07-21T16:00:00", by decide +kernel⟩,
      ⟨rfl, "2025-07-21T16:00:01", by decide +kernel⟩⟩
  obtain ⟨start, hstart, hserves⟩ := serves_next_event f hreachable hstarted hfree
    (Option.isNone_iff_eq_none.mp hkept) (.inl htrigger)
  obtain rfl : Feed.Sample.clock = start := Option.some.inj (hnext.symm.trans hstart)
  exact hserves hshown.1 hshown.2 (.publish []) (.poll none) rfl trivial

end MeterFeed
