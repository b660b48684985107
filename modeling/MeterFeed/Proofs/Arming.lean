import MeterFeed.Proofs.Readiness

/-!
# Arming is all or nothing

Handling an event returns, whatever the clock shows and whatever the trigger does, and it comes to
one of two things. Either the event is barred (`Barred`): then one note is all that happens, and the
trigger is not fired. Or a request is armed with everything that belongs to it (`Feed.Arms`), and
the trigger is fired only then; should it fail before anybody polls, the request still waits
(`Feed.coordinator_fire`).

An event that a coordinator waits for is barred if the window cannot be asked for. `Unclosed` lists
why that can be, and `Feed.nextRequest_eq_error_iff` says that making the request fails for these
reasons and no other ones.
-/

namespace MeterFeed

/-! ## Times in the range of queries -/

namespace DateTime

variable {t : DateTime}

/-- The time lies in the years 1 to 9999, in UTC and in the civil time of queries. -/
def InRange (t : DateTime) : Prop :=
  ∃ i, t.instant? = some i ∧ 0 ≤ i ∧ i + ApiTime.offset < clockSpan

theorem exists_ofTicks? (ticks : Int) (offset : Option Int) (h : 0 ≤ ticks ∧ ticks < clockSpan) :
    ∃ t, ofTicks? ticks offset = some t ∧ (t.ticks : Int) = ticks := by
  unfold ofTicks?
  rw [dif_pos h]
  exact ⟨_, rfl, Int.toNat_of_nonneg h.1⟩

theorem atOffset_of_inRange (h : t.InRange) : ∃ civil, t.atOffset ApiTime.offset = .ok civil := by
  obtain ⟨i, hi, hfrom, hto⟩ := h
  have hoffset : ApiTime.offset = 7200000000 := rfl
  obtain ⟨utc, hutc, -⟩ := exists_ofTicks? i (some 0) ⟨hfrom, by omega⟩
  obtain ⟨civil, hcivil, -⟩ := exists_ofTicks? (i + ApiTime.offset) (some ApiTime.offset)
    ⟨by omega, hto⟩
  refine ⟨civil, ?_⟩
  rw [atOffset_eq hi, hutc, Option.bind_some, hcivil]

theorem atOffset_of_not_inRange (aware : t.offset.isSome) (h : ¬ t.InRange) :
    t.atOffset ApiTime.offset = .error .dateOutOfRange := by
  obtain ⟨offset, hoffset⟩ := Option.isSome_iff_exists.mp aware
  obtain ⟨i, hi⟩ : ∃ i, t.instant? = some i := ⟨_, congrArg (Option.map _) hoffset⟩
  have hnone : ((ofTicks? i (some 0)).bind fun _ =>
      ofTicks? (i + ApiTime.offset) (some ApiTime.offset)) = none := by
    refine Option.bind_eq_none_iff.mpr fun utc hutc => dif_neg fun hshown => h ⟨i, hi, ?_, hshown.2⟩
    rw [← (ofTicks?_eq_some hutc).1]
    exact Int.natCast_nonneg _
  rw [atOffset_eq hi, hnone]

theorem showable_iff : t.Showable ↔ t.InRange := by
  constructor
  · rintro ⟨aware, text, htext⟩
    by_contra hrange
    unfold ApiTime.text at htext
    rw [atOffset_of_not_inRange aware hrange] at htext
    cases htext
  · intro h
    obtain ⟨civil, hcivil⟩ := atOffset_of_inRange h
    obtain ⟨i, hi, -⟩ := h
    obtain ⟨offset, hoffset, -⟩ := Option.map_eq_some_iff.mp hi
    refine ⟨Option.isSome_of_eq_some hoffset, String.ofList (ApiTime.write civil), ?_⟩
    unfold ApiTime.text
    rw [hcivil]

theorem text_of_not_inRange (aware : t.offset.isSome) (h : ¬ t.InRange) :
    ApiTime.text t = .error .dateOutOfRange := by
  unfold ApiTime.text
  rw [atOffset_of_not_inRange aware h]

end DateTime

/-! ## Windows that cannot be asked for -/

/-- Why no window from a start to the time of a clock can be asked for. -/
inductive Unclosed (start clock : DateTime) : Fault → Prop where
  /-- One of the two times has an offset and the other one has none. -/
  | mixed (differ : start.offset.isSome ≠ clock.offset.isSome) : Unclosed start clock .mixedTimes
  | naive (start_naive : start.offset = none) (clock_naive : clock.offset = none) :
    Unclosed start clock .naiveWindow
  /-- One of the ends of the window is not in the range of queries. -/
  | outOfRange (finish : DateTime) (ends : finish.IsLater clock start)
    (out : ¬ (start.InRange ∧ finish.InRange)) : Unclosed start clock .dateOutOfRange

/-- The request for the window from a start to the time of a clock, or to the start if that is
later. -/
structure Closes (source : Source) (start clock : DateTime) (request : Request) : Prop where
  starts : request.window.start = start
  ends : request.window.finish.IsLater clock start
  shown : request.window.start.InRange ∧ request.window.finish.InRange
  written : source.url request.window = .ok request.url

theorem DateTime.IsLater.aware {a b c : DateTime} (h : c.IsLater a b) :
    a.offset.isSome ∧ b.offset.isSome := by
  obtain ⟨i, j, hi, hj, -⟩ := h
  obtain ⟨x, hx, -⟩ := Option.map_eq_some_iff.mp hi
  obtain ⟨y, hy, -⟩ := Option.map_eq_some_iff.mp hj
  exact ⟨Option.isSome_of_eq_some hx, Option.isSome_of_eq_some hy⟩

theorem DateTime.IsLater.unique {a b c d : DateTime} (hc : c.IsLater a b) (hd : d.IsLater a b) :
    c = d := by
  obtain ⟨i, j, hi, hj, rfl⟩ := hc
  obtain ⟨i', j', hi', hj', rfl⟩ := hd
  obtain rfl : i = i' := Option.some.inj (hi.symm.trans hi')
  obtain rfl : j = j' := Option.some.inj (hj.symm.trans hj')
  rfl

theorem Source.url_of_not_inRange {source : Source} {window : Window}
    (h : ¬ (window.start.InRange ∧ window.finish.InRange)) :
    source.url window = .error .dateOutOfRange := by
  unfold Source.url Query.url
  dsimp only
  by_cases hstart : window.start.InRange
  · obtain ⟨-, text, htext⟩ := DateTime.showable_iff.mpr hstart
    rw [htext, DateTime.text_of_not_inRange window.aware.2 fun hfinish => h ⟨hstart, hfinish⟩]
  · rw [DateTime.text_of_not_inRange window.aware.1 hstart]

namespace Feed

variable {f : Feed} {start : DateTime} {request : Request} {fault : Fault}

theorem nextRequest_of_unclosed (h : Unclosed start f.clock fault) :
    f.nextRequest start = .error fault := by
  cases h with
  | mixed differ =>
    have hlater : f.clock.later start = .error .mixedTimes := by
      unfold DateTime.later DateTime.isBefore
      rw [if_neg fun hsame => differ (eq_of_beq hsame).symm]
    unfold nextRequest
    rw [hlater]
    rfl
  | naive start_naive clock_naive =>
    obtain ⟨finish, hlater⟩ : ∃ finish, f.clock.later start = .ok finish := by
      unfold DateTime.later DateTime.isBefore
      rw [start_naive, clock_naive]
      cases decide (f.clock.orderKey < start.orderKey) with
      | true => exact ⟨_, rfl⟩
      | false => exact ⟨_, rfl⟩
    have hnaive : Window.make start finish = .error .naiveWindow := by
      unfold Window.make
      rw [dif_neg fun aware => by simp [start_naive] at aware]
    unfold nextRequest
    rw [hlater]
    show (Window.make start finish >>= _) = _
    rw [hnaive]
    rfl
  | outOfRange finish ends out =>
    obtain ⟨hclock, hstart⟩ := ends.aware
    obtain ⟨window, hlater, hmade, rfl, hfinish⟩ := DateTime.exists_window hclock hstart
    obtain rfl := ends.unique hfinish
    rw [nextRequest_eq hlater hmade, Source.url_of_not_inRange out]
    rfl

/-- A window is asked for, unless there is a reason why it cannot be. -/
theorem closes_or_unclosed (start : DateTime) (f : Feed) :
    (∃ request, f.nextRequest start = .ok request ∧ Closes f.source start f.clock request) ∨
      ∃ fault, Unclosed start f.clock fault := by
  rcases hstart : start.offset with _ | x <;> rcases hclock : f.clock.offset with _ | y
  · exact .inr ⟨_, .naive hstart hclock⟩
  · exact .inr ⟨_, .mixed (by simp [hstart, hclock])⟩
  · exact .inr ⟨_, .mixed (by simp [hstart, hclock])⟩
  · obtain ⟨window, hlater, hmade, hbegins, hfinish⟩ := DateTime.exists_window
      (Option.isSome_of_eq_some hclock) (Option.isSome_of_eq_some hstart)
    by_cases hshown : window.start.InRange ∧ window.finish.InRange
    · have hfrom := DateTime.showable_iff.mpr hshown.1
      have hto := DateTime.showable_iff.mpr hshown.2
      obtain ⟨url, hurl⟩ : ∃ url, f.source.url window = .ok url := f.source.exists_url hfrom hto
      refine .inl ⟨⟨url, window⟩, ?_, hbegins, hfinish, hshown, hurl⟩
      rw [nextRequest_eq hlater hmade, hurl]
      rfl
    · exact .inr ⟨_, .outOfRange _ hfinish (hbegins ▸ hshown)⟩

/-- **Making a request fails for the listed reasons only.** -/
theorem nextRequest_eq_error_iff : f.nextRequest start = .error fault ↔
    Unclosed start f.clock fault := by
  refine ⟨fun h => ?_, nextRequest_of_unclosed⟩
  rcases closes_or_unclosed start f with ⟨request, hmade, -⟩ | ⟨fault', hunclosed⟩
  · cases h.symm.trans hmade
  · obtain rfl : fault = fault' :=
      Except.error.inj (h.symm.trans (nextRequest_of_unclosed hunclosed))
    exact hunclosed

end Feed

/-! ## Events that arm nothing -/

/-- Why an event arms no request, and what is told of it. -/
inductive Barred (c : Coordinator) (clock : DateTime) : Entry → Prop where
  | idle (h : c.started = false ∨ c.nextStart = none) : Barred c clock .ignored
  | unclosed (start : DateTime) (fault : Fault) (started : c.started = true)
    (next : c.nextStart = some start) (h : Unclosed start clock fault) :
    Barred c clock (.handlerFailed fault.message)

namespace Feed

variable {f : Feed} {inside : Inside}

theorem notify_of_barred {e : Entry} (h : Barred f.coordinator f.clock e) :
    f.notify inside = f.note e := by
  unfold notify
  cases h with
  | idle h =>
    split
    · rename_i hnext hstarted
      simp [hnext, hstarted] at h
    · rfl
  | unclosed start fault started next h =>
    rw [next, started]
    dsimp only
    rw [nextRequest_eq_error_iff.mpr h]
    rfl

end Feed

/-! ## Triggers -/

namespace Feed

variable {f g : Feed} {inside : Inside}

/-- Nothing happens but what no turn of the coordinator tells of. -/
structure Stands (f g : Feed) : Prop where
  path : Path f.toFeedState g.toFeedState
  coordinator : g.coordinator = f.coordinator
  adds : Adds [] f.toFeedState g.toFeedState

namespace Stands

theorem refl (f : Feed) : f.Stands f :=
  ⟨.refl, rfl, .of_journal_eq rfl⟩

theorem note (f : Feed) (e : Entry) (h : e.isReport = true) : f.Stands (f.note e) :=
  ⟨.single (.noted f e h), rfl, .quiet (.note e f h)⟩

theorem schedule (f : Feed) (call : SchedulerCall) : f.Stands (f.schedule call) :=
  ⟨.single (.scheduled f call), rfl, .note (.scheduler call) f⟩

theorem trans {h : Feed} (hfg : f.Stands g) (hgh : g.Stands h) : f.Stands h :=
  ⟨hfg.path.trans hgh.path, hgh.coordinator.trans hfg.coordinator, hfg.adds.trans hgh.adds⟩

theorem around (h : Around f.toFeedState g.toFeedState) : f.Stands g :=
  ⟨.single (.around h), h.coordinator, .of_journal_eq h.journal⟩

/-- What stands before and after a poll adds no turn to those of the poll. -/
theorem adds_between {g' f' : Feed} {es : List Entry} (hbefore : f.Stands g)
    (hadds : Adds es g.toFeedState g'.toFeedState) (hafter : g'.Stands f') :
    Adds es f.toFeedState f'.toFeedState := by
  have htold := (hbefore.adds.trans hadds).trans hafter.adds
  rwa [List.nil_append, List.append_nil] at htold

end Stands

theorem pollOnce_cases (inside : Inside) (f : Feed) :
    f.Stands (f.pollOnce inside).2 ∨
      ∃ time, Stands (f.poll inside time).2 (f.pollOnce inside).2 := by
  unfold pollOnce
  cases f.clock.toUtc with
  | error fault => exact .inl (.refl f)
  | ok now =>
    refine .inr ⟨some now, ?_⟩
    dsimp only
    rcases f.poll inside (some now) with ⟨⟨points, (e | fault) | count⟩, g⟩
    · exact .note g (.pollFailed e) rfl
    · exact .refl g
    · exact .around ⟨rfl, rfl, rfl, rfl⟩

theorem runJobNow_cases (inside : Inside) (f : Feed) :
    f.Stands (f.runJobNow inside).2 ∨ ∃ g time, f.Stands g ∧
      Stands (g.poll inside time).2 (f.runJobNow inside).2 := by
  unfold runJobNow
  cases f.clock.toUtc with
  | error fault => exact .inl (.refl f)
  | ok now =>
    have hcall : f.Stands (f.schedule (.runAt now)) := .schedule f (.runAt now)
    have hjob := pollOnce_cases inside (f.schedule (.runAt now))
    dsimp only
    split
    · exact .inl hcall
    · split
      · exact .inl hcall
      · split
        all_goals
          rename_i hpolled
          rw [hpolled] at hjob
          rcases hjob with hstands | ⟨time, hpoll⟩
          · exact .inl (hcall.trans hstands)
          · exact .inr ⟨_, time, hcall, hpoll⟩

/-- **A trigger polls once or not at all**, and does nothing else to the coordinator. -/
theorem fire_cases (inside : Inside) (trigger : Trigger) (f : Feed) :
    f.Stands (f.fire inside trigger).2 ∨ ∃ g time, f.Stands g ∧
      Stands (g.poll inside time).2 (f.fire inside trigger).2 := by
  cases trigger with
  | noop | fail => exact .inl (.refl f)
  | schedule => exact runJobNow_cases inside f
  | poll =>
    refine .inr ⟨f, none, .refl f, ?_⟩
    have hsame : Stands (f.poll inside none).2 (f.pollInto inside none).2 :=
      .around ⟨rfl, rfl, rfl, rfl⟩
    unfold fire
    dsimp only
    split
    all_goals
      rename_i hpolled
      rw [hpolled] at hsame
      exact hsame

end Feed

/-- True of the entries of which every poll tells one. -/
def Entry.isPoll : Entry → Bool
  | .inFlight | .nothingPending | .took _ => true
  | _ => false

/-- From one state to another somebody polls. -/
def Polls (s t : FeedState) : Prop :=
  ∃ es, Adds es s t ∧ ∃ e ∈ es, e.isPoll = true

theorem Polls.irrefl (s : FeedState) : ¬ Polls s s := by
  rintro ⟨es, ⟨entries, hentries, rfl⟩, e, he, -⟩
  obtain rfl : entries = [] := List.self_eq_append_right.mp hentries
  cases he

namespace Feed

variable {f : Feed} {request : Request}

theorem polls_poll (h : Reachable f.toFeedState) (time : Option DateTime) :
    Polls f.toFeedState (f.poll run time).2.toFeedState := by
  cases hfetching : f.coordinator.fetching with
  | true =>
    rw [poll_of_busy hfetching]
    exact ⟨_, .note .inFlight f, .inFlight, List.mem_cons_self, rfl⟩
  | false =>
    cases hitem : f.coordinator.slot.item with
    | none =>
      obtain ⟨-, hadds⟩ := adds_poll_of_nothing run time hfetching hitem
      exact ⟨_, hadds, .nothingPending, List.mem_cons_self, rfl⟩
    | some request =>
      obtain ⟨asides, -, hadds⟩ := adds_poll_of_waiting sound_run time hfetching h.unheld hitem
      exact ⟨_, hadds, .took request, List.mem_cons_self, rfl⟩

theorem coordinator_fire (h : Reachable f.toFeedState) (trigger : Trigger) :
    (f.fire run trigger).2.coordinator = f.coordinator ∨
      Polls f.toFeedState (f.fire run trigger).2.toFeedState := by
  rcases fire_cases run trigger f with hstands | ⟨g, time, hbefore, hafter⟩
  · exact .inl hstands.coordinator
  · obtain ⟨es, hadds, e, he, hpoll⟩ := polls_poll (h.trans hbefore.path) time
    exact .inr ⟨es, hbefore.adds_between hadds hafter, e, he, hpoll⟩

/-! ## Events that arm a request -/

/-- A request has been armed: it is in the slot, the next window begins where its own ends, it is
not acknowledged, and nothing else has changed but what is told. -/
structure Arms (f : Feed) (request : Request) (armed : Feed) : Prop where
  changed : ∃ journal, armed = { f with
    coordinator := { f.coordinator with
      phase := .fetching
      slot := (f.coordinator.slot.offer request).2
      nextStart := some request.window.finish
      acknowledged := false }
    journal }
  told : Adds (.armed request f.clock :: f.coordinator.slot.waiting.map .displaced) f.toFeedState
    armed.toFeedState

/-- The feed in which a request is armed and the trigger is still to be fired. -/
def ready (request : Request) (f : Feed) : Feed :=
  (f.arm request).2.noteDisplaced (f.arm request).1

theorem arms_ready (request : Request) (f : Feed) : f.Arms request (f.ready request) :=
  ⟨armed_eq request f, adds_armed request f⟩

theorem reachable_ready (h : Reachable f.toFeedState) {start : DateTime}
    (started : f.coordinator.started = true) (next : f.coordinator.nextStart = some start)
    (made : f.nextRequest start = .ok request) : Reachable (f.ready request).toFeedState :=
  h.trans (.single (.armed f start request started next made))

theorem Arms.trigger {armed : Feed} (h : f.Arms request armed) : armed.trigger = f.trigger := by
  obtain ⟨journal, rfl⟩ := h.changed
  rfl

theorem Arms.item {armed : Feed} (h : f.Arms request armed) :
    armed.coordinator.slot.item = some request := by
  obtain ⟨journal, rfl⟩ := h.changed
  rfl

/-- What an event comes to. -/
inductive Handled (f : Feed) : Prop where
  /-- There is one note, whatever the trigger is. -/
  | barred (e : Entry) (h : Barred f.coordinator f.clock e)
    (noted : ∀ trigger, Feed.notify run { f with trigger } = Feed.note e { f with trigger })
  /-- A request is armed, and then the trigger is fired. If it fails that is noted, and unless
  somebody polled the request still waits, in a coordinator that is as arming left it. -/
  | armed (start : DateTime) (request : Request) (armed : Feed)
    (started : f.coordinator.started = true) (next : f.coordinator.nextStart = some start)
    (closes : Closes f.source start f.clock request) (arms : f.Arms request armed)
    (handled : f.notify run = armed.requestPoll run)
    (failed : ∀ trigger halt g, f.trigger = some trigger → armed.fire run trigger = (some halt, g) →
      f.notify run = g.noteFailure halt ∧
        (¬ Polls armed.toFeedState g.toFeedState →
          (f.notify run).coordinator = armed.coordinator ∧
            (f.notify run).coordinator.slot.item = some request))

theorem handled_of_barred {e : Entry} (h : Barred f.coordinator f.clock e) : f.Handled :=
  .barred e h fun trigger => notify_of_barred (f := { f with trigger }) h

theorem handled_of_closes (h : Reachable f.toFeedState) {start : DateTime}
    (started : f.coordinator.started = true) (next : f.coordinator.nextStart = some start)
    (made : f.nextRequest start = .ok request)
    (closes : Closes f.source start f.clock request) : f.Handled := by
  have harms := arms_ready request f
  have hhandled : f.notify run = (f.ready request).requestPoll run :=
    notify_eq run started next made
  refine .armed start request _ started next closes harms hhandled ?_
  intro trigger halt g htrigger hfired
  have hfailed : f.notify run = g.noteFailure halt := by
    rw [hhandled, requestPoll_eq, harms.trigger, htrigger]
    dsimp only
    rw [hfired]
  refine ⟨hfailed, fun unpolled => ?_⟩
  have hfire := coordinator_fire (reachable_ready h started next made) trigger
  rw [hfired] at hfire
  have hcoordinator : (f.notify run).coordinator = (f.ready request).coordinator := by
    rw [hfailed]
    exact hfire.resolve_right unpolled
  exact ⟨hcoordinator, by rw [hcoordinator]; exact harms.item⟩

theorem handled (h : Reachable f.toFeedState) : f.Handled := by
  cases hnext : f.coordinator.nextStart with
  | none => exact handled_of_barred (.idle (.inr hnext))
  | some start =>
    cases hstarted : f.coordinator.started with
    | false => exact handled_of_barred (.idle (.inl hstarted))
    | true =>
      rcases closes_or_unclosed start f with ⟨request, hmade, hcloses⟩ | ⟨fault, hunclosed⟩
      · exact handled_of_closes h hstarted hnext hmade hcloses
      · exact handled_of_barred (.unclosed start fault hstarted hnext hunclosed)

/-! ## Payloads that nobody refuses -/

theorem checkPayload_of_not_mem {names : List String} (hself : "self" ∉ names)
    (hevent : "event" ∉ names) (recipients : List Recipient) :
    checkPayload recipients names = .ok () := by
  induction recipients with
  | nil => rfl
  | cons r rest ih =>
    have hfree : r.clash? names = none := by
      apply List.find?_eq_none.mpr
      intro name hname hreserved
      cases r <;> simp [Recipient.reserved] at hreserved <;> grind
    unfold checkPayload
    rw [hfree]
    exact ih

theorem perform_notify {names : List String} (hself : "self" ∉ names) (hevent : "event" ∉ names)
    (f : Feed) : perform (.notify names) f = (f.notify run).done .nothing := by
  have hnotify : f.notifyWith run names = (.ok (), f.notify run) := by
    unfold notifyWith
    rw [checkPayload_of_not_mem hself hevent]
  exact (perform_eq _ f).trans (congrArg (faulty fun _ => .nothing) hnotify)

theorem perform_publish {names : List String} (hself : "self" ∉ names) (hevent : "event" ∉ names)
    (f : Feed) :
    perform (.publish names) f = (f.publish run).2.done (.count (f.publish run).1) ∧
      perform (.announce names) f = (f.publish run).2.done (.count (f.publish run).1) := by
  have hpublish : ∀ recipients, f.publishWith run recipients names =
      (.ok (f.publish run).1, (f.publish run).2) := by
    intro recipients
    unfold publishWith
    rw [checkPayload_of_not_mem hself hevent]
  constructor
  · exact (perform_eq _ f).trans (congrArg (faulty .count) (hpublish [.bus]))
  · exact (perform_eq _ f).trans (congrArg (faulty .count) (hpublish [.host, .bus]))

end Feed

/-- **The handler of events never fails, and arms all or nothing.** In every reachable state, inside
session requests too, whatever the clock shows and whatever the trigger does: handing on the end of
a measurement cycle, with a payload that uses neither name that is taken, returns; and it does
nothing but tell why no request is armed, or else arms one before the trigger is fired. -/
theorem event_contained (f : Feed) (h : Reachable f.toFeedState) (names : List String)
    (hself : "self" ∉ names) (hevent : "event" ∉ names) :
    (∀ command ∈ [Command.notify names, .publish names, .announce names],
      ∃ reply, (Feed.perform command f).1.result = .ok reply) ∧
    (Feed.perform (.notify names) f).2 = f.notify Feed.run ∧ f.Handled := by
  have hnotify := Feed.perform_notify hself hevent f
  obtain ⟨hpublish, hannounce⟩ := Feed.perform_publish hself hevent f
  refine ⟨?_, congrArg Prod.snd hnotify, Feed.handled h⟩
  intro command hcommand
  simp only [List.mem_cons, List.not_mem_nil, or_false] at hcommand
  rcases hcommand with rfl | rfl | rfl
  · exact ⟨_, congrArg (·.1.result) hnotify⟩
  · exact ⟨_, congrArg (·.1.result) hpublish⟩
  · exact ⟨_, congrArg (·.1.result) hannounce⟩

/-- The trigger fails, and the request waits for another poll. -/
theorem event_contained_when_trigger_fails :
    let f := (Feed.Sample.feed.run [.start, .advance 1000000, .setTrigger (some .fail)]).2
    (∃ reply, (Feed.perform (.notify ["run"]) f).1.result = .ok reply) ∧
      ∃ request, (Feed.perform (.notify ["run"]) f).2.coordinator.slot.item = some request := by
  intro f
  have hreachable : Reachable f.toFeedState := Feed.Sample.reachable_run_feed _
  obtain ⟨hreturns, hnotify, hhandled⟩ :=
    event_contained f hreachable ["run"] (by decide) (by decide)
  have hmakes : f.coordinator.started = true ∧
      f.coordinator.nextStart = some Feed.Sample.clock ∧
      (f.nextRequest Feed.Sample.clock).toOption.isSome = true ∧ f.trigger = some .fail := by
    decide +kernel
  obtain ⟨hstarted, hnext, hmade, htrigger⟩ := hmakes
  refine ⟨hreturns _ List.mem_cons_self, ?_⟩
  rw [hnotify]
  cases hhandled with
  | barred e hbarred _ =>
    cases hbarred with
    | idle hidle => simp [hstarted, hnext] at hidle
    | unclosed start fault _ hstart hunclosed =>
      obtain rfl : Feed.Sample.clock = start := Option.some.inj (hnext.symm.trans hstart)
      rw [Feed.nextRequest_of_unclosed hunclosed] at hmade
      cases hmade
  | armed start request armed _ _ _ _ _ failed =>
    have hkept := (failed .fail _ armed htrigger rfl).2 (Polls.irrefl _)
    exact ⟨request, hkept.2⟩

end MeterFeed
