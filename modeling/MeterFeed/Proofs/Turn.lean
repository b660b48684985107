import MeterFeed.Proofs.Run

/-!
# What an act does to the coordinator

* `turns journal` : the entries at which the coordinator takes a turn, that is, those of starts and
  stops, of requests and of polls;
* `Adds es s t` : the journal grows from `s` to `t`, and its turns grow by `es`;
* `Turn s t` : what an act can do to the coordinator, its subscription and the source, with the
  turns that it adds. `Act.turn` is the only place that looks into the acts for this;
* `Meanwhile.adds` : what the journal grows by in the middle of a fetch.
-/

namespace MeterFeed

def Entry.isTurn : Entry → Bool
  | .requested _ | .answered | .opened .. | .closed | .armed .. | .displaced _ | .took _ => true
  | .inFlight | .nothingPending => true
  | _ => false

def turns (journal : List Entry) : List Entry :=
  journal.filter Entry.isTurn

@[simp] theorem turns_append (js es : List Entry) : turns (js ++ es) = turns js ++ turns es :=
  List.filter_append ..

theorem Entry.isTurn_of_isQuiet {e : Entry} (h : e.isQuiet = true) : e.isTurn = false := by
  cases e <;> first | rfl | cases h

theorem Entry.isTurn_of_isReport {e : Entry} (h : e.isReport = true) : e.isTurn = false :=
  Entry.isTurn_of_isQuiet (Entry.isQuiet_of_isReport h)

theorem Entry.not_of_isReport {kind : Entry → Bool} (hkind : ∀ e, kind e = true → e.isTurn = true)
    {e : Entry} (h : e.isReport = true) : kind e = false := by
  refine Bool.eq_false_iff.mpr fun he => ?_
  have hturn := hkind e he
  rw [Entry.isTurn_of_isReport h] at hturn
  cases hturn

theorem turns_eq_nil {es : List Entry} (h : ∀ e ∈ es, e.isQuiet = true) : turns es = [] := by
  apply List.filter_eq_nil_iff.mpr
  intro e he
  rw [Entry.isTurn_of_isQuiet (h e he)]
  exact Bool.false_ne_true

theorem turns_displaced (requests : List Request) :
    turns (requests.map .displaced) = requests.map .displaced := by
  apply List.filter_eq_self.mpr
  intro e he
  obtain ⟨r, -, rfl⟩ := List.mem_map.mp he
  rfl

/-! ## Growth of the journal -/

/-- The journal grows, and its turns grow by some entries. -/
def Adds (es : List Entry) (s t : FeedState) : Prop :=
  ∃ entries, t.journal = s.journal ++ entries ∧ turns entries = es

namespace Adds

theorem of_journal_eq {s t : FeedState} (h : t.journal = s.journal) : Adds [] s t :=
  ⟨[], by rw [h, List.append_nil], rfl⟩

theorem trans {s t u : FeedState} {es es' : List Entry} (hst : Adds es s t) (htu : Adds es' t u) :
    Adds (es ++ es') s u := by
  obtain ⟨entries, hentries, rfl⟩ := hst
  obtain ⟨entries', hentries', rfl⟩ := htu
  exact ⟨entries ++ entries', by rw [hentries', hentries, List.append_assoc], turns_append _ _⟩

theorem notes (es : List Entry) (f : Feed) :
    Adds (MeterFeed.turns es) f.toFeedState (f.notes es).toFeedState :=
  ⟨es, rfl, rfl⟩

theorem note (e : Entry) (f : Feed) :
    Adds (MeterFeed.turns [e]) f.toFeedState (f.note e).toFeedState :=
  notes [e] f

theorem quiet {f g : Feed} (h : f.Quiet g) : Adds [] f.toFeedState g.toFeedState := by
  obtain ⟨phase, entries, hentries, rfl⟩ := h
  exact ⟨entries, rfl, turns_eq_nil hentries⟩

theorem turns {s t : FeedState} {es : List Entry} (h : Adds es s t) :
    turns t.journal = turns s.journal ++ es := by
  obtain ⟨entries, hentries, rfl⟩ := h
  rw [hentries, turns_append]

end Adds

/-! ## Turns -/

/-- What an act does to the coordinator, its subscription and the source. -/
inductive Turn (s t : FeedState) : Prop where
  | still (source : t.source = s.source) (coordinator : t.coordinator = s.coordinator)
    (bus : t.bus = s.bus) (adds : Adds [] s t)
  | skipped (busy : s.coordinator.fetching = true)
    (source : t.source = s.source) (coordinator : t.coordinator = s.coordinator)
    (bus : t.bus = s.bus) (adds : Adds [.inFlight] s t)
  /-- The coordinator is started, opens a window at the clock's time and subscribes. -/
  | opened (table : Fields Metric) (idle : s.coordinator.started = false)
    (source : t.source = s.source.withTable table)
    (coordinator : t.coordinator = { s.coordinator with
      phase := .waitingForEvent
      nextStart := some s.clock
      metrics := table
      started := true })
    (bus : t.bus = s.bus.subscribe cycleFinished .coordinator)
    (adds : Adds [.opened table.length s.clock] s t)
    (begun : ∃ f g : Feed, f.toFeedState = s ∧ g.toFeedState = t ∧ f.start = (.ok table, g))
  /-- The coordinator is stopped, and its subscription is taken back if it has one. -/
  | closed (source : t.source = s.source)
    (coordinator : t.coordinator = { s.coordinator with phase := .idle, started := false })
    (bus : t.bus = if s.coordinator.started then s.bus.unsubscribe cycleFinished .coordinator
      else s.bus)
    (adds : Adds [.closed] s t)
  /-- A request takes the place of what waits; its window ends at the later one of the clock's time
  and the window's start, and the next window begins there. -/
  | armed (start finish : DateTime) (request : Request) (running : s.coordinator.started = true)
    (opens : s.coordinator.nextStart = some start) (ends : s.clock.later start = .ok finish)
    (made : Window.make start finish = .ok request.window)
    (written : s.source.url request.window = .ok request.url)
    (source : t.source = s.source)
    (coordinator : t.coordinator = { s.coordinator with
      phase := .fetching
      slot := (s.coordinator.slot.offer request).2
      nextStart := some finish
      acknowledged := false })
    (bus : t.bus = s.bus)
    (adds : Adds (.armed request s.clock :: s.coordinator.slot.waiting.map .displaced) s t)
  /-- A poll takes the request that waits, and asks the session for it. -/
  | asked (request : Request) (free : s.coordinator.fetching = false)
    (waits : s.coordinator.slot.item = some request)
    (source : t.source = s.source)
    (coordinator : t.coordinator = { s.coordinator with
      phase := .fetching
      slot := { s.coordinator.slot with item := none }
      fetching := true
      acknowledged := true })
    (bus : t.bus = s.bus) (adds : Adds [.took request, .requested request.url] s t)
  | idled (free : s.coordinator.fetching = false)
    (source : t.source = s.source)
    (coordinator : t.coordinator = { s.coordinator with
      phase := Feed.restingPhase s.coordinator })
    (bus : t.bus = s.bus) (adds : Adds [.nothingPending] s t)
  /-- The session has answered, and the poll ends. -/
  | concluded (busy : s.coordinator.fetching = true)
    (source : t.source = s.source)
    (coordinator : t.coordinator = { s.coordinator with
      phase := Feed.restingPhase s.coordinator
      fetching := false })
    (bus : t.bus = s.bus) (adds : Adds [.answered] s t)

namespace Feed

/-- A take that takes a request takes the one that waits, from a slot that nobody holds. -/
theorem takeRequest_eq_some_iff {f g : Feed} {request : Request} :
    f.takeRequest = (some request, g) ↔
      f.coordinator.slot.held = false ∧ f.coordinator.slot.item = some request ∧
        g = { f with coordinator := { f.coordinator with
          slot := { f.coordinator.slot with item := none }
          acknowledged := true } }.note (.took request) := by
  unfold takeRequest Slot.take
  rcases hheld : f.coordinator.slot.held with _ | _
  · rcases hitem : f.coordinator.slot.item with _ | waiting
    · simp
    · simp only [Bool.false_eq_true, if_false, Prod.mk.injEq, Option.some.injEq, true_and]
      constructor
      · rintro ⟨rfl, rfl⟩
        exact ⟨rfl, by rw [hheld]⟩
      · rintro ⟨rfl, rfl⟩
        exact ⟨rfl, by rw [hheld]⟩
  · simp

theorem takeRequest_eq_none {f g : Feed} (h : f.takeRequest = (none, g)) :
    g.source = f.source ∧ g.coordinator = f.coordinator ∧ g.bus = f.bus ∧
      Adds [.nothingPending] f.toFeedState g.toFeedState := by
  unfold takeRequest at h
  split at h
  · cases h
    exact ⟨rfl, rfl, rfl, (Adds.note .slotBusy f).trans (.note .nothingPending _)⟩
  · cases h
    exact ⟨rfl, rfl, rfl, .note .nothingPending f⟩
  · cases h

@[simp] theorem coordinator_enter (phase : Phase) (f : Feed) :
    (f.enter phase).coordinator = { f.coordinator with phase } := by
  rw [enter_eq]

@[simp] theorem source_enter (phase : Phase) (f : Feed) : (f.enter phase).source = f.source := by
  rw [enter_eq]

@[simp] theorem clock_enter (phase : Phase) (f : Feed) : (f.enter phase).clock = f.clock := by
  rw [enter_eq]

@[simp] theorem bus_enter (phase : Phase) (f : Feed) : (f.enter phase).bus = f.bus := by
  rw [enter_eq]

theorem coordinator_settle (f : Feed) : f.settle.coordinator = { f.coordinator with
    phase := restingPhase f.coordinator, fetching := false } :=
  coordinator_enter _ _

theorem nextRequest_eq_ok {start : DateTime} {request : Request} {f : Feed}
    (h : f.nextRequest start = .ok request) :
    ∃ finish, f.clock.later start = .ok finish ∧ Window.make start finish = .ok request.window ∧
      f.source.url request.window = .ok request.url := by
  unfold nextRequest at h
  obtain ⟨finish, hends, h⟩ := bind_eq_ok.mp h
  obtain ⟨window, hmade, h⟩ := bind_eq_ok.mp h
  obtain ⟨url, hwritten, h⟩ := bind_eq_ok.mp h
  cases h
  exact ⟨finish, hends, hmade, hwritten⟩

theorem adds_opening (table : Fields Metric) (f : Feed) :
    Adds [.opened table.length f.clock] f.toFeedState (f.opening table).toFeedState := by
  let named : Feed := { f with
    coordinator := { f.coordinator with metrics := table, nextStart := some f.clock } }
  let subscribed : Feed := { named.enter .windowArmed with
    coordinator := { (named.enter .windowArmed).coordinator with started := true }
    bus := (named.enter .windowArmed).bus.subscribe cycleFinished .coordinator }
  have hclock : subscribed.clock = f.clock := clock_enter .windowArmed named
  have hnamed : Adds [] f.toFeedState named.toFeedState := .of_journal_eq rfl
  have hsubscribed : Adds [] (named.enter .windowArmed).toFeedState subscribed.toFeedState :=
    .of_journal_eq rfl
  have hentered := (hnamed.trans (.quiet (.enter .windowArmed named))).trans
    (hsubscribed.trans (.quiet (.enter .waitingForEvent subscribed)))
  rw [← hclock]
  exact hentered.trans (.note (.opened table.length subscribed.clock) _)

theorem adds_armed (request : Request) (f : Feed) :
    Adds (.armed request f.clock :: f.coordinator.slot.waiting.map .displaced) f.toFeedState
      ((f.arm request).2.noteDisplaced (f.arm request).1).toFeedState := by
  let offered : Feed := { f with
    coordinator := { f.coordinator with
      nextStart := some request.window.finish
      acknowledged := false
      slot := (f.coordinator.slot.offer request).2 } }
  have hoffered : Adds [] f.toFeedState offered.toFeedState := .of_journal_eq rfl
  have harmed := (hoffered.trans (.quiet (.enter .fetching offered))).trans
    (.note (.armed request f.clock) _)
  have hdisplaced := harmed.trans
    (.notes ((f.coordinator.slot.offer request).1.toList.map .displaced) _)
  rw [turns_displaced] at hdisplaced
  rw [noteDisplaced_eq]
  exact hdisplaced

def begun (request : Request) (f : Feed) : Feed :=
  ({ f with coordinator := { f.coordinator with
      fetching := true
      slot := { f.coordinator.slot with item := none }
      acknowledged := true } }.note (.took request)).ask request

theorem adds_begun (request : Request) (f : Feed) :
    Adds [.took request, .requested request.url] f.toFeedState (f.begun request).toFeedState := by
  let taken : Feed := { f with coordinator := { f.coordinator with
    fetching := true
    slot := { f.coordinator.slot with item := none }
    acknowledged := true } }
  have htook : Adds [.took request] f.toFeedState (taken.note (.took request)).toFeedState :=
    (Adds.of_journal_eq rfl).trans (.note (.took request) taken)
  exact htook.trans ((Adds.quiet (.enter .fetching _)).trans
    (.notes [.fetching request.url, .requested request.url] _))

theorem adds_settle (f : Feed) : Adds [] f.toFeedState f.settle.toFeedState :=
  (Adds.of_journal_eq rfl : Adds [] f.toFeedState (f.setFetching false).toFeedState).trans
    (.quiet (.enter _ _))

theorem adds_conclude (request : Request) (time : DateTime) (f : Feed) :
    Adds [.answered] f.toFeedState (f.conclude request time).2.settle.toFeedState :=
  (Adds.note .answered f).trans
    ((Adds.quiet (quiet_conclude request time f)).trans (adds_settle _))

theorem start_of_registered {f g : Feed} {table : Fields Metric}
    (idle : f.coordinator.started = false) (registered : f.registerMetrics = (.ok table, g)) :
    f.start = (.ok table, g.opening table) := by
  unfold start
  rw [idle, registered]
  rfl

end Feed

/-! ## Every act takes one turn -/

namespace Turn

theorem of_opening {f g : Feed} {table : Fields Metric} (idle : f.coordinator.started = false)
    (registered : f.registerMetrics = (.ok table, g)) :
    Turn f.toFeedState (g.opening table).toFeedState := by
  have hstart := Feed.start_of_registered idle registered
  obtain ⟨registry, metrics, -, rfl⟩ := Feed.registerMetrics_ok registered
  let registered : Feed := { { f with registry }.notes (Feed.registrations metrics) with
    source := f.source.withTable table }
  obtain ⟨journal, hopening⟩ := Feed.opening_eq table registered
  refine .opened table idle ?_ ?_ ?_ ?_ ⟨f, _, rfl, rfl, hstart⟩
  · exact congrArg (fun g : Feed => g.source) hopening
  · exact congrArg (fun g : Feed => g.coordinator) hopening
  · exact congrArg (fun g : Feed => g.bus) hopening
  · let named : Feed := { f with registry }
    have hnamed : Adds [] f.toFeedState named.toFeedState := .of_journal_eq rfl
    have hregistered := hnamed.trans
      (.quiet (.notes _ named (Feed.isReport_registrations metrics)))
    exact hregistered.trans (Feed.adds_opening table _)

theorem of_stop (f : Feed) : Turn f.toFeedState f.stop.toFeedState := by
  obtain ⟨hsource, hjournal, hcoordinator, hbus⟩ : f.unsubscribe.source = f.source ∧
      f.unsubscribe.journal = f.journal ∧
      f.unsubscribe.coordinator = { f.coordinator with started := false } ∧
      f.unsubscribe.bus = if f.coordinator.started
        then f.bus.unsubscribe cycleFinished .coordinator else f.bus := by
    unfold Feed.unsubscribe
    split
    · exact ⟨rfl, rfl, rfl, rfl⟩
    · rename_i hstarted
      exact ⟨rfl, rfl, by rw [← Bool.eq_false_iff.mpr hstarted], rfl⟩
  refine .closed ?_ ?_ ?_ ?_
  · show (f.unsubscribe.enter .idle).source = f.source
    rw [Feed.source_enter, hsource]
  · show (f.unsubscribe.enter .idle).coordinator = _
    rw [Feed.coordinator_enter, hcoordinator]
  · show (f.unsubscribe.enter .idle).bus = _
    rw [Feed.bus_enter, hbus]
  · have hleft : Adds [] f.toFeedState f.unsubscribe.toFeedState := .of_journal_eq hjournal
    exact (hleft.trans (.quiet (.enter .idle _))).trans (.note .closed _)

theorem of_arm {f : Feed} {start : DateTime} {request : Request}
    (started : f.coordinator.started = true) (next : f.coordinator.nextStart = some start)
    (made : f.nextRequest start = .ok request) :
    Turn f.toFeedState ((f.arm request).2.noteDisplaced (f.arm request).1).toFeedState := by
  obtain ⟨finish, hends, hmade, hwritten⟩ := Feed.nextRequest_eq_ok made
  obtain rfl : request.window.finish = finish := (Window.make_eq_ok hmade).2
  obtain ⟨journal, harmed⟩ := Feed.armed_eq request f
  have hadds := Feed.adds_armed request f
  rw [harmed] at hadds ⊢
  exact .armed start _ request started next hends hmade hwritten rfl rfl rfl hadds

theorem of_ask {f g : Feed} {request : Request} (free : f.coordinator.fetching = false)
    (taken : (f.setFetching true).takeRequest = (some request, g)) :
    Turn f.toFeedState (g.ask request).toFeedState := by
  obtain ⟨-, hwaits, rfl⟩ := Feed.takeRequest_eq_some_iff.mp taken
  refine .asked request free hwaits ?_ ?_ ?_ (Feed.adds_begun request f)
  · exact Feed.source_enter .fetching _
  · exact Feed.coordinator_enter .fetching _
  · exact Feed.bus_enter .fetching _

theorem of_idle {f g : Feed} (free : f.coordinator.fetching = false)
    (untaken : (f.setFetching true).takeRequest = (none, g)) :
    Turn f.toFeedState g.settle.toFeedState := by
  obtain ⟨hsource, hcoordinator, hbus, hadds⟩ := Feed.takeRequest_eq_none untaken
  refine .idled free ?_ ?_ ?_ ?_
  · exact (Feed.source_enter _ _).trans hsource
  · rw [Feed.coordinator_settle, hcoordinator]
    show { f.coordinator with phase := Feed.restingPhase f.coordinator, fetching := false } = _
    rw [← free]
  · exact (Feed.bus_enter _ _).trans hbus
  · have hbegun : Adds [] f.toFeedState (f.setFetching true).toFeedState := .of_journal_eq rfl
    exact (hbegun.trans hadds).trans (Feed.adds_settle g)

theorem of_conclude (request : Request) (time : DateTime) {f : Feed}
    (busy : f.coordinator.fetching = true) :
    Turn f.toFeedState (f.conclude request time).2.settle.toFeedState := by
  obtain ⟨phase, entries, -, hconclude⟩ := Feed.quiet_conclude request time f
  refine .concluded busy ?_ ?_ ?_ (Feed.adds_conclude request time f)
  · exact (Feed.source_enter _ _).trans (by rw [hconclude]; rfl)
  · rw [Feed.coordinator_settle, hconclude]
    rfl
  · exact (Feed.bus_enter _ _).trans (by rw [hconclude]; rfl)

end Turn

/-- **Every act takes one turn.** -/
theorem Act.turn {s t : FeedState} (h : Act s t) : Turn s t := by
  cases h with
  | around h => exact .still h.source h.coordinator h.bus (.of_journal_eq h.journal)
  | noted f e h => exact .still rfl rfl rfl (.quiet (.note e f h))
  | scheduled f call => exact .still rfl rfl rfl (.note (.scheduler call) f)
  | opened f g table idle registered => exact .of_opening idle registered
  | closed f => exact .of_stop f
  | armed f start request started next made => exact .of_arm started next made
  | asked f g request free taken => exact .of_ask free taken
  | idled f g free untaken => exact .of_idle free untaken
  | skipped f busy => exact .skipped busy rfl rfl rfl (.note .inFlight f)
  | concluded f request time busy => exact .of_conclude request time busy

/-! ## In the middle of a fetch -/

/-- True of the turns that are taken in the middle of a fetch. -/
def Entry.isAside : Entry → Bool
  | .opened .. | .closed | .armed .. | .displaced _ | .inFlight => true
  | _ => false

/-- In the middle of a fetch sessions begin and end, requests are armed and polls are skipped; no
request is taken, and the session is asked for none. -/
theorem Meanwhile.adds {s t : FeedState} (h : Meanwhile s t) :
    ∃ es, Adds es s t ∧ ∀ e ∈ es, e.isAside = true := by
  induction h with
  | refl => exact ⟨[], .of_journal_eq rfl, fun _ he => by cases he⟩
  | @tail s' t _ step ih =>
    obtain ⟨es, hadds, hes⟩ := ih
    obtain ⟨act, hbefore, hafter⟩ := step
    have hmore : ∀ es' : List Entry, (∀ e ∈ es', e.isAside = true) →
        ∀ x ∈ es ++ es', x.isAside = true := by
      intro es' hes' x hx
      rcases List.mem_append.mp hx with hx | hx
      · exact hes x hx
      · exact hes' x hx
    have hone : ∀ e : Entry, e.isAside = true → ∀ x ∈ [e], x.isAside = true :=
      fun e he => List.forall_mem_singleton.mpr he
    cases act.turn with
    | still _ _ _ adds => exact ⟨es ++ [], hadds.trans adds, by rwa [List.append_nil]⟩
    | skipped _ _ _ _ adds => exact ⟨_, hadds.trans adds, hmore _ (hone _ rfl)⟩
    | opened _ _ _ _ _ adds => exact ⟨_, hadds.trans adds, hmore _ (hone _ rfl)⟩
    | closed _ _ _ adds => exact ⟨_, hadds.trans adds, hmore _ (hone _ rfl)⟩
    | armed _ _ _ _ _ _ _ _ _ _ _ adds =>
      refine ⟨_, hadds.trans adds, hmore _ fun e he => ?_⟩
      rcases List.mem_cons.mp he with rfl | he
      · rfl
      · obtain ⟨r, -, rfl⟩ := List.mem_map.mp he
        rfl
    | asked _ free | idled free =>
      rw [free] at hbefore
      cases hbefore
    | concluded _ _ coordinator =>
      rw [coordinator] at hafter
      cases hafter

end MeterFeed
