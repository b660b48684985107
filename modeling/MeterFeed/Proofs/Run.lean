import MeterFeed.Proofs.Act

/-!
# Every operation is a sequence of acts

`Feed.Runs f g` says that `g` comes out of whole operations on `f`: acts lead from the one to the
other, a fetch is running after them if and only if one was running before, in which case that one
is running all the time, and whatever was answered inside session requests meanwhile shows states on
the path, at which a fetch was running.
There is one lemma for each operation, up to `Feed.runs_obey`; `Feed.runs_performAt` closes the knot
by induction on the bound.

`Feed.everyAnswer` are the answers of a run, those from the inside of session requests included, and
`Feed.path_of_mem_everyAnswer` says that all their states lie on paths from the first one.
-/

namespace MeterFeed

namespace Feed

/-- What was answered inside session requests between two feeds shows states on the path. -/
def InnerOnPath (f g : Feed) : Prop :=
  ∃ answers, g.inner = f.inner ++ answers ∧
    ∀ as ∈ answers, ∀ a ∈ as, Path f.toFeedState a.state ∧ a.state.coordinator.fetching = true

/-- Acts lead from one feed to another. -/
structure Leads (f g : Feed) : Prop where
  path : Path f.toFeedState g.toFeedState
  inner : InnerOnPath f g

/-- Whole operations lead from one feed to another. -/
structure Runs (f g : Feed) : Prop extends Leads f g where
  fetching : g.coordinator.fetching = f.coordinator.fetching
  meanwhile : f.coordinator.fetching = true → Meanwhile f.toFeedState g.toFeedState

theorem Leads.of_path {f g : Feed} (path : Path f.toFeedState g.toFeedState)
    (inner : g.inner = f.inner) : Leads f g :=
  ⟨path, [], by rw [inner, List.append_nil], fun _ h => by simp at h⟩

theorem Leads.of_act {f g : Feed} (act : Act f.toFeedState g.toFeedState)
    (inner : g.inner = f.inner) : Leads f g :=
  .of_path (.single act) inner

theorem Leads.trans {f g h : Feed} (hfg : Leads f g) (hgh : Leads g h) : Leads f h := by
  obtain ⟨as, has, hpath⟩ := hfg.inner
  obtain ⟨bs, hbs, hpath'⟩ := hgh.inner
  refine ⟨hfg.path.trans hgh.path, as ++ bs, by rw [hbs, has, List.append_assoc], ?_⟩
  intro answers hmem a ha
  rcases List.mem_append.mp hmem with hmem | hmem
  · exact hpath answers hmem a ha
  · obtain ⟨hp, hf⟩ := hpath' answers hmem a ha
    exact ⟨hfg.path.trans hp, hf⟩

theorem Runs.refl (f : Feed) : Runs f f :=
  ⟨.of_path .refl rfl, rfl, fun _ => .refl⟩

theorem Runs.of_act {f g : Feed} (act : Act f.toFeedState g.toFeedState)
    (fetching : g.coordinator.fetching = f.coordinator.fetching) (inner : g.inner = f.inner) :
    Runs f g :=
  ⟨.of_act act inner, fetching, fun busy => .single ⟨act, busy, fetching.trans busy⟩⟩

theorem Runs.trans {f g h : Feed} (hfg : Runs f g) (hgh : Runs g h) : Runs f h :=
  ⟨hfg.toLeads.trans hgh.toLeads, hgh.fetching.trans hfg.fetching, fun busy =>
    (hfg.meanwhile busy).trans (hgh.meanwhile (hfg.fetching.trans busy))⟩

theorem Runs.around {f g : Feed} (h : Around f.toFeedState g.toFeedState)
    (inner : g.inner = f.inner) : Runs f g :=
  .of_act (.around h) (by rw [h.coordinator]) inner

theorem runs_note (e : Entry) (f : Feed) (h : e.isReport = true) : Runs f (f.note e) :=
  .of_act (.noted f e h) rfl rfl

theorem runs_notes (es : List Entry) (f : Feed) (h : ∀ e ∈ es, e.isReport = true) :
    Runs f (f.notes es) := by
  induction es generalizing f with
  | nil =>
    refine Runs.around ⟨rfl, rfl, rfl, ?_⟩ rfl
    exact List.append_nil _
  | cons e es ih =>
    have hsplit : f.notes (e :: es) = (f.note e).notes es := by simp [notes, note]
    rw [hsplit]
    exact (runs_note e f (h e (by simp))).trans (ih _ fun x hx => h x (by simp [hx]))

theorem runs_schedule (call : SchedulerCall) (f : Feed) : Runs f (f.schedule call) :=
  .of_act (.scheduled f call) rfl rfl

/-! ## What an operation leaves alone -/

/-- Only the phase of the coordinator and the journal change. -/
def Reports (f g : Feed) : Prop :=
  ∃ phase journal, g = { f with coordinator := { f.coordinator with phase }, journal }

namespace Reports

theorem trans {f g h : Feed} (hfg : Reports f g) (hgh : Reports g h) : Reports f h := by
  obtain ⟨phase, journal, rfl⟩ := hfg
  obtain ⟨phase', journal', rfl⟩ := hgh
  exact ⟨phase', journal', rfl⟩

theorem inner {f g : Feed} (h : Reports f g) : g.inner = f.inner := by
  obtain ⟨phase, journal, rfl⟩ := h
  rfl

theorem kept {f g : Feed} (h : Reports f g) : g.kept = f.kept := by
  obtain ⟨phase, journal, rfl⟩ := h
  rfl

theorem fetching {f g : Feed} (h : Reports f g) :
    g.coordinator.fetching = f.coordinator.fetching := by
  obtain ⟨phase, journal, rfl⟩ := h
  rfl

end Reports

theorem reports_notes (es : List Entry) (f : Feed) : Reports f (f.notes es) :=
  ⟨f.coordinator.phase, _, rfl⟩

theorem reports_enter (phase : Phase) (f : Feed) : Reports f (f.enter phase) :=
  ⟨phase, _, enter_eq phase f⟩

theorem reports_ask (request : Request) (f : Feed) : Reports f (f.ask request) :=
  (reports_enter .fetching f).trans (reports_notes _ _)

@[simp] theorem inner_enter (phase : Phase) (f : Feed) : (f.enter phase).inner = f.inner :=
  (reports_enter phase f).inner

@[simp] theorem fetching_enter (phase : Phase) (f : Feed) :
    (f.enter phase).coordinator.fetching = f.coordinator.fetching :=
  (reports_enter phase f).fetching

@[simp] theorem inner_settle (f : Feed) : f.settle.inner = f.inner :=
  inner_enter _ _

@[simp] theorem fetching_settle (f : Feed) : f.settle.coordinator.fetching = false :=
  fetching_enter _ _

theorem inner_takeRequest (f : Feed) : f.takeRequest.2.inner = f.inner := by
  unfold takeRequest
  split <;> rfl

theorem fetching_takeRequest (f : Feed) :
    f.takeRequest.2.coordinator.fetching = f.coordinator.fetching := by
  unfold takeRequest
  split <;> rfl

/-- Only the phase changes, and besides that something is reported. -/
def Quiet (f g : Feed) : Prop :=
  ∃ phase entries, (∀ e ∈ entries, e.isQuiet = true) ∧
    g = { f with coordinator := { f.coordinator with phase }, journal := f.journal ++ entries }

namespace Quiet

theorem trans {f g h : Feed} (hfg : Quiet f g) (hgh : Quiet g h) : Quiet f h := by
  obtain ⟨phase, es, hes, rfl⟩ := hfg
  obtain ⟨phase', es', hes', rfl⟩ := hgh
  refine ⟨phase', es ++ es', ?_, by simp [List.append_assoc]⟩
  intro e he
  rcases List.mem_append.mp he with he | he
  · exact hes e he
  · exact hes' e he

theorem reports {f g : Feed} (h : Quiet f g) : Reports f g := by
  obtain ⟨phase, entries, -, rfl⟩ := h
  exact ⟨phase, _, rfl⟩

theorem notes (es : List Entry) (f : Feed) (h : ∀ e ∈ es, e.isReport = true) :
    Quiet f (f.notes es) :=
  ⟨f.coordinator.phase, es, fun e he => Entry.isQuiet_of_isReport (h e he), rfl⟩

theorem note (e : Entry) (f : Feed) (h : e.isReport = true) : Quiet f (f.note e) :=
  notes [e] f fun x hx => by rw [List.mem_singleton.mp hx, h]

theorem enter (phase : Phase) (f : Feed) : Quiet f (f.enter phase) := by
  refine ⟨phase, _, ?_, enter_eq phase f⟩
  intro e he
  split at he
  · cases he
  · rw [List.mem_singleton.mp he]
    rfl

end Quiet

/-! ## The end of a cycle is quiet -/

theorem isReport_mapRecords (source : Source) (time : DateTime) (records : List Record) :
    ∀ e ∈ (mapRecords source time records).entries, e.isReport = true := by
  induction records with
  | nil => exact fun e he => by cases he
  | cons r rs ih =>
    unfold mapRecords
    rcases source.normalize r time with (e | fault) | point
    · intro x hx
      rcases List.mem_cons.mp hx with rfl | hx
      · rfl
      · exact ih x hx
    · exact fun e he => by cases he
    · exact ih

theorem isReport_decodeFrom (index : Nat) (elements : List Json) :
    ∀ e ∈ (Batch.decodeFrom index elements).entries, e.isReport = true := by
  induction elements generalizing index with
  | nil => exact fun e he => by cases he
  | cons x xs ih =>
    unfold Batch.decodeFrom
    rcases Record.decode x with (e | fault) | record
    · intro y hy
      rcases List.mem_cons.mp hy with rfl | hy
      · rfl
      · exact ih (index + 1) y hy
    · exact fun e he => by cases he
    · exact ih (index + 1)

theorem isReport_parse (payload : Json) : ∀ e ∈ (Batch.parse payload).1, e.isReport = true := by
  unfold Batch.parse
  split
  · have hdecoded := isReport_decodeFrom 0
    dsimp only
    split
    · intro e he
      rcases List.mem_append.mp he with he | he
      · exact hdecoded _ e he
      · rw [List.mem_singleton.mp he]
        rfl
    · exact hdecoded _
  · exact fun e he => by cases he

theorem isReport_httpConclude (url : String) (answer : SessionAnswer) :
    ∀ e ∈ (Http.conclude url answer).1, e.isReport = true := by
  intro e he
  cases answer with
  | failure message => cases he
  | fault sort message => cases he
  | response status reason body =>
    simp only [Http.conclude] at he
    split at he
    · cases he
    · split at he <;> rw [List.mem_singleton.mp he] <;> rfl

theorem quiet_emit (request : Request) (time : DateTime) (records : List Record) (f : Feed) :
    Quiet f (f.emit request time records).2 := by
  have hmapped : Quiet f _ :=
    (Quiet.enter .emitting f).trans
      (.notes _ _ (isReport_mapRecords (f.enter .emitting).source time records))
  unfold emit
  dsimp only
  split
  · exact hmapped
  · exact hmapped.trans (.note _ _ rfl)

theorem quiet_digest (request : Request) (time : DateTime) (payload : Json) (f : Feed) :
    Quiet f (f.digest request time payload).2 := by
  have hparsed := Quiet.notes _ f (isReport_parse payload)
  unfold digest
  rcases hparse : Batch.parse payload with ⟨entries, (e | fault) | records⟩
  all_goals rw [hparse] at hparsed
  · exact hparsed.trans (.note (.discarded e) _ rfl)
  · exact hparsed
  · exact hparsed.trans (quiet_emit request time records _)

theorem quiet_conclude (request : Request) (time : DateTime) (f : Feed) :
    Quiet (f.note .answered) (f.conclude request time).2 := by
  have hread := Quiet.notes _ (f.note .answered) (isReport_httpConclude request.url f.session)
  have hsplit : ∀ entries, f.notes (.answered :: entries) = (f.note .answered).notes entries := by
    intro entries
    simp [Feed.notes, Feed.note]
  unfold conclude
  rcases hanswer : Http.conclude request.url f.session with ⟨entries, (e | fault) | payload⟩
  all_goals
    rw [hanswer] at hread
    dsimp only
    rw [hsplit]
  · exact hread.trans (.note (.fetchFailed e) _ rfl)
  · exact hread
  · exact hread.trans (quiet_digest request time payload _)

theorem reports_conclude (request : Request) (time : DateTime) (f : Feed) :
    Reports f (f.conclude request time).2 :=
  (reports_notes [.answered] f).trans (quiet_conclude request time f).reports

theorem noteDisplaced_eq (displaced : Option Request) (f : Feed) :
    f.noteDisplaced displaced = f.notes (displaced.toList.map .displaced) := by
  cases displaced <;> simp [noteDisplaced, notes, note]

theorem armed_eq (request : Request) (f : Feed) : ∃ journal,
    (f.arm request).2.noteDisplaced (f.arm request).1 = { f with
      coordinator := { f.coordinator with
        phase := .fetching
        slot := (f.coordinator.slot.offer request).2
        nextStart := some request.window.finish
        acknowledged := false }
      journal } := by
  rw [noteDisplaced_eq]
  unfold arm
  dsimp only
  rw [enter_eq]
  exact ⟨_, rfl⟩

/-- Arming a request leaves alone what is kept, what was answered and whether a fetch is running. -/
theorem armed_leaves (request : Request) (f : Feed) :
    let g := (f.arm request).2.noteDisplaced (f.arm request).1
    g.coordinator.fetching = f.coordinator.fetching ∧ g.kept = f.kept ∧ g.inner = f.inner := by
  obtain ⟨journal, harmed⟩ := armed_eq request f
  rw [harmed]
  exact ⟨rfl, rfl, rfl⟩

/-! ## What runs inside a session request -/

/-- Whatever is run inside a session request consists of whole operations, and its answers show
states on the path. -/
def Sound (inside : Inside) : Prop :=
  ∀ commands f, Runs f (inside commands f).2 ∧ ∀ a ∈ (inside commands f).1,
    Path f.toFeedState a.state ∧ a.state.coordinator.fetching = f.coordinator.fetching

theorem sound_nothing : Sound fun _ f => ([], f) := by
  intro commands f
  exact ⟨Runs.refl f, fun a ha => by simp at ha⟩

section Inside
variable {inside : Inside} (hinside : Sound inside)
include hinside

theorem runs_runKept (f : Feed) (busy : f.coordinator.fetching = true) :
    Runs f (f.runKept inside) := by
  unfold runKept
  cases hkept : f.kept with
  | none => exact Runs.refl f
  | some commands =>
    have hclear : Runs f { f with kept := none } := Runs.around ⟨rfl, rfl, rfl, rfl⟩ rfl
    obtain ⟨hruns, hanswers⟩ := hinside commands { f with kept := none }
    obtain ⟨⟨hpath, answers, hinner, hmem⟩, hfetching, hmeanwhile⟩ := hclear.trans hruns
    refine ⟨⟨hpath, answers ++ [(inside commands { f with kept := none }).1], ?_, ?_⟩, hfetching,
      hmeanwhile⟩
    · show _ ++ _ = _
      rw [hinner, List.append_assoc]
    · intro as has a ha
      rcases List.mem_append.mp has with has | has
      · exact hmem as has a ha
      · rw [List.mem_singleton.mp has] at ha
        obtain ⟨hp, hf⟩ := hanswers a ha
        exact ⟨hclear.path.trans hp, hf.trans busy⟩

theorem runs_poll (time : Option DateTime) (f : Feed) : Runs f (f.poll inside time).2 := by
  unfold poll
  cases hfetching : f.coordinator.fetching with
  | true => exact .of_act (.skipped f hfetching) rfl rfl
  | false =>
    have hinner : (f.setFetching true).takeRequest.2.inner = f.inner := inner_takeRequest _
    have hbusy : (f.setFetching true).takeRequest.2.coordinator.fetching = true :=
      fetching_takeRequest _
    rcases htake : (f.setFetching true).takeRequest with ⟨_ | request, g⟩
    · rw [htake] at hinner
      exact .of_act (.idled f g hfetching htake) (by simp [hfetching]) (by simpa using hinner)
    · rw [htake] at hinner hbusy
      simp only [Bool.false_eq_true, if_false, cycle_eq]
      have hask : Leads f (g.ask request) :=
        .of_act (.asked f g request hfetching htake) ((reports_ask request g).inner.trans hinner)
      have hkept : Runs (g.ask request) ((g.ask request).runKept inside) :=
        runs_runKept hinside _ ((reports_ask request g).fetching.trans hbusy)
      have hend : Leads ((g.ask request).runKept inside)
          (((g.ask request).runKept inside).conclude request (time.getD g.clock)).2.settle := by
        refine .of_act (.concluded _ request _ ?_) ?_
        · rw [hkept.fetching, (reports_ask request g).fetching, hbusy]
        · exact (inner_settle _).trans (reports_conclude request _ _).inner
      refine ⟨hask.trans (hkept.toLeads.trans hend), by simp [hfetching], fun busy => ?_⟩
      rw [hfetching] at busy
      cases busy

theorem runs_pollInto (time : Option DateTime) (f : Feed) :
    Runs f (f.pollInto inside time).2 :=
  (runs_poll hinside time f).trans (.around ⟨rfl, rfl, rfl, rfl⟩ rfl)

theorem runs_pollOnce (f : Feed) : Runs f (f.pollOnce inside).2 := by
  unfold pollOnce
  cases f.clock.toUtc with
  | error fault => exact Runs.refl f
  | ok now =>
    have hpoll := runs_poll hinside (some now) f
    dsimp only
    rcases hpolled : f.poll inside (some now) with ⟨⟨points, (e | fault) | count⟩, g⟩
    all_goals rw [hpolled] at hpoll
    · exact hpoll.trans (runs_note (.pollFailed e) g rfl)
    · exact hpoll
    · exact hpoll.trans (.around ⟨rfl, rfl, rfl, rfl⟩ rfl)

theorem runs_runJobNow (f : Feed) : Runs f (f.runJobNow inside).2 := by
  unfold runJobNow
  cases f.clock.toUtc with
  | error fault => exact Runs.refl f
  | ok now =>
    have hcall := runs_schedule (.runAt now) f
    have hpoll := runs_pollOnce hinside (f.schedule (.runAt now))
    dsimp only
    split
    · exact hcall
    · split
      · exact hcall
      · split <;> rename_i hpolled <;> rw [hpolled] at hpoll <;> exact hcall.trans hpoll

theorem runs_fire (trigger : Trigger) (f : Feed) : Runs f (f.fire inside trigger).2 := by
  cases trigger with
  | noop => exact Runs.refl f
  | fail => exact Runs.refl f
  | schedule => exact runs_runJobNow hinside f
  | poll =>
    have hpoll := runs_pollInto hinside none f
    unfold fire
    dsimp only
    split <;> rename_i hpolled <;> rw [hpolled] at hpoll <;> exact hpoll

omit hinside in
theorem runs_noteFailure (halt : Halt FetchError) (f : Feed) : Runs f (f.noteFailure halt) :=
  runs_note _ f rfl

theorem runs_requestPoll (f : Feed) : Runs f (f.requestPoll inside) := by
  unfold requestPoll
  cases f.trigger with
  | none => exact runs_note .untriggered f rfl
  | some trigger =>
    have hfire := runs_fire hinside trigger f
    dsimp only
    rcases hfired : f.fire inside trigger with ⟨_ | halt, g⟩
    all_goals rw [hfired] at hfire
    · dsimp only
      split
      · exact hfire
      · split
        · exact hfire.trans (runs_noteFailure _ g)
        · exact hfire.trans (runs_note (.unacknowledged g.ackTimeout) g rfl)
    · exact hfire.trans (runs_noteFailure halt g)

theorem runs_notify (f : Feed) : Runs f (f.notify inside) := by
  unfold notify
  split
  · rename_i start hstart hstarted
    split
    · exact runs_noteFailure _ f
    · rename_i request hrequest
      obtain ⟨hfetching, -, hinner⟩ := armed_leaves request f
      have harm : Runs f ((f.arm request).2.noteDisplaced (f.arm request).1) :=
        .of_act (.armed f start request hstarted hstart hrequest) hfetching hinner
      exact harm.trans (runs_requestPoll hinside _)
  · exact runs_note .ignored f rfl

theorem runs_publish (f : Feed) : Runs f (f.publish inside).2 := by
  have hcalls : ∀ (handlers : List Subscriber) (g : Feed),
      Runs g (handlers.foldl (call inside) g) := by
    intro handlers
    induction handlers with
    | nil => exact fun g => Runs.refl g
    | cons handler rest ih =>
      intro g
      cases handler
      exact (runs_notify hinside g).trans (ih _)
  unfold publish
  dsimp only
  split
  · exact (runs_note (.noSubscriber cycleFinished) f rfl).trans (hcalls _ _)
  · exact hcalls _ _

theorem runs_publishWith (recipients : List Recipient) (names : List String) (f : Feed) :
    Runs f (f.publishWith inside recipients names).2 := by
  unfold publishWith
  cases checkPayload recipients names with
  | error fault => exact Runs.refl f
  | ok _ => exact runs_publish hinside f

theorem runs_notifyWith (names : List String) (f : Feed) :
    Runs f (f.notifyWith inside names).2 := by
  unfold notifyWith
  cases checkPayload [.coordinator] names with
  | error fault => exact Runs.refl f
  | ok _ => exact runs_notify hinside f

end Inside

/-! ## Starting and stopping -/

def registrations (metrics : List Metric) : List Entry :=
  metrics.map fun m => .registered m.name m.valueType

theorem registerMetrics_error {f g : Feed} {fault : Fault}
    (h : f.registerMetrics = (.error fault, g)) :
    ∃ (registry : Registry) (metrics : List Metric),
      g = { f with registry }.notes (registrations metrics) := by
  unfold registerMetrics at h
  rcases hnames : f.source.registerNames f.source.metrics f.registry
    with ⟨metrics, _ | stop, registry⟩
  all_goals rw [hnames] at h
  · cases h
  · cases h
    exact ⟨registry, metrics, rfl⟩

theorem registerMetrics_ok {f g : Feed} {table : Fields Metric}
    (h : f.registerMetrics = (.ok table, g)) :
    ∃ (registry : Registry) (metrics : List Metric),
      (f.source.registerNames f.source.metrics f.registry = (metrics, none, registry) ∧
        table = Source.table metrics) ∧
      g = { { f with registry }.notes (registrations metrics) with
        source := f.source.withTable table } := by
  unfold registerMetrics at h
  rcases hnames : f.source.registerNames f.source.metrics f.registry
    with ⟨metrics, _ | stop, registry⟩
  all_goals rw [hnames] at h
  · cases h
    exact ⟨registry, metrics, ⟨rfl, rfl⟩, rfl⟩
  · cases h

/-- Opening the first window changes the coordinator, its subscription and the journal. -/
theorem opening_eq (table : Fields Metric) (f : Feed) : ∃ journal, f.opening table = { f with
    coordinator := { f.coordinator with
      phase := .waitingForEvent
      nextStart := some f.clock
      metrics := table
      started := true }
    bus := f.bus.subscribe cycleFinished .coordinator
    journal } := by
  unfold opening
  dsimp only
  rw [enter_eq, enter_eq]
  exact ⟨_, rfl⟩

theorem isReport_registrations (metrics : List Metric) :
    ∀ e ∈ registrations metrics, e.isReport = true := by
  intro e he
  obtain ⟨m, -, rfl⟩ := List.mem_map.mp he
  rfl

theorem runs_start (f : Feed) : Runs f f.start.2 := by
  unfold start
  cases hstarted : f.coordinator.started with
  | true => exact Runs.refl f
  | false =>
    rcases hregister : f.registerMetrics with ⟨fault | table, g⟩
    · obtain ⟨registry, metrics, rfl⟩ := registerMetrics_error hregister
      have hregistry : Runs f { f with registry } := .around ⟨rfl, rfl, rfl, rfl⟩ rfl
      exact hregistry.trans (runs_notes _ _ (isReport_registrations metrics))
    · obtain ⟨registry, metrics, -, hg⟩ := registerMetrics_ok hregister
      obtain ⟨journal, hopening⟩ := opening_eq table g
      refine .of_act (.opened f g table hstarted hregister) ?_ ?_
      · show (g.opening table).coordinator.fetching = _
        rw [hopening, hg]
        rfl
      · show (g.opening table).inner = _
        rw [hopening, hg]
        rfl

theorem runs_stop (f : Feed) : Runs f f.stop := by
  refine .of_act (.closed f) ?_ ?_ <;> unfold stop unsubscribe <;> split <;> simp [note]

theorem runs_startOwn (f : Feed) : Runs f f.startOwn.2 := by
  unfold startOwn
  cases f.host.registry with
  | none => exact runs_start f
  | some own =>
    have hown : Runs f { f with registry := own } := .around ⟨rfl, rfl, rfl, rfl⟩ rfl
    exact (hown.trans (runs_start _)).trans (.around ⟨rfl, rfl, rfl, rfl⟩ rfl)

theorem runs_startScheduler (f : Feed) : Runs f f.startScheduler := by
  have hcalls : Runs f ((f.schedule (.addJob f.host.interval)).schedule .start) :=
    (runs_schedule _ f).trans (runs_schedule _ _)
  exact hcalls.trans (.around ⟨rfl, rfl, rfl, rfl⟩ rfl)

theorem runs_launch (f : Feed) : Runs f f.launch.2 := by
  have hstart := runs_startOwn f
  unfold launch
  rcases hown : f.startOwn with ⟨fault | table, g⟩
  all_goals rw [hown] at hstart
  · exact hstart
  · dsimp only
    split
    · exact hstart
    · exact hstart.trans ((runs_startScheduler g).trans (runs_note (.scheduled _) _ rfl))

theorem runs_shutdown (f : Feed) : Runs f f.shutdown := by
  have hscheduler : ∀ g : Feed,
      Runs g (if g.host.running then (g.schedule .shutdown).stopScheduler else g) := by
    intro g
    split
    · exact (runs_schedule .shutdown g).trans (.around ⟨rfl, rfl, rfl, rfl⟩ rfl)
    · exact Runs.refl g
  exact (runs_stop f).trans ((hscheduler _).trans (runs_note .unscheduled _ rfl))

/-! ## Commands -/

section Inside
variable {inside : Inside} (hinside : Sound inside)
include hinside

theorem runs_respond (method reference : String) (f : Feed) :
    Runs f (Surface.respond inside method reference f).2 := by
  have hserve : ∀ (route : Route) (t : Target), Runs f (Surface.serve inside route t f).2 := by
    intro route t
    cases route with
    | cycleFinished => exact runs_publish hinside f
    | _ => exact Runs.refl f
  have hanswer : ∀ (route : Route) (t : Target),
      Runs f (Surface.answer inside method route t f).2 := by
    intro route t
    unfold Surface.answer
    split
    · exact Runs.refl f
    · exact hserve route t
  unfold Surface.respond
  cases Reference.read reference with
  | error e => exact Runs.refl f
  | ok r =>
    dsimp only
    split
    · exact Runs.refl f
    · exact hanswer _ _
    · split
      · exact Runs.refl f
      · exact hanswer _ _

omit hinside in
theorem runs_faulty {α : Type} (describe : α → Reply) {f : Feed}
    {outcome : Except Fault α × Feed} (h : Runs f outcome.2) :
    Runs f (faulty describe outcome).2 := by
  rcases outcome with ⟨fault | x, g⟩ <;> exact h

/-- **Every command consists of whole operations**, if what runs inside session requests does. -/
theorem runs_obey (command : Command) (f : Feed) : Runs f (obey inside command f).2 := by
  cases command with
  | start => exact runs_faulty _ (runs_start f)
  | launch => exact runs_faulty _ (runs_launch f)
  | stop => exact runs_stop f
  | shutdown => exact runs_shutdown f
  | publish names => exact runs_faulty _ (runs_publishWith hinside [.bus] names f)
  | announce names => exact runs_faulty _ (runs_publishWith hinside [.host, .bus] names f)
  | notify names => exact runs_faulty _ (runs_notifyWith hinside names f)
  | poll time => exact runs_pollInto hinside time f
  | pollOnce => exact runs_faulty _ (runs_pollOnce hinside f)
  | advance micros =>
    refine runs_faulty _ ?_
    unfold advance
    split
    · exact .around ⟨rfl, rfl, rfl, rfl⟩ rfl
    · exact Runs.refl f
  | duringFetch commands => cases commands <;> exact .around ⟨rfl, rfl, rfl, rfl⟩ rfl
  | request method target =>
    have hrespond := runs_respond hinside method target f
    unfold obey
    dsimp only
    rcases hreply : Surface.respond inside method target f with ⟨lost | reply, g⟩
    all_goals rw [hreply] at hrespond; exact hrespond
  | setClock | respond | setTrigger | drain | newRegistry =>
    exact .around ⟨rfl, rfl, rfl, rfl⟩ rfl
  | metrics | registeredNames | subscribers | isStarted | recent => exact Runs.refl f

end Inside

theorem state_obey (inside : Inside) (command : Command) (f : Feed) :
    (obey inside command f).1.state = (obey inside command f).2.toFeedState := by
  have hfaulty : ∀ {α : Type} (describe : α → Reply) (outcome : Except Fault α × Feed),
      (faulty describe outcome).1.state = (faulty describe outcome).2.toFeedState := by
    intro α describe outcome
    rcases outcome with ⟨fault | x, g⟩ <;> rfl
  cases command with
  | start | launch | publish | announce | notify | pollOnce | advance => exact hfaulty _ _
  | duringFetch commands => cases commands <;> rfl
  | request method target =>
    unfold obey
    dsimp only
    split <;> rfl
  | _ => rfl

/-! ## Runs -/

/-- If one command consists of whole operations and shows the state that it leaves, then so do
commands one after the other. -/
theorem sound_obeyAll {step : Command → Feed → Answer × Feed}
    (hruns : ∀ c f, Runs f (step c f).2)
    (hstate : ∀ c f, (step c f).1.state = (step c f).2.toFeedState) : Sound (obeyAll step) := by
  intro commands
  induction commands with
  | nil => exact sound_nothing []
  | cons c cs ih =>
    intro f
    obtain ⟨hrest, hanswers⟩ := ih (step c f).2
    refine ⟨(hruns c f).trans hrest, ?_⟩
    intro a ha
    rcases List.mem_cons.mp ha with rfl | ha
    · rw [hstate]
      exact ⟨(hruns c f).path, (hruns c f).fetching⟩
    · obtain ⟨hpath, hfetching⟩ := hanswers a ha
      exact ⟨(hruns c f).path.trans hpath, hfetching.trans (hruns c f).fetching⟩

theorem state_performAt (bound : Nat) (command : Command) (f : Feed) :
    (performAt bound command f).1.state = (performAt bound command f).2.toFeedState := by
  cases bound <;> exact state_obey _ command f

theorem runs_performAt (bound : Nat) (command : Command) (f : Feed) :
    Runs f (performAt bound command f).2 := by
  induction bound generalizing command f with
  | zero => exact runs_obey sound_nothing command f
  | succ bound ih => exact runs_obey (sound_obeyAll ih (state_performAt bound)) command f

theorem sound_run : Sound run :=
  sound_obeyAll (fun c f => runs_performAt f.keptDepth c f)
    fun c f => state_performAt f.keptDepth c f

/-- The answers of a run: those of its commands, and those of the commands that ran inside its
session requests. -/
def everyAnswer (commands : List Command) (f : Feed) : List Answer :=
  (f.run commands).1 ++ (f.run commands).2.inner.flatten

/-- **Whatever a run answers shows a state on a path of acts**, on every level of nesting. -/
theorem path_of_mem_everyAnswer {commands : List Command} {f : Feed} (hf : f.inner = [])
    {a : Answer} (ha : a ∈ f.everyAnswer commands) : Path f.toFeedState a.state := by
  obtain ⟨⟨⟨-, answers, hinner, hmem⟩, -⟩, hanswers⟩ := sound_run commands f
  rcases List.mem_append.mp ha with ha | ha
  · exact (hanswers a ha).1
  · rw [hinner, hf, List.nil_append] at ha
    obtain ⟨as, has, ha⟩ := List.mem_flatten.mp ha
    exact (hmem as has a ha).1

/-- The answers of a run show reachable states. -/
theorem reachable_of_mem_everyAnswer {source : Source} {clock : DateTime} {session : SessionAnswer}
    {trigger : Option Trigger} {ackTimeout : Number} {host : Host} {commands : List Command}
    {a : Answer}
    (ha : a ∈ (initial source clock session trigger ackTimeout host).everyAnswer commands) :
    Reachable a.state :=
  ⟨source, clock, session, trigger, ackTimeout, host, path_of_mem_everyAnswer rfl ha⟩

theorem reachable_run (source : Source) (clock : DateTime) (session : SessionAnswer)
    (trigger : Option Trigger) (ackTimeout : Number) (host : Host) (commands : List Command) :
    Reachable ((initial source clock session trigger ackTimeout host).run commands).2.toFeedState :=
  ⟨source, clock, session, trigger, ackTimeout, host, (sound_run commands _).1.path⟩

/-! ## A run to look at -/

namespace Sample

def clock : DateTime := ⟨63888703200000000, some 0, by decide⟩

/-- The power of one host, from a session that is down. -/
def feed : Feed :=
  .initial ⟨"rennes", ["taurus-7"], ["power"], "https://api", [], false, none⟩ clock
    (.failure "down") none (.int 0) (.initial ⟨none, []⟩ 60 false clock)

/-- A measure of the host, as the session tells it. -/
def measure (metric : String) (value : Int) : Json :=
  .object [("device_id", .text "taurus-7"), ("metric_id", .text metric),
    ("timestamp", .text "2025-07-21T16:15:31+02:00"), ("value", .int value),
    ("labels", .object [])]

/-- An answer with an array of measures, in the bytes of its text. -/
def answer (measures : List Json) : SessionAnswer :=
  .response 200 "OK" ((Json.array measures).print.map fun c => UInt8.ofNat c.toNat)

/-- The point of a measure of the host's power. -/
def point (value : Nat) : Point where
  metric := ⟨0, "power", .real, "", "Kwollect metric power (rennes)"⟩
  time := ⟨63888711331000000, some 7200000000, by decide⟩
  value := .real (.ofRatio false value 1)
  resource := .custom (some "device_id") (some "taurus-7")
  consumer := .localMachine
  attributes := [("metric_id", .text "power")]

theorem reachable_run_feed (commands : List Command) :
    Reachable (feed.run commands).2.toFeedState :=
  reachable_run _ _ _ _ _ _ commands

/-- Of three events the first is displaced, the second is fetched, and the third one comes while it
is. -/
def commands : List Command :=
  [.start, .publish [], .advance 1000000, .publish [], .duringFetch [.advance 1000000, .publish []],
    .poll none]

end Sample

end Feed

end MeterFeed
