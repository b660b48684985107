import MeterFeed.Proofs.Registration
import MeterFeed.Proofs.Turn

/-!
# When a start succeeds

A start registers the metrics of the source one after the other, and stops at the first name that is
taken or was registered just before. Only when all of them are registered is anything else changed.

* `Gains s names r r'` : the registry `r` gains some names of the source `s` and becomes `r'`;
* `Starting f` : what a start of `f` can come to, and what it leaves. Every start is such a one
  (`Feed.starting_start`), and it succeeds just when no name stands in the way
  (`Feed.start_eq_ok_iff`);
* `Feed.startOn r` : the coordinator is started on the registry `r`.

Unless the coordinator was started already, a start leaves the first name of the source taken, and
a name that is taken stays so. Therefore one registry lets the metrics of a source in only once
(`start_contained`).
-/

namespace MeterFeed

/-! ## What a registry gains -/

/-- A registry gains names of a source, in their order, with consecutive numbers, and with the types
that the source gives them. -/
structure Gains (s : Source) (names : List String) (r r' : Registry) : Prop where
  metrics : r'.metrics = r.metrics ++ s.handles r.metrics.length names
  appended : r'.names = r.names ++ names
  handle : ∀ (k : Nat) (name : String), names[k]? = some name →
    ∃ m, r'.metrics[r.metrics.length + k]? = some m ∧ m.name = name ∧
      m.id = r.metrics.length + k ∧ (m.valueType = .unsigned ↔ name ∈ s.unsignedMetrics)

theorem Source.valueType_eq_unsigned_iff {s : Source} {name : String} :
    s.valueType name = .unsigned ↔ name ∈ s.unsignedMetrics := by
  unfold valueType
  split
  · rename_i hcontains
    exact iff_of_true rfl (List.mem_of_elem_eq_true hcontains)
  · rename_i hcontains
    exact iff_of_false ValueType.noConfusion fun h => hcontains (List.elem_eq_true_of_mem h)

theorem Source.gains_handles (s : Source) (names : List String) (r : Registry) :
    Gains s names r ⟨r.metrics ++ s.handles r.metrics.length names⟩ := by
  refine ⟨rfl, ?_, fun k name hname => ?_⟩
  · show (r.metrics ++ _).map Metric.name = _
    rw [List.map_append, names_handles]
    rfl
  · refine ⟨(s.registration name).metric (r.metrics.length + k : Nat), ?_, rfl,
      Int.natCast_add _ _, valueType_eq_unsigned_iff⟩
    show (r.metrics ++ _)[_]? = _
    rw [List.getElem?_append_right (Nat.le_add_right _ _), Nat.add_sub_cancel_left]
    unfold handles
    rw [List.getElem?_mapIdx, hname]
    rfl

theorem Registry.mem_names_attempts {r : Registry} {name : String} (h : name ∈ r.names)
    (xs : List Registration) : name ∈ (r.attempts xs).2.names := by
  unfold names at h ⊢
  rw [metrics_attempts, List.map_append]
  exact List.mem_append_left _ h

theorem Source.metrics_ne_nil_of_make {options : SourceOptions} {settings : Settings} {s : Source}
    (h : make options settings = .ok s) : s.metrics ≠ [] := by
  unfold make at h
  dsimp only at h
  split at h
  · cases h
  · split at h
    · cases h
    · rename_i hmetrics
      cases h
      exact fun hnil => hmetrics (List.isEmpty_iff.mpr hnil)

/-! ## What a start comes to -/

/-- A registry has gained names, this was noted of each, and nothing else has changed. -/
structure Enrolled (f g : Feed) (names : List String) : Prop where
  feed : g = Feed.notes (Feed.registrations (f.source.handles f.registry.metrics.length names))
    { f with registry := g.registry }
  gains : Gains f.source names f.registry g.registry

/-- The coordinator has started with a table of handles: all names are registered, the coordinator
and the mapper have the handles, the window begins at the clock's time, and there is one
subscription more. Nothing else has changed but the journal. -/
structure Started (f g : Feed) (table : Fields Metric) : Prop where
  feed : ∃ journal, g = { f with
    registry := g.registry
    source := f.source.withTable table
    coordinator := { f.coordinator with
      phase := .waitingForEvent
      nextStart := some f.clock
      metrics := table
      started := true }
    bus := g.bus
    journal }
  gains : Gains f.source f.source.metrics f.registry g.registry
  table : table = (f.source.handles f.registry.metrics.length f.source.metrics).map
    fun m => (m.name, m)
  subscribed : g.bus.handlers cycleFinished = f.bus.handlers cycleFinished ++ [.coordinator]
  others : ∀ event ≠ cycleFinished, g.bus.handlers event = f.bus.handlers event

/-- What a start can come to. -/
inductive Starting (f : Feed) : Except Fault (Fields Metric) × Feed → Prop where
  /-- A coordinator that is started is left as it is, and so is all the rest. -/
  | refused (running : f.coordinator.started = true) : Starting f (.error .alreadyStarted, f)
  /-- The first name that is taken or repeated stops it; those before it are registered. -/
  | offended (before after : List String) (name : String) (g : Feed)
    (idle : f.coordinator.started = false) (names : f.source.metrics = before ++ name :: after)
    (takes : f.registry.Takes before) (offends : name ∈ f.registry.names ∨ name ∈ before)
    (enrolled : Enrolled f g before) : Starting f (.error (.nameTaken name), g)
  | succeeded (table : Fields Metric) (g : Feed) (idle : f.coordinator.started = false)
    (takes : f.registry.Takes f.source.metrics) (started : Started f g table) :
    Starting f (.ok table, g)

namespace Feed

variable {f : Feed}

def enroll (names : List String) (f : Feed) : Feed :=
  let made := f.source.handles f.registry.metrics.length names
  { f with registry := ⟨f.registry.metrics ++ made⟩ }.notes (registrations made)

theorem start_of_started (running : f.coordinator.started = true) :
    f.start = (.error .alreadyStarted, f) := by
  unfold start
  rw [if_pos running]

theorem start_of_offending {before after : List String} {name : String}
    (idle : f.coordinator.started = false) (names : f.source.metrics = before ++ name :: after)
    (takes : f.registry.Takes before) (offends : name ∈ f.registry.names ∨ name ∈ before) :
    f.start = (.error (.nameTaken name), f.enroll before) := by
  have hregister : f.registerMetrics = (.error (.nameTaken name), f.enroll before) := by
    unfold registerMetrics
    rw [names, Source.registerNames_of_offending takes offends]
    rfl
  unfold start
  rw [idle, hregister]
  rfl

theorem start_of_takes (idle : f.coordinator.started = false)
    (takes : f.registry.Takes f.source.metrics) :
    ∃ table g, f.start = (.ok table, g) ∧ Started f g table := by
  have hnames := Source.registerNames_of_takes (s := f.source) takes
  have htable := Source.table_of_registerNames hnames
  generalize Source.table (f.source.handles f.registry.metrics.length f.source.metrics) = table
    at htable
  let named : Feed := { f.enroll f.source.metrics with source := f.source.withTable table }
  have hregister : f.registerMetrics = (.ok table, named) := by
    unfold registerMetrics
    rw [hnames]
    dsimp only
    rw [Source.table_of_registerNames hnames, ← htable]
    rfl
  obtain ⟨journal, hopening⟩ := opening_eq table named
  refine ⟨table, named.opening table, ?_, ?_⟩
  · unfold start
    rw [idle, hregister]
    rfl
  · rw [hopening]
    exact ⟨⟨journal, rfl⟩, f.source.gains_handles _ _, htable, EventBus.handlers_subscribe _ _ _,
      fun event hother => EventBus.handlers_subscribe_of_ne hother _ _⟩

/-- **Every start comes to one of the three.** -/
theorem starting_start (f : Feed) : Starting f f.start := by
  cases hstarted : f.coordinator.started with
  | true =>
    rw [start_of_started hstarted]
    exact .refused hstarted
  | false =>
    by_cases htakes : f.registry.Takes f.source.metrics
    · obtain ⟨table, g, hstart, hg⟩ := start_of_takes hstarted htakes
      rw [hstart]
      exact .succeeded table g hstarted htakes hg
    · obtain ⟨before, name, after, hnames, hbefore, hoffends⟩ :=
        Registry.exists_offending htakes
      rw [start_of_offending hstarted hnames hbefore hoffends]
      exact .offended before after name _ hstarted hnames hbefore hoffends
        ⟨rfl, f.source.gains_handles _ _⟩

/-- A start succeeds just when the coordinator is not started and no name stands in the way. -/
theorem start_eq_ok_iff (f : Feed) : (∃ table, f.start.1 = .ok table) ↔
    f.coordinator.started = false ∧ f.registry.Takes f.source.metrics := by
  constructor
  · rintro ⟨table, hok⟩
    have hstarting := f.starting_start
    rcases hstart : f.start with ⟨result, g⟩
    rw [hstart] at hstarting hok
    cases hstarting with
    | refused => cases hok
    | offended => cases hok
    | succeeded _ _ idle takes => exact ⟨idle, takes⟩
  · rintro ⟨idle, takes⟩
    obtain ⟨table, g, hstart, -⟩ := start_of_takes idle takes
    exact ⟨table, by rw [hstart]⟩

/-! ## Starting again on a registry -/

/-- Starts the coordinator on a registry, in place of the one that the feed has. -/
def startOn (r : Registry) (f : Feed) : Except Fault (Fields Metric) × Feed :=
  start { f with registry := r }

theorem mem_names_start {name : String} {rest : List String}
    (hnames : f.source.metrics = name :: rest) (hnew : f.start.1 ≠ .error .alreadyStarted) :
    name ∈ f.start.2.registry.names := by
  have hstarting := f.starting_start
  generalize f.start = outcome at hstarting hnew
  cases hstarting with
  | refused => exact absurd rfl hnew
  | offended before after first _ _ hsplit _ hoffends henrolled =>
    rw [henrolled.gains.appended]
    rw [hnames] at hsplit
    cases before with
    | nil =>
      obtain ⟨rfl, -⟩ := List.cons.inj hsplit
      exact List.mem_append_left _ (hoffends.resolve_right List.not_mem_nil)
    | cons other others =>
      obtain ⟨rfl, -⟩ := List.cons.inj hsplit
      exact List.mem_append_right _ List.mem_cons_self
  | succeeded _ _ _ _ hstarted =>
    rw [hstarted.gains.appended, hnames]
    exact List.mem_append_right _ List.mem_cons_self

/-- A start on a registry that has the first name fails, and changes nothing. -/
theorem start_of_mem_names {name : String} {rest : List String}
    (hnames : f.source.metrics = name :: rest) (htaken : name ∈ f.registry.names) :
    ∃ fault, f.start = (.error fault, f) := by
  cases hstarted : f.coordinator.started with
  | true => exact ⟨_, start_of_started hstarted⟩
  | false =>
    have hstart : f.start = (.error (.nameTaken name), f.enroll []) :=
      start_of_offending hstarted hnames ⟨List.nodup_nil, List.forall_mem_nil _⟩ (.inl htaken)
    refine ⟨.nameTaken name, hstart.trans ?_⟩
    unfold enroll Source.handles
    simp [registrations, notes]

end Feed

theorem Turn.source_eq {s t : FeedState} (turn : Turn s t) :
    ∃ mapper, t.source = { s.source with mapper } := by
  cases turn with
  | opened _ _ source => exact ⟨_, source⟩
  | still source | skipped _ source | closed source | armed _ _ _ _ _ _ _ _ source
  | asked _ _ _ source | idled _ source | concluded _ source => exact ⟨_, source⟩

theorem Path.source_eq {s t : FeedState} (hpath : Path s t) :
    ∃ mapper, t.source = { s.source with mapper } := by
  refine hpath.keeps (P := fun u => ∃ mapper, u.source = { s.source with mapper }) ?_ ⟨_, rfl⟩
  rintro u v act ⟨mapper, hu⟩
  obtain ⟨mapper', hv⟩ := act.turn.source_eq
  exact ⟨mapper', by rw [hv, hu]⟩

/-- **A start succeeds when it can, and is contained when it fails.** A source has a metric. On
every path from the initial feed, and on every registry, a start comes to one of three things: it is
refused and nothing changes; it is stopped by the first name that is taken or repeated, and nothing
changes but that the names before it are registered; or it succeeds. It succeeds if and only if the
coordinator is not started, no name is repeated and none is taken. Unless it was refused, every
later start on that registry, whatever was registered in it since, fails and changes nothing. -/
theorem start_contained {options : SourceOptions} {settings : Settings} {source : Source}
    (made : Source.make options settings = .ok source) (clock : DateTime) (session : SessionAnswer)
    (trigger : Option Trigger) (ackTimeout : Number) (host : Host) (f : Feed)
    (path : Path (Feed.initial source clock session trigger ackTimeout host).toFeedState
      f.toFeedState) (r : Registry) :
    Starting { f with registry := r } (f.startOn r) ∧
      ((∃ table, (f.startOn r).1 = .ok table) ↔ f.coordinator.started = false ∧
        source.metrics.Nodup ∧ ∀ name ∈ source.metrics, name ∉ r.names) ∧
      ((f.startOn r).1 ≠ .error .alreadyStarted →
        ∀ later : Feed, Path (f.startOn r).2.toFeedState later.toFeedState → ∀ xs,
          let same := ((f.startOn r).2.registry.attempts xs).2
          ∃ fault, later.startOn same = (.error fault, { later with registry := same })) := by
  obtain ⟨name, rest, hmetrics⟩ :=
    List.exists_cons_of_ne_nil (Source.metrics_ne_nil_of_make made)
  have hsource : f.source.metrics = source.metrics := by
    obtain ⟨_, hsource⟩ := path.source_eq
    rw [hsource]
    rfl
  refine ⟨Feed.starting_start _, ?_, fun hnew later hlater xs => ?_⟩
  · rw [← hsource]
    refine (Feed.start_eq_ok_iff _).trans (and_congr_right fun _ => ?_)
    exact ⟨fun takes => ⟨takes.unique, takes.free⟩, fun takes => ⟨takes.1, takes.2⟩⟩
  · have hstart : Path { f with registry := r }.toFeedState (f.startOn r).2.toFeedState :=
      (Feed.runs_start _).path
    have hlast : later.source.metrics = name :: rest := by
      obtain ⟨_, hsame⟩ := Path.source_eq (hstart.trans hlater)
      rw [hsame]
      exact hsource.trans hmetrics
    have htaken : name ∈ (f.startOn r).2.registry.names :=
      Feed.mem_names_start (f := { f with registry := r }) (hsource.trans hmetrics) hnew
    exact Feed.start_of_mem_names hlast (Registry.mem_names_attempts htaken xs)

namespace Feed.Sample

/-- What is stated of a source with one metric twice. -/
def repeatedOptions : SourceOptions where
  site := some "rennes"
  hosts := some ["taurus-7"]
  metrics := some ["power", "energy", "power"]
  baseUrl := some "https://api"
  unsignedMetrics := some ["energy"]
  usePollTime := some false

def repeated : Source :=
  ⟨"rennes", ["taurus-7"], ["power", "energy", "power"], "https://api", ["energy"], false, none⟩

def repeating : Feed :=
  .initial repeated clock (.failure "down") none (.int 0) (.initial ⟨none, []⟩ 60 false clock)

end Feed.Sample

/-- The third metric of a source stops its start, and the first one every start after that. -/
theorem start_contained_repeated :
    Source.make Feed.Sample.repeatedOptions Settings.standard = .ok Feed.Sample.repeated ∧
      (Feed.Sample.repeating.startOn .empty).1 = .error (.nameTaken "power") ∧
      (Feed.Sample.repeating.startOn .empty).2.registry.names = ["power", "energy"] ∧
      ∀ later : Feed,
        Path (Feed.Sample.repeating.startOn .empty).2.toFeedState later.toFeedState → ∀ xs,
          let same := ((Feed.Sample.repeating.startOn .empty).2.registry.attempts xs).2
          ∃ fault, later.startOn same = (.error fault, { later with registry := same }) := by
  have hmade : Source.make Feed.Sample.repeatedOptions Settings.standard =
      .ok Feed.Sample.repeated := rfl
  have hstart : (Feed.Sample.repeating.startOn .empty).1 = .error (.nameTaken "power") := rfl
  obtain ⟨-, -, hlater⟩ := start_contained hmade Feed.Sample.clock (.failure "down") none (.int 0)
    (.initial ⟨none, []⟩ 60 false Feed.Sample.clock) Feed.Sample.repeating .refl .empty
  refine ⟨hmade, hstart, rfl, hlater ?_⟩
  rw [hstart]
  exact fun heq => nomatch heq

end MeterFeed
