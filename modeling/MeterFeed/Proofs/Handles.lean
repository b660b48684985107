import MeterFeed.Proofs.Cycle
import MeterFeed.Proofs.Shift
import MeterFeed.Proofs.Starting

/-!
# Handles of metrics

The handles of the metrics are kept in three places: in the registry that made them, in the
coordinator, and in the mapper of the source. A start that succeeds writes all of them
(`Feed.begins_of_start`), and nothing else changes the coordinator's and the mapper's
(`Turn.table`). So these two are always the same table, the one of the last start that succeeded
(`InForce`), and its registry returns those handles whatever is registered later.

A point is made with the table that is in force when the session answers
(`Feed.carries_of_mem_poll`).
-/

namespace MeterFeed

/-! ## Journals without a start -/

/-- No start succeeds between two states. -/
def Unopened (s t : FeedState) : Prop :=
  ∃ during, t.journal = s.journal ++ during ∧ ∀ e ∈ during, e.isOpening = false

namespace Unopened

theorem refl (s : FeedState) : Unopened s s :=
  ⟨[], (List.append_nil _).symm, List.forall_mem_nil _⟩

theorem trans {s t u : FeedState} (hst : Unopened s t) (htu : Unopened t u) : Unopened s u := by
  obtain ⟨during, hduring, hes⟩ := hst
  obtain ⟨during', hduring', hes'⟩ := htu
  refine ⟨during ++ during', by rw [hduring', hduring, List.append_assoc], fun e he => ?_⟩
  rcases List.mem_append.mp he with he | he
  · exact hes e he
  · exact hes' e he

theorem of_adds {s t : FeedState} {es : List Entry} (h : Adds es s t)
    (hes : ∀ e ∈ es, e.isOpening = false) : Unopened s t := by
  obtain ⟨during, hduring, rfl⟩ := h
  refine ⟨during, hduring, fun e he => ?_⟩
  cases e with
  | opened count start =>
    have hopened := hes _ (List.mem_filter.mpr ⟨he, rfl⟩)
    cases hopened
  | _ => rfl

end Unopened

/-! ## What a start does to handles -/

/-- A start that succeeds gives the coordinator and the mapper one table, with a handle for every
metric of the source, which the registry of that start returns ever after. -/
structure Begins (f g : Feed) (table : Fields Metric) : Prop where
  start : f.start = (.ok table, g)
  metrics : g.coordinator.metrics = table
  mapper : g.source.mapper = some ⟨table, g.source.usePollTime⟩
  names : Fields.names table = f.source.metrics
  registry : ∃ xs, g.registry = (f.registry.attempts xs).2
  handles : ∀ name m, Fields.value? name table = some m →
    m.name = name ∧ ∀ later, (g.registry.attempts later).2.find? name = some m

theorem Feed.begins_of_start {f g : Feed} {table : Fields Metric}
    (h : f.start = (.ok table, g)) : Begins f g table := by
  have hstarting := f.starting_start
  rw [h] at hstarting
  cases hstarting with
  | succeeded _ _ _ takes started =>
    have hnames := Source.registerNames_of_takes (s := f.source) takes
    have hregistry : g.registry = _ := congrArg Registry.mk started.gains.metrics
    obtain ⟨xs, hxs⟩ := f.source.exists_attempts f.source.metrics f.registry
    rw [hnames] at hxs
    obtain ⟨journal, hg⟩ := started.feed
    refine ⟨h, by rw [hg], by rw [hg]; rfl, ?_, ⟨xs, hregistry.trans hxs⟩, fun name m hm => ?_⟩
    · rw [started.table]
      exact List.map_map.trans (Source.names_handles _ _ _)
    · rw [started.table] at hm
      obtain ⟨m', hm', heq⟩ := List.mem_map.mp (Fields.mem_of_value? hm)
      obtain ⟨rfl, rfl⟩ := Prod.mk.inj heq
      rw [hregistry]
      exact ⟨rfl, Registry.find?_attempts (Source.find?_of_registerNames hnames m' hm')⟩

/-! ## What changes the table -/

/-- The source, with its mapper, and the coordinator's handles stay as they are. -/
structure TableKept (s t : FeedState) : Prop where
  source : t.source = s.source
  metrics : t.coordinator.metrics = s.coordinator.metrics

/-- A start that succeeds leads from one state to another. -/
def Opens (s t : FeedState) : Prop :=
  ∃ f g table, f.toFeedState = s ∧ g.toFeedState = t ∧ Begins f g table

theorem Turn.table {s t : FeedState} (turn : Turn s t) :
    (TableKept s t ∧ Unopened s t) ∨ Opens s t := by
  have hone : ∀ e : Entry, e.isOpening = false → ∀ x ∈ [e], x.isOpening = false :=
    fun _ he => List.forall_mem_singleton.mpr he
  cases turn with
  | still source coordinator _ adds =>
    exact .inl ⟨⟨source, by rw [coordinator]⟩, .of_adds adds (List.forall_mem_nil _)⟩
  | skipped _ source coordinator _ adds =>
    exact .inl ⟨⟨source, by rw [coordinator]⟩, .of_adds adds (hone _ rfl)⟩
  | opened table _ _ _ _ _ begun =>
    obtain ⟨f, g, hf, hg, hstart⟩ := begun
    exact .inr ⟨f, g, table, hf, hg, Feed.begins_of_start hstart⟩
  | closed source coordinator _ adds =>
    exact .inl ⟨⟨source, by rw [coordinator]⟩, .of_adds adds (hone _ rfl)⟩
  | armed _ _ _ _ _ _ _ _ source coordinator _ adds =>
    refine .inl ⟨⟨source, by rw [coordinator]⟩, .of_adds adds fun e he => ?_⟩
    rcases List.mem_cons.mp he with rfl | he
    · rfl
    · obtain ⟨r, -, rfl⟩ := List.mem_map.mp he
      rfl
  | asked _ _ _ source coordinator _ adds =>
    exact .inl ⟨⟨source, by rw [coordinator]⟩,
      .of_adds adds (List.forall_mem_cons.mpr ⟨rfl, hone _ rfl⟩)⟩
  | idled _ source coordinator _ adds =>
    exact .inl ⟨⟨source, by rw [coordinator]⟩, .of_adds adds (hone _ rfl)⟩
  | concluded _ source coordinator _ adds =>
    exact .inl ⟨⟨source, by rw [coordinator]⟩, .of_adds adds (hone _ rfl)⟩

/-- The coordinator and the mapper have one table: none before the first start that succeeds, and
then that of the last one. -/
inductive InForce (first s : FeedState) : Prop where
  | unstarted (mapper : s.source.mapper = none) (metrics : s.coordinator.metrics = [])
    (since : Unopened first s)
  | started (f g : Feed) (table : Fields Metric) (before : Path first f.toFeedState)
    (begins : Begins f g table) (after : Path g.toFeedState s) (since : Unopened g.toFeedState s)
    (metrics : s.coordinator.metrics = table)
    (mapper : s.source.mapper = some ⟨table, s.source.usePollTime⟩)

theorem Path.inForce {s t : FeedState} (fresh : s.source.mapper = none)
    (unnamed : s.coordinator.metrics = []) (hpath : Path s t) : InForce s t := by
  induction hpath with
  | refl => exact .unstarted fresh unnamed (.refl s)
  | @tail t u hpath act ih =>
    rcases act.turn.table with ⟨⟨hsource, hmetrics⟩, hsince⟩ | ⟨f, g, table, rfl, rfl, hbegins⟩
    · cases ih with
      | unstarted mapper metrics since =>
        exact .unstarted (by rw [hsource, mapper]) (hmetrics.trans metrics) (since.trans hsince)
      | started f g table before begins after since metrics mapper =>
        refine .started f g table before begins (after.tail act) (since.trans hsince)
          (hmetrics.trans metrics) ?_
        rw [hsource]
        exact mapper
    · exact .started f g table hpath hbegins .refl (.refl _) hbegins.metrics hbegins.mapper

/-- The mapper that the source has maps through the coordinator's handles. -/
theorem InForce.table_eq {first s : FeedState} {mapper : Mapper} (h : InForce first s)
    (hmapper : s.source.mapper = some mapper) : mapper.table = s.coordinator.metrics ∧
      ∀ name m, Fields.value? name mapper.table = some m → m.name = name := by
  cases h with
  | unstarted absent =>
    rw [absent] at hmapper
    cases hmapper
  | started f g table _ begins _ _ metrics present =>
    rw [present] at hmapper
    cases hmapper
    exact ⟨metrics.symm, fun name m hm => (begins.handles name m hm).1⟩

/-! ## The handles of points -/

/-- A point carries the handle of its record's metric in a table, and names that metric. -/
structure Carries (table : Fields Metric) (r : Record) (p : Point) : Prop where
  handle : Fields.value? r.metricId table = some p.metric
  named : p.metric.name = r.metricId
  attributed : Fields.value? Mapper.metricAttribute p.attributes = some (.text p.metric.name)

theorem Mapper.carries_of_map {mapper : Mapper} {r : Record} {time : DateTime} {p : Point}
    (hnames : ∀ name m, Fields.value? name mapper.table = some m → m.name = name)
    (h : mapper.map r time = .ok p) : Carries mapper.table r p := by
  unfold map at h
  split at h
  · cases h
  · rename_i metric hmetric
    split at h
    · cases h
    · cases h
      have hname := hnames r.metricId metric hmetric
      refine ⟨hmetric, hname, ?_⟩
      rw [hname]
      exact Fields.value?_put_self _ _ _

theorem Outcome.exists_of_mem {url : String} {mapper : Mapper} {time : DateTime}
    {answer : SessionAnswer} {polled : Polled} {p : Point}
    (h : Outcome url mapper time answer polled) (hp : p ∈ polled.points) :
    ∃ x r, Record.decode x = .ok r ∧ mapper.map r time = .ok p := by
  cases h with
  | batch =>
    obtain ⟨x, -, hx⟩ := List.mem_filterMap.mp hp
    obtain ⟨r, hdecoded, hpoint⟩ := Option.bind_eq_some_iff.mp hx
    refine ⟨x, r, Record.decode_of_decoded? hdecoded, ?_⟩
    unfold Mapper.point? at hpoint
    cases hmap : mapper.map r time with
    | error halt =>
      rw [hmap] at hpoint
      cases hpoint
    | ok point =>
      rw [hmap] at hpoint
      cases hpoint
      rfl
  | _ => cases hp

/-- **A point carries the handle of its record's metric** in the table that is in force when the
session answers. -/
theorem Feed.carries_of_mem_poll {first : FeedState} {f : Feed} {time : Option DateTime} {p : Point}
    (fresh : first.source.mapper = none) (unnamed : first.coordinator.metrics = [])
    (hfirst : Reachable first) (hpath : Path first f.toFeedState)
    (hp : p ∈ (f.poll run time).1.points) :
    ∃ request x r, f.coordinator.slot.item = some request ∧ Record.decode x = .ok r ∧
      (f.answered request).source.normalize r (time.getD f.clock) = .ok p ∧
      Carries (f.answered request).coordinator.metrics r p := by
  have hreachable := hfirst.trans hpath
  cases hfetching : f.coordinator.fetching with
  | true =>
    rw [poll_of_busy hfetching] at hp
    cases hp
  | false =>
    cases hitem : f.coordinator.slot.item with
    | none =>
      rw [(adds_poll_of_nothing run time hfetching hitem).1] at hp
      cases hp
    | some request =>
      have hanswered := path_answered hreachable hfetching hitem
      obtain ⟨mapper, hmapper⟩ := Option.isSome_iff_exists.mp
        (hanswered.mapper_isSome (hreachable.mapper_isSome hitem))
      obtain ⟨htable, hnames⟩ :=
        (Path.inForce fresh unnamed (hpath.trans hanswered)).table_eq hmapper
      rw [poll_of_waiting hfetching hreachable.unheld hitem] at hp
      obtain ⟨x, r, hdecode, hmap⟩ := (outcome_conclude hmapper).exists_of_mem hp
      have hcarries := Mapper.carries_of_map hnames hmap
      rw [htable] at hcarries
      refine ⟨request, x, r, rfl, hdecode, ?_, hcarries⟩
      unfold Source.normalize
      rw [hmapper]
      exact hmap

/-! ## Identity of metrics -/

/-- What identifies metrics on every path from a feed. -/
structure Identifies (f : Feed) : Prop where
  /-- The coordinator and the mapper have one table, that of the last start that succeeded. -/
  inForce : ∀ s, Path f.toFeedState s → InForce f.toFeedState s
  /-- Nothing but such a start changes it. -/
  changes : ∀ s t, Act s t → TableKept s t ∨ Opens s t
  /-- A point carries the handle of its record's metric in the table that is in force. -/
  points : ∀ g : Feed, Path f.toFeedState g.toFeedState → ∀ time,
    ∀ p ∈ (g.poll Feed.run time).1.points, ∃ request x r,
      g.coordinator.slot.item = some request ∧ Record.decode x = .ok r ∧
      (g.answered request).source.normalize r (time.getD g.clock) = .ok p ∧
      Carries (g.answered request).coordinator.metrics r p

/-- **Metrics are identified by their handles.** In every registry, whatever registrations were
tried, names are unique, handles are numbered from zero in the order of registration, and a
registration fails if and only if its name is taken, and then changes nothing. On every path from a
feed whose source is fresh, and so in whatever a run answers, the coordinator and the mapper of the
source have the same handles, those of the last start that succeeded, and points carry them. -/
theorem metrics_identified (source : Source) (clock : DateTime) (session : SessionAnswer)
    (trigger : Option Trigger) (ackTimeout : Number) (host : Host)
    (fresh : source.mapper = none) :
    let f := Feed.initial source clock session trigger ackTimeout host
    (∀ xs, (Registry.empty.attempts xs).2.Numbered ∧ (Registry.empty.attempts xs).2.metrics =
        (Registry.empty.attempts xs).1.filterMap Except.toOption) ∧
      (∀ (r : Registry) x, x.name ∈ r.names ↔ r.attempt x = (.error (.nameTaken x.name), r)) ∧
      (∀ commands, ∀ a ∈ f.everyAnswer commands, Path f.toFeedState a.state) ∧ Identifies f := by
  intro f
  have hfirst : Reachable f.toFeedState := ⟨_, _, _, _, _, _, .refl⟩
  refine ⟨fun xs => ⟨Registry.numbered_empty.attempts xs, Registry.metrics_attempts xs _⟩,
    fun r x => ⟨Registry.attempt_of_taken, fun h => ?_⟩,
    fun commands a ha => Feed.path_of_mem_everyAnswer rfl ha, ?_, ?_, ?_⟩
  · by_contra hfree
    rw [Registry.attempt_of_free hfree] at h
    cases h
  · exact fun s hpath => Path.inForce fresh rfl hpath
  · intro s t act
    exact act.turn.table.imp_left And.left
  · exact fun g hpath time p hp => Feed.carries_of_mem_poll fresh rfl hfirst hpath hp

open Feed.Sample in
/-- A source has two metrics. After a start, an event is answered with a measure of the second one,
and the point carries the second handle. -/
theorem metrics_identified_sample : ∃ (f g : Feed) (p : Point) (request : Request) (r : Record),
    f.source.mapper = none ∧ Identifies f ∧ Path f.toFeedState g.toFeedState ∧
      g.coordinator.metrics.map (fun field => (field.1, field.2.id)) =
        [("load", 0), ("power", 1)] ∧
      g.coordinator.slot.item = some request ∧ (g.poll Feed.run none).1.points = [p] ∧
      p.metric.id = 1 ∧ Carries (g.answered request).coordinator.metrics r p := by
  let source : Source := { feed.source with metrics := ["load", "power"] }
  let f := Feed.initial source clock (answer [measure "power" 131]) none (.int 0) feed.host
  let g := (f.run [.start, .publish []]).2
  let p : Point := { point 131 with metric := { (point 131).metric with id := 1 } }
  have hidentifies : Identifies f := (metrics_identified _ _ _ _ _ _ rfl).2.2.2
  have hpath : Path f.toFeedState g.toFeedState := (Feed.sound_run _ f).1.path
  have hmetrics : g.coordinator.metrics.map (fun field => (field.1, field.2.id)) =
      [("load", 0), ("power", 1)] := by
    decide +kernel
  have hpoints : (g.poll Feed.run none).1.points = [p] := by decide +kernel
  obtain ⟨request, x, r, hwaits, -, -, hcarries⟩ :=
    hidentifies.points g hpath none p (hpoints ▸ List.mem_singleton_self p)
  exact ⟨f, g, p, request, r, rfl, hidentifies, hpath, hmetrics, hwaits, hpoints, rfl, hcarries⟩

end MeterFeed
