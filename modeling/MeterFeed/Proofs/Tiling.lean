import Mathlib.Data.List.Chain
import MeterFeed.Proofs.CivilOrder
import MeterFeed.Proofs.Deed

/-!
# Windows tile the time of a stint

A stint goes from a start of the coordinator up to the stop after it. `Stint.Tiled` says how the
windows of the requests that are armed in it lie: the first one begins at the reading of the start,
each one begins where the one before ends, none ends before it begins, and the last one ends at the
latest reading. One more arming keeps that (`Stint.Tiled.arm`), and so does every deed
(`Tiling.keeps`). `windows_tile` says it of every run.
-/

namespace MeterFeed

/-! ## What the clocks of a window show -/

namespace DateTime

theorem later_eq_or {a b c : DateTime} (h : a.later b = .ok c) : c = a ∨ c = b := by
  unfold later at h
  split at h
  · cases h
    exact .inr rfl
  · cases h
    exact .inl rfl
  · cases h

theorem notAfter_later {a b c : DateTime} (hb : b.offset.isSome) (h : a.later b = .ok c) :
    a.NotAfter c := by
  unfold later isBefore at h
  by_cases hsame : (a.offset.isSome == b.offset.isSome) = true
  · have ha : a.offset.isSome := (eq_of_beq hsame).trans hb
    rw [if_pos hsame] at h
    by_cases hlt : a.orderKey < b.orderKey
    · rw [decide_eq_true hlt] at h
      cases h
      exact notAfter_of_orderKey ha hb (Int.le_of_lt hlt)
    · rw [decide_eq_false hlt] at h
      cases h
      exact notAfter_of_orderKey ha ha (Int.le_refl _)
  · rw [if_neg hsame] at h
    cases h

end DateTime

theorem Window.start_notAfter_finish (w : Window) : w.start.NotAfter w.finish :=
  DateTime.notAfter_of_orderKey w.aware.1 w.aware.2 w.ordered

/-! ## The texts of a request -/

/-- The URL of the queries of a source, up to the texts of the window. -/
def Source.queryHead (source : Source) : String :=
  Query.withoutSlashes source.baseUrl ++ "/sites/" ++ source.site ++ "/metrics?nodes=" ++
    joinNames source.hosts ++ "&metrics=" ++ joinNames source.metrics

/-- The URL of a request shows its window as two texts. -/
structure Request.Spans (source : Source) (r : Request) (start finish : String) : Prop where
  from_text : ApiTime.text r.window.start = .ok start
  to_text : ApiTime.text r.window.finish = .ok finish
  url : r.url = source.queryHead ++ "&start_time=" ++ start ++ "&end_time=" ++ finish

theorem Request.exists_spans {source : Source} {r : Request}
    (h : source.url r.window = .ok r.url) : ∃ start finish, r.Spans source start finish := by
  unfold Source.url Query.url at h
  cases hstart : ApiTime.text r.window.start with
  | error fault =>
    simp only [hstart] at h
    cases h
  | ok start =>
    cases hfinish : ApiTime.text r.window.finish with
    | error fault =>
      simp only [hstart, hfinish] at h
      cases h
    | ok finish =>
      simp only [hstart, hfinish] at h
      exact ⟨start, finish, hstart, hfinish, (Except.ok.inj h).symm⟩

/-! ## Stints -/

def Entry.arming? : Entry → Option (Request × DateTime)
  | .armed r reading => some (r, reading)
  | _ => none

/-- From a start of the coordinator up to the stop after it: the reading of the start, the requests
that were armed with the readings of their events, and whether the stop has come. -/
structure Stint where
  start : DateTime
  armed : List (Request × DateTime)
  stopped : Bool

namespace Stint

def requests (σ : Stint) : List Request :=
  σ.armed.map Prod.fst

def readings (σ : Stint) : List DateTime :=
  σ.start :: σ.armed.map Prod.snd

/-- Where the windows of a stint end so far. -/
def finish (σ : Stint) : DateTime :=
  (σ.requests.getLast?.map fun r => r.window.finish).getD σ.start

def arm (σ : Stint) (r : Request) (reading : DateTime) : Stint :=
  { σ with armed := σ.armed ++ [(r, reading)] }

/-- What an entry of the journal does to the stints, of which the latest one comes first. -/
def note : List Stint → Entry → List Stint
  | stints, .opened _ start => ⟨start, [], false⟩ :: stints
  | σ :: stints, .closed => { σ with stopped := true } :: stints
  | σ :: stints, .armed r reading =>
    if σ.stopped then σ :: stints else σ.arm r reading :: stints
  | stints, _ => stints

def ofJournal (journal : List Entry) : List Stint :=
  journal.foldl note []

/-- How the windows of a stint lie. -/
structure Tiled (source : Source) (σ : Stint) : Prop where
  /-- The first window begins at the reading of the start. -/
  first : ∀ r ∈ σ.requests.head?, r.window.start = σ.start
  /-- No window ends before it begins. -/
  ordered : ∀ r ∈ σ.requests, r.window.start.NotAfter r.window.finish
  /-- A window begins at the very time at which the one before ends, and the URLs of both show it
  in one text. -/
  contiguous : σ.requests.IsChain fun r next => next.window.start = r.window.finish ∧
    ∃ start middle finish, r.Spans source start middle ∧ next.Spans source middle finish
  /-- The last window ends at the latest one of the readings. -/
  latest : ∀ r ∈ σ.requests.getLast?, r.window.finish ∈ σ.readings ∧
    ∀ t ∈ σ.readings, t.NotAfter r.window.finish
  /-- A URL shows the ends of its window in texts that are in order. -/
  written : ∀ r ∈ σ.requests, ∃ start finish, r.Spans source start finish ∧
    (ApiTime.HasFullYear r.window.start → start ≤ finish)

/-! ## Arming in a stint -/

variable {source : Source} {σ : Stint} {r : Request} {reading : DateTime}

theorem requests_arm : (σ.arm r reading).requests = σ.requests ++ [r] :=
  List.map_append ..

theorem readings_arm : (σ.arm r reading).readings = σ.readings ++ [reading] :=
  congrArg (σ.start :: ·) (List.map_append ..)

theorem finish_arm : (σ.arm r reading).finish = r.window.finish := by
  unfold finish
  rw [requests_arm, List.getLast?_concat]
  rfl

theorem finish_of_getLast? {last : Request} (h : σ.requests.getLast? = some last) :
    σ.finish = last.window.finish := by
  unfold finish
  rw [h]
  rfl

theorem of_getLast?_eq_none (h : σ.requests.getLast? = none) :
    σ.requests = [] ∧ σ.readings = [σ.start] ∧ σ.finish = σ.start := by
  have hrequests : σ.requests = [] := List.getLast?_eq_none_iff.mp h
  have harmed : σ.armed = [] := List.map_eq_nil_iff.mp hrequests
  refine ⟨hrequests, ?_, ?_⟩
  · unfold readings
    rw [harmed]
    rfl
  · unfold finish
    rw [h]
    rfl

namespace Tiled

theorem opened (start : DateTime) : Tiled source ⟨start, [], false⟩ :=
  ⟨fun _ h => (nomatch h), fun _ h => (nomatch h), .nil, fun _ h => (nomatch h),
    fun _ h => (nomatch h)⟩

theorem stop (h : σ.Tiled source) : Tiled source { σ with stopped := true } :=
  ⟨h.first, h.ordered, h.contiguous, h.latest, h.written⟩

/-- The windows of a stint end at one of its readings, and no reading is after it. -/
theorem finish_mem (h : σ.Tiled source) : σ.finish ∈ σ.readings := by
  cases hlast : σ.requests.getLast? with
  | none =>
    obtain ⟨-, hreadings, hfinish⟩ := of_getLast?_eq_none hlast
    rw [hreadings, hfinish]
    exact List.mem_singleton_self _
  | some last =>
    rw [finish_of_getLast? hlast]
    exact (h.latest last hlast).1

theorem notAfter_finish (h : σ.Tiled source) (haware : σ.finish.offset.isSome) :
    ∀ t ∈ σ.readings, t.NotAfter σ.finish := by
  cases hlast : σ.requests.getLast? with
  | none =>
    obtain ⟨-, hreadings, hfinish⟩ := of_getLast?_eq_none hlast
    intro t ht
    rw [hreadings, List.mem_singleton] at ht
    rw [hfinish] at haware ⊢
    rw [ht]
    exact DateTime.notAfter_of_orderKey haware haware (Int.le_refl _)
  | some last =>
    rw [finish_of_getLast? hlast]
    exact (h.latest last hlast).2

theorem first_arm (h : σ.Tiled source) (hstart : r.window.start = σ.finish) :
    ∀ q ∈ (σ.arm r reading).requests.head?, q.window.start = σ.start := by
  intro first hfirst
  rw [requests_arm] at hfirst
  cases hlast : σ.requests.getLast? with
  | none =>
    obtain ⟨hnone, -, hfinish⟩ := of_getLast?_eq_none hlast
    rw [hnone] at hfirst
    cases hfirst
    exact hstart.trans hfinish
  | some last =>
    have hne : σ.requests ≠ [] := fun heq => by
      rw [heq] at hlast
      cases hlast
    rw [List.head?_append_of_ne_nil _ hne] at hfirst
    exact h.first first hfirst

/-- The text that ends one URL begins the next, for both are texts of one time. -/
theorem contiguous_arm (h : σ.Tiled source) (hstart : r.window.start = σ.finish)
    {start finish : String} (hspans : r.Spans source start finish) :
    (σ.arm r reading).requests.IsChain fun q next => next.window.start = q.window.finish ∧
      ∃ start middle finish, q.Spans source start middle ∧ next.Spans source middle finish := by
  rw [requests_arm, List.isChain_append]
  refine ⟨h.contiguous, .singleton r, ?_⟩
  intro last hlast next hnext
  cases hnext
  have hmeets : r.window.start = last.window.finish := hstart.trans (finish_of_getLast? hlast)
  obtain ⟨before, middle, hlastSpans, -⟩ := h.written last (List.mem_of_getLast? hlast)
  have htext : middle = start := by
    have hsame := hlastSpans.to_text.symm.trans (hmeets ▸ hspans.from_text)
    exact Except.ok.inj hsame
  exact ⟨hmeets, before, middle, finish, hlastSpans, htext ▸ hspans⟩

theorem latest_arm (h : σ.Tiled source) (hstart : r.window.start = σ.finish)
    (hends : reading.later σ.finish = .ok r.window.finish) :
    r.window.finish ∈ (σ.arm r reading).readings ∧
      ∀ t ∈ (σ.arm r reading).readings, t.NotAfter r.window.finish := by
  have haware : σ.finish.offset.isSome := hstart ▸ r.window.aware.1
  rw [readings_arm]
  constructor
  · rcases DateTime.later_eq_or hends with heq | heq
    · rw [heq]
      exact List.mem_append_right _ (List.mem_singleton_self _)
    · rw [heq]
      exact List.mem_append_left _ h.finish_mem
  · intro t ht
    rw [List.mem_append, List.mem_singleton] at ht
    rcases ht with ht | rfl
    · exact (h.notAfter_finish haware t ht).trans (hstart ▸ r.window.start_notAfter_finish)
    · exact DateTime.notAfter_later haware hends

/-- **One more window is laid at the end.** -/
theorem arm (h : σ.Tiled source) (hstart : r.window.start = σ.finish)
    (hends : reading.later σ.finish = .ok r.window.finish)
    (hurl : source.url r.window = .ok r.url) : (σ.arm r reading).Tiled source := by
  have hordered : r.window.start.NotAfter r.window.finish := r.window.start_notAfter_finish
  obtain ⟨start, finish, hspans⟩ := Request.exists_spans hurl
  refine ⟨h.first_arm hstart, ?_, h.contiguous_arm hstart hspans, ?_, ?_⟩
  · intro q hq
    rw [requests_arm, List.mem_append, List.mem_singleton] at hq
    rcases hq with hq | rfl
    · exact h.ordered q hq
    · exact hordered
  · intro last hlast
    rw [requests_arm, List.getLast?_concat] at hlast
    cases hlast
    exact h.latest_arm hstart hends
  · intro q hq
    rw [requests_arm, List.mem_append, List.mem_singleton] at hq
    rcases hq with hq | rfl
    · exact h.written q hq
    · refine ⟨start, finish, hspans, fun hyear => ?_⟩
      exact ApiTime.text_le_text hordered hspans.from_text hspans.to_text hyear

end Tiled

/-! ## Reading a journal with something at its end -/

theorem ofJournal_marks (journal : List Entry) : ofJournal (marks journal) = ofJournal journal :=
  foldl_marks (fun _ e he => by cases e <;> first | rfl | cases he) journal []

theorem ofJournal_append (journal es : List Entry) :
    ofJournal (journal ++ es) = es.foldl note (ofJournal journal) :=
  List.foldl_append ..

theorem foldl_displaced (requests : List Request) (stints : List Stint) :
    (requests.map .displaced).foldl note stints = stints := by
  induction requests with
  | nil => rfl
  | cons r rs ih => exact ih

theorem arming?_displaced (requests : List Request) :
    (requests.map .displaced).filterMap Entry.arming? = [] := by
  apply List.filterMap_eq_nil_iff.mpr
  intro e he
  obtain ⟨r, -, rfl⟩ := List.mem_map.mp he
  rfl

end Stint

/-- The stints of a journal are tiled, everything was armed in one of them, and while the
coordinator runs the next window begins where those of the latest stint end. -/
structure Tiling (source : Source) (journal : List Entry) (c : Coordinator) : Prop where
  tiled : ∀ σ ∈ Stint.ofJournal journal, σ.Tiled source
  armed : (Stint.ofJournal journal).reverse.flatMap Stint.armed = journal.filterMap Entry.arming?
  stopped : ∀ σ ∈ (Stint.ofJournal journal).head?, σ.stopped = !c.started
  next : c.started = true →
    ∃ σ ∈ (Stint.ofJournal journal).head?, c.nextStart = some σ.finish

namespace Tiling

variable {source : Source} {journal : List Entry} {c c' : Coordinator}

theorem initial (h : c.started = false) : Tiling source [] c :=
  ⟨fun _ h => (nomatch h), rfl, fun _ h => (nomatch h), fun hc => by rw [h] at hc; cases hc⟩

theorem marks_iff : Tiling source (marks journal) c ↔ Tiling source journal c := by
  have harming : (marks journal).filterMap Entry.arming? = journal.filterMap Entry.arming? :=
    filterMap_marks (fun e he => by cases e <;> first | rfl | cases he) journal
  constructor
  · rintro ⟨htiled, harmed, hstopped, hnext⟩
    rw [Stint.ofJournal_marks] at htiled harmed hstopped hnext
    exact ⟨htiled, harmed.trans harming, hstopped, hnext⟩
  · rintro ⟨htiled, harmed, hstopped, hnext⟩
    rw [← Stint.ofJournal_marks journal] at htiled harmed hstopped hnext
    exact ⟨htiled, harmed.trans harming.symm, hstopped, hnext⟩

theorem append_other (h : Tiling source journal c) {es : List Entry}
    (hnote : ∀ stints, es.foldl Stint.note stints = stints)
    (harming : es.filterMap Entry.arming? = []) (hstarted : c'.started = c.started)
    (hnext : c'.nextStart = c.nextStart) : Tiling source (journal ++ es) c' := by
  have hstints : Stint.ofJournal (journal ++ es) = Stint.ofJournal journal := by
    rw [Stint.ofJournal_append, hnote]
  refine ⟨?_, ?_, ?_, ?_⟩ <;> rw [hstints]
  · exact h.tiled
  · rw [List.filterMap_append, harming, List.append_nil]
    exact h.armed
  · rw [hstarted]
    exact h.stopped
  · rw [hstarted, hnext]
    exact h.next

theorem opened (h : Tiling source journal c) (metrics : Nat) (start : DateTime)
    (hstarted : c'.started = true) (hnext : c'.nextStart = some start) :
    Tiling source (journal ++ [.opened metrics start]) c' := by
  have hstints : Stint.ofJournal (journal ++ [.opened metrics start]) =
      ⟨start, [], false⟩ :: Stint.ofJournal journal := by
    rw [Stint.ofJournal_append]
    rfl
  refine ⟨?_, ?_, ?_, ?_⟩ <;> rw [hstints]
  · intro σ hσ
    rcases List.mem_cons.mp hσ with rfl | hσ
    · exact .opened start
    · exact h.tiled σ hσ
  · rw [List.reverse_cons, List.flatMap_append, h.armed, List.filterMap_append]
    rfl
  · intro σ hσ
    cases hσ
    rw [hstarted]
    rfl
  · exact fun _ => ⟨_, rfl, hnext⟩

theorem closed (h : Tiling source journal c) (hstopped : c'.started = false) :
    Tiling source (journal ++ [.closed]) c' := by
  have hnotes := Stint.ofJournal_append journal [.closed]
  have hnotStarted : ¬ c'.started = true := by
    rw [hstopped]
    exact Bool.false_ne_true
  cases hstints : Stint.ofJournal journal with
  | nil =>
    have hafter : Stint.ofJournal (journal ++ [.closed]) = [] := by
      rw [hnotes, hstints]
      rfl
    have harmed := h.armed
    rw [hstints] at harmed
    refine ⟨?_, ?_, ?_, fun hstarted => absurd hstarted hnotStarted⟩ <;> rw [hafter]
    · exact fun _ hσ => nomatch hσ
    · rw [List.filterMap_append, ← harmed]
      rfl
    · exact fun _ hσ => nomatch hσ
  | cons σ stints =>
    have hafter : Stint.ofJournal (journal ++ [.closed]) = { σ with stopped := true } :: stints := by
      rw [hnotes, hstints]
      rfl
    have htiled := h.tiled
    have harmed := h.armed
    rw [hstints] at htiled harmed
    refine ⟨?_, ?_, ?_, fun hstarted => absurd hstarted hnotStarted⟩ <;> rw [hafter]
    · intro τ hτ
      rcases List.mem_cons.mp hτ with rfl | hτ
      · exact (htiled σ List.mem_cons_self).stop
      · exact htiled τ (List.mem_cons_of_mem _ hτ)
    · rw [List.filterMap_append, ← harmed, List.reverse_cons, List.reverse_cons,
        List.flatMap_append, List.flatMap_append]
      exact (List.append_nil _).symm
    · intro τ hτ
      cases hτ
      rw [hstopped]
      rfl

theorem arm (h : Tiling source journal c) {start : DateTime} {r : Request} {reading : DateTime}
    (hrunning : c.started = true) (hopens : c.nextStart = some start)
    (hstart : r.window.start = start) (hends : reading.later start = .ok r.window.finish)
    (hurl : source.url r.window = .ok r.url) (hstarted : c'.started = true)
    (hnext : c'.nextStart = some r.window.finish) :
    Tiling source (journal ++ [.armed r reading]) c' := by
  obtain ⟨σ, hσ, hfinish⟩ := h.next hrunning
  obtain ⟨stints, hstints⟩ : ∃ stints, Stint.ofJournal journal = σ :: stints :=
    List.head?_eq_some_iff.mp hσ
  obtain rfl : start = σ.finish := Option.some.inj (hopens.symm.trans hfinish)
  have hrunningStint : σ.stopped = false := by
    rw [h.stopped σ hσ, hrunning]
    rfl
  have hafter : Stint.ofJournal (journal ++ [.armed r reading]) = σ.arm r reading :: stints := by
    rw [Stint.ofJournal_append, hstints]
    show (if σ.stopped then σ :: stints else σ.arm r reading :: stints) = _
    rw [hrunningStint]
    rfl
  have htiled := h.tiled
  have harmed := h.armed
  rw [hstints] at htiled harmed
  refine ⟨?_, ?_, ?_, ?_⟩ <;> rw [hafter]
  · intro τ hτ
    rcases List.mem_cons.mp hτ with rfl | hτ
    · exact (htiled σ List.mem_cons_self).arm hstart hends hurl
    · exact htiled τ (List.mem_cons_of_mem _ hτ)
  · rw [List.filterMap_append, ← harmed, List.reverse_cons, List.reverse_cons,
      List.flatMap_append, List.flatMap_append, List.append_assoc]
    congr 1
    simp [Stint.arm, Entry.arming?]
  · intro τ hτ
    cases hτ
    rw [hstarted]
    exact hrunningStint
  · intro _
    refine ⟨_, rfl, ?_⟩
    rw [hnext, Stint.finish_arm]

/-- **Windows that tile the time still do so after every deed.** -/
theorem keeps {s t : FeedState} (deed : Deed s t) (hurl : s.source.url = source.url)
    (h : Tiling source (marks s.journal) s.coordinator) :
    Tiling source (marks t.journal) t.coordinator := by
  cases deed with
  | calm hcalm =>
    rw [hcalm.marks, ← List.append_nil (marks s.journal)]
    exact h.append_other (fun _ => rfl) rfl hcalm.started hcalm.nextStart
  | opened metrics _ _ started next _ marks =>
    rw [marks]
    exact h.opened metrics s.clock started next
  | closed _ stopped _ marks =>
    rw [marks]
    exact h.closed stopped
  | armed start finish request _ running started opens ends made written next _ marks =>
    obtain ⟨hstart, hfinish⟩ := Window.make_eq_ok made
    rw [hurl] at written
    rw [← hfinish] at ends next
    have harmed := h.arm running opens hstart ends written started next
    rw [marks, List.append_cons]
    exact harmed.append_other (Stint.foldl_displaced _) (Stint.arming?_displaced _) rfl rfl
  | asked request _ nextStart started _ _ marks =>
    rw [marks]
    exact h.append_other (fun _ => rfl) rfl started nextStart

end Tiling

theorem Deed.url_eq {s t : FeedState} (deed : Deed s t) : t.source.url = s.source.url := by
  cases deed with
  | calm h => exact h.url
  | opened _ url => exact url
  | closed url => exact url
  | armed _ _ _ url => exact url
  | asked _ url => exact url

/-- **Windows tile the time.** After every command of a run, also of those inside session requests,
the windows that were armed in a stint begin at the reading of its start, each where the one before
ends, and end at the latest reading; their URLs show the ends they share in one text. Whatever else
happens, the next window begins where the last one ends. -/
theorem windows_tile (source : Source) (clock : DateTime) (session : SessionAnswer)
    (trigger : Option Trigger) (ackTimeout : Number) (host : Host) (commands : List Command)
    (a : Answer)
    (ha : a ∈ (Feed.initial source clock session trigger ackTimeout host).everyAnswer commands) :
    Tiling source a.state.journal a.state.coordinator := by
  have hpath : Path _ a.state := Feed.path_of_mem_everyAnswer rfl ha
  have hkept := hpath.keeps
    (P := fun s => s.source.url = source.url ∧ Tiling source (marks s.journal) s.coordinator)
    (fun _ _ act h => ⟨act.deed.url_eq.trans h.1, h.2.keeps act.deed h.1⟩)
    ⟨rfl, .initial rfl⟩
  exact Tiling.marks_iff.mp hkept.2

/-- The clock goes back before the second event, and is on another offset from then on; then the
coordinator is stopped and started again. -/
def Feed.Sample.backwards : List Command :=
  [.start, .advance 1500000, .publish [], .setClock ⟨63888710399000000, some 7200000000, by decide⟩,
    .publish [], .advance 4000000, .publish [], .stop, .newRegistry, .start]

/-- Three windows of a stint that is over, and none yet in the next one. -/
theorem windows_tile_backwards : ∃ a ∈ Feed.Sample.feed.everyAnswer Feed.Sample.backwards,
    ((Stint.ofJournal a.state.journal).map fun σ =>
      σ.requests.map fun r => (r.window.start.text, r.window.finish.text)) =
      [[], [("2025-07-21T14:00:00+00:00", "2025-07-21T14:00:01.500000+00:00"),
        ("2025-07-21T14:00:01.500000+00:00", "2025-07-21T14:00:01.500000+00:00"),
        ("2025-07-21T14:00:01.500000+00:00", "2025-07-21T16:00:03+02:00")]] ∧
      Tiling ⟨"rennes", ["taurus-7"], ["power"], "https://api", [], false, none⟩
        a.state.journal a.state.coordinator := by
  obtain ⟨a, ha, hwindows⟩ : ∃ a ∈ Feed.Sample.feed.everyAnswer Feed.Sample.backwards,
      ((Stint.ofJournal a.state.journal).map fun σ =>
        σ.requests.map fun r => (r.window.start.text, r.window.finish.text)) =
        [[], [("2025-07-21T14:00:00+00:00", "2025-07-21T14:00:01.500000+00:00"),
          ("2025-07-21T14:00:01.500000+00:00", "2025-07-21T14:00:01.500000+00:00"),
          ("2025-07-21T14:00:01.500000+00:00", "2025-07-21T16:00:03+02:00")]] := by
    decide +kernel
  exact ⟨a, ha, hwindows, windows_tile _ _ _ _ _ _ _ _ ha⟩

end MeterFeed
