import MeterFeed.Proofs.Hosting
import MeterFeed.Proofs.Shift

/-!
# A host in step with its scheduler

Every armed request has the scheduler run the polling job, and nothing else does. The journal of a
hosted run is a sequence of blocks, so a call that runs the job stands in the block of a request
that was armed (`Blocks.of_runAt`), and a request is armed only while the coordinator is started.

A host is on duty (`OnDuty`) after it has scheduled the job and until it is stopped. A start opens a
window before the job is scheduled; if the job cannot be scheduled, the start fails, and leaves the
coordinator started off duty. `scheduler_in_step` says that this is the only case in which the
scheduler is asked to run a job that it does not have.
-/

namespace MeterFeed

namespace Entry

def call? : Entry → Option SchedulerCall
  | .scheduler call => some call
  | _ => none

def runAt? : Entry → Option DateTime
  | .scheduler (.runAt now) => some now
  | _ => none

def reading? : Entry → Option DateTime
  | .armed _ reading => some reading
  | _ => none

end Entry

def calls (journal : List Entry) : List SchedulerCall :=
  journal.filterMap Entry.call?

@[simp] theorem calls_append (js es : List Entry) : calls (js ++ es) = calls js ++ calls es :=
  List.filterMap_append

theorem exists_split_of_runAt {journal : List Entry} {now : DateTime}
    (h : now ∈ journal.filterMap Entry.runAt?) :
    ∃ before after, journal = before ++ .scheduler (.runAt now) :: after := by
  obtain ⟨e, he, hrun⟩ := List.mem_filterMap.mp h
  obtain rfl : e = .scheduler (.runAt now) := by
    rcases e <;> try cases hrun
    rename_i call
    cases call <;> cases hrun
    rfl
  exact List.append_of_mem he

/-- The job has been scheduled, and since then the host was not stopped. -/
def OnDuty (journal : List Entry) : Prop :=
  ∃ earlier interval during,
    journal = earlier ++ .scheduler (.addJob interval) :: .scheduler .start :: during ∧
    ∀ e ∈ during, e ≠ .closed ∧ e ≠ .scheduler .shutdown

theorem OnDuty.append {journal es : List Entry} (h : OnDuty journal)
    (hes : ∀ e ∈ es, e ≠ .closed ∧ e ≠ .scheduler .shutdown) : OnDuty (journal ++ es) := by
  obtain ⟨earlier, interval, during, rfl, hduring⟩ := h
  exact ⟨earlier, interval, during ++ es, by simp, List.forall_mem_append.mpr ⟨hduring, hes⟩⟩

theorem OnDuty.exists_addJob {journal : List Entry} (h : OnDuty journal) :
    ∃ interval, Entry.scheduler (.addJob interval) ∈ journal := by
  obtain ⟨earlier, interval, during, rfl, -⟩ := h
  exact ⟨interval, by simp⟩

/-! ## Calls in blocks -/

section Blocks
variable {host : Host} {es : List Entry}

theorem Host.runAt_not_mem_hiring (host : Host) (now : DateTime) :
    SchedulerCall.runAt now ∉ host.hiring := by
  unfold hiring
  split <;> simp

/-- In a block, the call that runs the job comes last, for a request that was armed. -/
theorem Block.of_runAt {b before after : List Entry} {now : DateTime} (h : Block host.hiring b)
    (hb : b = before ++ .scheduler (.runAt now) :: after) :
    ∃ r reading, ∃ displaced : List Request,
      before = .armed r reading :: displaced.map .displaced ∧ reading.toUtc = .ok now := by
  have hmem : Entry.scheduler (.runAt now) ∈ b := by simp [hb]
  cases h with
  | single e he =>
    obtain rfl := List.mem_singleton.mp hmem
    cases he
  | started =>
    have hcall : SchedulerCall.runAt now ∈ host.hiring := by simpa using hmem
    exact absurd hcall (host.runAt_not_mem_hiring now)
  | stopped calls hcalls => rcases hcalls with rfl | rfl <;> simp at hmem
  | armed r reading displaced =>
    have hlead : Entry.scheduler (.runAt now) ∉ Entry.armed r reading :: displaced.map .displaced := by
      simp
    unfold arming runCalls at hb hmem
    cases hutc : reading.toUtc with
    | error fault =>
      rw [hutc] at hmem
      simp at hmem
    | ok utc =>
      rw [hutc] at hb
      rcases List.eq_nil_or_concat after with rfl | ⟨after, x, rfl⟩
      · obtain ⟨rfl, hlast⟩ := List.append_inj' hb rfl
        cases hlast
        exact ⟨r, reading, displaced, rfl, hutc⟩
      · have hsplit : (.armed r reading :: displaced.map .displaced) ++ [.scheduler (.runAt utc)] =
            (before ++ .scheduler (.runAt now) :: after) ++ [x] := by
          simpa using hb
        rw [(List.append_inj' hsplit rfl).1] at hlead
        simp at hlead

theorem Blocks.of_runAt {before after : List Entry} {now : DateTime} (h : Blocks host.hiring es)
    (hes : es = before ++ .scheduler (.runAt now) :: after) :
    ∃ done r reading, ∃ displaced : List Request, Blocks host.hiring done ∧
      before = done ++ .armed r reading :: displaced.map .displaced ∧ reading.toUtc = .ok now := by
  induction h using Blocks.induct generalizing before after with
  | none => simp at hes
  | more es b hblocks hb ih =>
    rcases List.append_eq_append_iff.mp hes with ⟨lead, rfl, hlead⟩ | ⟨_ | ⟨e, rest⟩, hes', hafter⟩
    · obtain ⟨r, reading, displaced, rfl, hutc⟩ := hb.of_runAt hlead
      exact ⟨es, r, reading, displaced, hblocks, rfl, hutc⟩
    · have hfirst : b = [] ++ .scheduler (.runAt now) :: after := hafter.symm
      obtain ⟨r, reading, displaced, hnil, -⟩ := hb.of_runAt hfirst
      cases hnil
    · obtain ⟨rfl, -⟩ := List.cons.inj hafter
      exact ih hes'

/-- Calls that run the job are made when a request is armed, at the reading of the clock. -/
theorem Blocks.runs_eq (h : Blocks host.hiring es) : es.filterMap Entry.runAt? =
    (es.filterMap Entry.reading?).filterMap fun reading => reading.toUtc.toOption := by
  induction h using Blocks.induct with
  | none => rfl
  | more es b _ hb ih =>
    have hblock : b.filterMap Entry.runAt? =
        (b.filterMap Entry.reading?).filterMap fun reading => reading.toUtc.toOption := by
      cases hb with
      | single e he => cases e <;> first | rfl | cases he
      | started =>
        unfold Host.hiring
        split <;> rfl
      | stopped calls hcalls => rcases hcalls with rfl | rfl <;> rfl
      | armed r reading displaced =>
        have hdisplaced : ∀ pick : Entry → Option DateTime, (∀ d, pick (.displaced d) = none) →
            (displaced.map Entry.displaced).filterMap pick = [] := by
          intro pick hpick
          rw [List.filterMap_map]
          exact List.filterMap_eq_nil_iff.mpr fun d _ => hpick d
        unfold arming runCalls
        simp only [List.cons_append, List.filterMap_cons, List.filterMap_append, Entry.runAt?,
          Entry.reading?, hdisplaced Entry.runAt? fun _ => rfl,
          hdisplaced Entry.reading? fun _ => rfl]
        cases reading.toUtc <;> rfl
    simp only [List.filterMap_append, ih, hblock]

theorem stays_of_mem_arming {r : Request} {reading : DateTime} {displaced : List Request} {e : Entry}
    (h : e ∈ arming r reading displaced) :
    e.isOpening = false ∧ e ≠ .closed ∧ e ≠ .scheduler .shutdown := by
  rcases mem_arming h with rfl | ⟨d, rfl⟩ | ⟨now, rfl⟩
  all_goals exact ⟨rfl, nofun, nofun⟩

theorem Blocks.onDuty (h : Blocks host.hiring es) (hfirst : (Feed.firstRun host).isOk = true)
    (hstarted : (Standing.after es).started = true) : OnDuty es := by
  induction h using Blocks.induct with
  | none => cases hstarted
  | more es b _ hb ih =>
    rw [Standing.after_append] at hstarted
    have hstays : (∀ e ∈ b, e.isOpening = false) → (∀ e ∈ b, e ≠ .scheduler .shutdown) →
        OnDuty (es ++ b) := by
      intro hopening hshutdown
      obtain ⟨hbefore, hclosed⟩ := (Standing.started_foldl hopening).mp hstarted
      refine (ih hbefore).append fun e he => ⟨?_, hshutdown e he⟩
      rintro rfl
      exact hclosed he
    cases hb with
    | single e he =>
      refine hstays (List.forall_mem_singleton.mpr ?_) (List.forall_mem_singleton.mpr ?_)
      · cases e <;> first | rfl | cases he
      · rintro rfl
        cases he
    | started metrics start =>
      refine ⟨es ++ [.opened metrics start], host.interval, [], ?_, List.forall_mem_nil _⟩
      unfold Host.hiring
      rw [if_pos hfirst]
      simp
    | stopped calls hcalls =>
      rcases hcalls with rfl | rfl <;> cases hstarted
    | armed r reading displaced =>
      exact hstays (fun e he => (stays_of_mem_arming he).1) fun e he => (stays_of_mem_arming he).2.2

theorem Blocks.addJob_not_mem (h : Blocks host.hiring es)
    (hfirst : (Feed.firstRun host).isOk = false) (interval : Int) :
    Entry.scheduler (.addJob interval) ∉ es := by
  induction h using Blocks.induct with
  | none => exact List.not_mem_nil
  | more es b _ hb ih =>
    refine List.not_mem_append ih fun hmem => ?_
    cases hb with
    | single e he =>
      obtain rfl := List.mem_singleton.mp hmem
      cases he
    | started =>
      unfold Host.hiring at hmem
      simp [hfirst] at hmem
    | stopped calls hcalls => rcases hcalls with rfl | rfl <;> simp at hmem
    | armed r reading displaced => rcases mem_arming hmem with h | ⟨d, h⟩ | ⟨now, h⟩ <;> cases h

end Blocks

/-! ## Calls of one operation -/

namespace Feed

theorem Plain.calls_eq {f g : Feed} (h : Plain f g) : calls g.journal = calls f.journal := by
  obtain ⟨es, hes, hsame⟩ := h
  have hnone : calls es = [] := List.filterMap_eq_nil_iff.mpr fun e he => by
    have hsingle := hes e he
    cases e <;> first | rfl | cases hsingle
  have hjournal : g.journal = f.journal ++ es := hsame.journal
  rw [hjournal, calls_append, hnone, List.append_nil]

theorem Plain.hiring_eq {f g : Feed} (h : Plain f g) : g.host.hiring = f.host.hiring := by
  obtain ⟨es, -, hsame⟩ := h
  exact hsame.hiring

theorem Opens.calls_eq {f g : Feed} (h : Opens f g) : calls g.journal = calls f.journal := by
  obtain ⟨before, metrics, start, hbefore, hsame⟩ := h
  have hjournal : g.journal = before.journal ++ [.opened metrics start] := hsame.journal
  rw [hjournal, calls_append, hbefore.calls_eq]
  exact List.append_nil _

theorem Opens.hiring_eq {f g : Feed} (h : Opens f g) : g.host.hiring = f.host.hiring := by
  obtain ⟨before, metrics, start, hbefore, hsame⟩ := h
  exact hsame.hiring.trans hbefore.hiring_eq

/-- A host that fails to start asks nothing of the scheduler; one that starts has it schedule the
job and start. -/
theorem calls_launch (f : Feed) : calls f.launch.2.journal = calls f.journal ++
    match f.launch.1 with
    | .ok _ => [.addJob f.host.interval, .start]
    | .error _ => [] := by
  have hstarted := opens_or_fails_startOwn f
  unfold launch
  rcases hown : f.startOwn with ⟨fault | table, g⟩
  all_goals rw [hown] at hstarted
  · exact hstarted.calls_eq.trans (List.append_nil _).symm
  · have hopens : Opens f g := hstarted
    dsimp only
    cases hfirst : firstRun g.host with
    | error fault => exact hopens.calls_eq.trans (List.append_nil _).symm
    | ok first =>
      have hhiring := hopens.hiring_eq
      rw [hiring_of_ok hfirst] at hhiring
      have hinterval : g.host.interval = f.host.interval := by
        unfold Host.hiring at hhiring
        split at hhiring
        · injection hhiring with hjob
          injection hjob
        · cases hhiring
      have hcalls : calls (g.startScheduler.note (.scheduled g.host.interval)).journal =
          calls g.journal ++ [.addJob g.host.interval, .start] := by
        simp [startScheduler, schedule, note, calls, Entry.call?]
      dsimp only
      rw [hcalls, hopens.calls_eq, hinterval]

theorem calls_shutdown (f : Feed) : calls f.shutdown.journal = calls f.journal ++
    if f.host.running then [.shutdown] else [] := by
  obtain ⟨es, hes, hsame⟩ := plain_unsubscribe f
  have hrunning : f.stop.host.running = f.host.running := hsame.running
  have hcalls : calls f.stop.journal = calls f.journal := by
    have hleft : calls f.stop.journal = calls (f.unsubscribe.enter .idle).journal := by
      simp [stop, note, calls, Entry.call?]
    rw [hleft, (plain_unsubscribe f).calls_eq]
  unfold shutdown
  dsimp only
  rw [hrunning, ← hcalls]
  cases f.host.running <;> simp [schedule, stopScheduler, note, calls, Entry.call?]

end Feed

/-- The sample in the hands of a host that polls every so many seconds. -/
def Feed.Sample.hosted (interval : Int) : Feed :=
  .initial feed.source clock feed.session (some .schedule) (.int 0)
    (.initial ⟨none, []⟩ interval false clock)

/-! ## Hosted runs -/

/-- **The host is in step with its scheduler.** Let a feed be in the hands of its host. Then at every
answer, on every level of nesting, the scheduler was asked to run the job once for every request that
was armed, at the reading of the clock if UTC can tell it, and it runs as the calls have it. Whenever
it was asked to run the job, the coordinator was started, and the host was on duty if and only if the
job can be scheduled at all. Whatever the feed, a start that fails asks nothing of the scheduler, one
that succeeds has it schedule the job and start, and a shutdown ends it if it is running. -/
theorem scheduler_in_step (source : Source) (clock : DateTime) (session : SessionAnswer)
    (ackTimeout : Number) (sink : Sink Point) (interval : Int) (immediate : Bool)
    (present : DateTime) (commands : List Command)
    (hcommands : Command.areHosted commands = true) :
    let host := Host.initial sink interval immediate present
    (∀ a ∈ (Feed.initial source clock session (some .schedule) ackTimeout host).everyAnswer commands,
      (a.state.journal.filterMap Entry.runAt? = (a.state.journal.filterMap Entry.reading?).filterMap
        fun reading => reading.toUtc.toOption) ∧
      ((∀ reading ∈ a.state.journal.filterMap Entry.reading?, reading.toUtc.isOk = true) →
        (a.state.journal.filterMap Entry.runAt?).length =
          (a.state.journal.filterMap Entry.reading?).length) ∧
      a.state.host.running = a.state.journal.foldl Entry.runs false ∧
      ∀ before now after, a.state.journal = before ++ .scheduler (.runAt now) :: after →
        (Standing.after before).started = true ∧
        (OnDuty before ↔ (Feed.firstRun host).isOk = true)) ∧
    ∀ f : Feed,
      (calls f.launch.2.journal = calls f.journal ++
        match f.launch.1 with
        | .ok _ => [.addJob f.host.interval, .start]
        | .error _ => []) ∧
      calls f.shutdown.journal = calls f.journal ++ if f.host.running then [.shutdown] else [] := by
  intro host
  refine ⟨fun a ha => ?_, fun f => ⟨f.calls_launch, f.calls_shutdown⟩⟩
  obtain ⟨-, es, hes, hblocks, hrunning⟩ :=
    Feed.grows_of_mem_everyAnswer hcommands ⟨rfl, fun _ h => by cases h⟩ rfl ha
  have hjournal : a.state.journal = es := hes
  have horderly := (Feed.reachable_of_mem_everyAnswer ha).orderly
  have hruns := hblocks.runs_eq
  rw [← hjournal] at hruns hrunning
  refine ⟨hruns, fun htold => ?_, hrunning, fun before now after hsplit => ?_⟩
  · rw [hruns, List.filterMap_length_eq_length]
    intro reading hreading
    have hok := htold reading hreading
    cases hutc : reading.toUtc with
    | error fault =>
      rw [hutc] at hok
      cases hok
    | ok now => rfl
  obtain ⟨done, r, reading, displaced, hdone, rfl, -⟩ := hblocks.of_runAt (hjournal ▸ hsplit)
  have hlast : ∀ e ∈ Entry.armed r reading :: displaced.map .displaced,
      e.isOpening = false ∧ e ≠ .closed ∧ e ≠ .scheduler .shutdown :=
    fun e he => stays_of_mem_arming (List.mem_append_left _ he)
  -- a request is armed only while the coordinator is started
  have hstarted : (Standing.after done).started = true := by
    rw [List.append_assoc] at hsplit
    exact (horderly.allows hsplit rfl).2
  refine ⟨?_, fun hduty => ?_, fun hfirst => ?_⟩
  · rw [Standing.after_append, Standing.started_foldl fun e he => (hlast e he).1]
    exact ⟨hstarted, fun hclosed => (hlast _ hclosed).2.1 rfl⟩
  · obtain ⟨seconds, hmem⟩ := hduty.exists_addJob
    rw [← hjournal, hsplit] at hblocks
    cases hfirst : (Feed.firstRun host).isOk with
    | true => rfl
    | false => exact absurd (List.mem_append_left _ hmem) (hblocks.addJob_not_mem hfirst seconds)
  · exact (hdone.onDuty hfirst hstarted).append fun e he => (hlast e he).2

/-- A start, and an event that has the job run. -/
theorem scheduler_in_step_sample : ∃ a ∈ (Feed.Sample.hosted 60).everyAnswer [.launch, .publish []],
    ∃ before after,
      a.state.journal = before ++ .scheduler (.runAt Feed.Sample.clock) :: after ∧
        (Standing.after before).started = true ∧ OnDuty before := by
  obtain ⟨a, ha, hmem⟩ : ∃ a ∈ (Feed.Sample.hosted 60).everyAnswer [.launch, .publish []],
      Feed.Sample.clock ∈ a.state.journal.filterMap Entry.runAt? := by
    decide +kernel
  obtain ⟨before, after, hjournal⟩ := exists_split_of_runAt hmem
  obtain ⟨-, -, -, hcalls⟩ := (scheduler_in_step _ _ _ _ _ 60 _ _ [.launch, .publish []] rfl).1 a ha
  obtain ⟨hstarted, hduty⟩ := hcalls before _ after hjournal
  exact ⟨a, ha, before, after, hjournal, hstarted, hduty.mpr (by decide +kernel)⟩

/-- A job with an interval of too many seconds cannot be scheduled; still the coordinator is started,
and an event has the scheduler run the job. -/
theorem not_on_duty : ¬ ∀ a ∈ (Feed.Sample.hosted 1000000000000000).everyAnswer
      [.launch, .publish []],
    ∀ before now after, a.state.journal = before ++ .scheduler (.runAt now) :: after →
      ∃ interval, Entry.scheduler (.addJob interval) ∈ before := by
  intro h
  obtain ⟨a, ha, hmem, hnone⟩ : ∃ a ∈ (Feed.Sample.hosted 1000000000000000).everyAnswer
      [.launch, .publish []],
      Feed.Sample.clock ∈ a.state.journal.filterMap Entry.runAt? ∧
        calls a.state.journal = [.runAt Feed.Sample.clock] := by
    decide +kernel
  obtain ⟨before, after, hjournal⟩ := exists_split_of_runAt hmem
  obtain ⟨interval, hjob⟩ := h a ha before _ after hjournal
  have hcall : SchedulerCall.addJob interval ∈ calls a.state.journal :=
    List.mem_filterMap.mpr ⟨_, hjournal ▸ List.mem_append_left _ hjob, rfl⟩
  rw [hnone] at hcall
  cases List.mem_singleton.mp hcall

end MeterFeed
