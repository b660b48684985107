import Mathlib.Data.List.Induction
import MeterFeed.Proofs.Delivery
import MeterFeed.Proofs.Handling

/-!
# A feed in the hands of its host

A host starts the coordinator together with the scheduler, and a request that is armed has the
scheduler run the polling job. As long as the commands leave starting and triggering to the host
(`Command.isHosted`), the journal is a sequence of blocks (`Block`): behind a start stand the calls
that schedule the job, behind an armed request the call that runs it, and behind a stop at most the
end of the scheduler. There are no calls but these.

`Feed.Hosts f g` says this of what is noted from `f` to `g`, and that the scheduler runs just when it
was started last. There is one lemma for each operation, up to `Feed.hosts_obey`.
-/

namespace MeterFeed

namespace Command

mutual

/-- True of commands that neither start the coordinator without the scheduler nor set another
trigger, also inside session requests. -/
def isHosted : Command → Bool
  | .start | .setTrigger _ => false
  | .duringFetch commands => areHosted commands
  | _ => true

def areHosted : List Command → Bool
  | [] => true
  | c :: cs => isHosted c && areHosted cs

end

end Command

/-- The calls that schedule the polling job, if it can be scheduled. -/
def Host.hiring (h : Host) : List SchedulerCall :=
  if (Feed.firstRun h).isOk then [.addJob h.interval, .start] else []

/-- The call that has the scheduler run the polling job at a reading of the clock, if that can be
told in UTC. -/
def runCalls (reading : DateTime) : List SchedulerCall :=
  match reading.toUtc with
  | .ok now => [.runAt now]
  | .error _ => []

namespace Entry

/-- True of the entries that stand by themselves. -/
def isSingle : Entry → Bool
  | .opened .. | .closed | .armed .. | .scheduler _ => false
  | _ => true

theorem isSingle_of_isQuiet {e : Entry} (h : e.isQuiet = true) : e.isSingle = true := by
  cases e <;> first | rfl | cases h

theorem isSingle_of_isReport {e : Entry} (h : e.isReport = true) : e.isSingle = true :=
  isSingle_of_isQuiet (isQuiet_of_isReport h)

theorem isSingle_of_isOfHandler {e : Entry} (h : e.isOfHandler = true) : e.isSingle = true := by
  cases e <;> first | rfl | cases h

def runs (running : Bool) : Entry → Bool
  | .scheduler .start => true
  | .scheduler .shutdown => false
  | _ => running

end Entry

/-! ## Blocks -/

/-- What is noted when a request is armed and the scheduler is to run the job for it. -/
def arming (r : Request) (reading : DateTime) (displaced : List Request) : List Entry :=
  .armed r reading :: displaced.map .displaced ++ (runCalls reading).map .scheduler

theorem mem_arming {r : Request} {reading : DateTime} {displaced : List Request} {e : Entry}
    (h : e ∈ arming r reading displaced) :
    e = .armed r reading ∨ (∃ d, e = .displaced d) ∨ ∃ now, e = .scheduler (.runAt now) := by
  unfold arming runCalls at h
  rcases List.mem_append.mp h with h | h
  · rcases List.mem_cons.mp h with rfl | h
    · exact .inl rfl
    · obtain ⟨d, -, rfl⟩ := List.mem_map.mp h
      exact .inr (.inl ⟨d, rfl⟩)
  · cases hutc : reading.toUtc with
    | error fault =>
      rw [hutc] at h
      cases h
    | ok now =>
      rw [hutc] at h
      exact .inr (.inr ⟨now, List.mem_singleton.mp h⟩)

/-- What a host notes in one go. -/
inductive Block (hiring : List SchedulerCall) : List Entry → Prop where
  | single (e : Entry) (h : e.isSingle = true) : Block hiring [e]
  | started (metrics : Nat) (start : DateTime) :
    Block hiring (.opened metrics start :: hiring.map .scheduler)
  | stopped (calls : List SchedulerCall) (h : calls = [] ∨ calls = [.shutdown]) :
    Block hiring (.closed :: calls.map .scheduler)
  | armed (r : Request) (reading : DateTime) (displaced : List Request) :
    Block hiring (arming r reading displaced)

def Blocks (hiring : List SchedulerCall) (es : List Entry) : Prop :=
  ∃ blocks : List (List Entry), (∀ b ∈ blocks, Block hiring b) ∧ es = blocks.flatten

namespace Blocks

variable {hiring : List SchedulerCall} {es es' : List Entry}

theorem one (h : Block hiring es) : Blocks hiring es :=
  ⟨[es], List.forall_mem_singleton.mpr h, (List.append_nil es).symm⟩

theorem nil : Blocks hiring [] :=
  ⟨[], List.forall_mem_nil _, rfl⟩

theorem append (h : Blocks hiring es) (h' : Blocks hiring es') : Blocks hiring (es ++ es') := by
  obtain ⟨bs, hbs, rfl⟩ := h
  obtain ⟨bs', hbs', rfl⟩ := h'
  exact ⟨bs ++ bs', List.forall_mem_append.mpr ⟨hbs, hbs'⟩, List.flatten_append.symm⟩

theorem singles (h : ∀ e ∈ es, e.isSingle = true) : Blocks hiring es := by
  induction es with
  | nil => exact nil
  | cons e es ih =>
    exact (one (.single e (h e List.mem_cons_self))).append
      (ih fun x hx => h x (List.mem_cons_of_mem e hx))

theorem induct {P : ∀ es, Blocks hiring es → Prop}
    (none : P [] .nil)
    (more : ∀ es b (h : Blocks hiring es) (hb : Block hiring b), P es h →
      P (es ++ b) (h.append (.one hb)))
    (h : Blocks hiring es) : P es h := by
  obtain ⟨blocks, hblocks, rfl⟩ := h
  induction blocks using List.reverseRecOn with
  | nil => exact none
  | append_singleton blocks b ih =>
    obtain ⟨hbefore, hb⟩ := List.forall_mem_append.mp hblocks
    have hall : Blocks hiring (blocks.flatten ++ b) :=
      append ⟨blocks, hbefore, rfl⟩ (.one (hb b List.mem_cons_self))
    have hP := more _ b _ (hb b List.mem_cons_self) (ih hbefore)
    simpa using hP

end Blocks

theorem runs_eq {es : List Entry} (h : ∀ e ∈ es, ∀ running, Entry.runs running e = running)
    (running : Bool) : es.foldl Entry.runs running = running := by
  induction es generalizing running with
  | nil => rfl
  | cons e es ih =>
    rw [List.foldl_cons, h e List.mem_cons_self, ih fun x hx => h x (List.mem_cons_of_mem e hx)]

theorem runs_singles {es : List Entry} (h : ∀ e ∈ es, e.isSingle = true) (running : Bool) :
    es.foldl Entry.runs running = running := by
  refine runs_eq (fun e he _ => ?_) running
  have hsingle := h e he
  cases e <;> first | rfl | cases hsingle

theorem runs_arming (r : Request) (reading : DateTime) (displaced : List Request)
    (running : Bool) : (arming r reading displaced).foldl Entry.runs running = running := by
  refine runs_eq (fun e he _ => ?_) running
  rcases mem_arming he with rfl | ⟨d, rfl⟩ | ⟨now, rfl⟩ <;> rfl

/-- The journal grows by blocks, and tells whether the scheduler is running. -/
structure Grows (s t : FeedState) : Prop where
  hiring : t.host.hiring = s.host.hiring
  blocks : ∃ es, t.journal = s.journal ++ es ∧ Blocks s.host.hiring es ∧
    t.host.running = es.foldl Entry.runs s.host.running

theorem Grows.trans {s t u : FeedState} (hst : Grows s t) (htu : Grows t u) : Grows s u := by
  obtain ⟨es, hes, hblocks, hrunning⟩ := hst.blocks
  obtain ⟨es', hes', hblocks', hrunning'⟩ := htu.blocks
  rw [hst.hiring] at hblocks'
  refine ⟨htu.hiring.trans hst.hiring, es ++ es', ?_, hblocks.append hblocks', ?_⟩
  · rw [hes', hes, List.append_assoc]
  · rw [hrunning', hrunning, List.foldl_append]

namespace Feed

/-! ## Feeds that are hosted -/

/-- The trigger leaves polling to the scheduler, and so do the commands that are kept. -/
structure Hosted (f : Feed) : Prop where
  trigger : f.trigger = some .schedule
  kept : ∀ commands, f.kept = some commands → Command.areHosted commands = true

/-- The host and its trigger are the same, but for what is scheduled. -/
structure Alongside (f g : Feed) : Prop where
  hiring : g.host.hiring = f.host.hiring
  trigger : g.trigger = f.trigger
  kept : g.kept = f.kept
  inner : g.inner = f.inner

/-- The scheduler is left alone, and nothing is noted. -/
structure Silent (f g : Feed) : Prop extends Alongside f g where
  running : g.host.running = f.host.running
  journal : g.journal = f.journal

/-- The scheduler is left alone, and what is noted stands by itself. -/
def Plain (f g : Feed) : Prop :=
  ∃ es, (∀ e ∈ es, e.isSingle = true) ∧ Silent (f.notes es) g

theorem Silent.trans {f g h : Feed} (hfg : Silent f g) (hgh : Silent g h) : Silent f h :=
  ⟨⟨hgh.hiring.trans hfg.hiring, hgh.trigger.trans hfg.trigger, hgh.kept.trans hfg.kept,
    hgh.inner.trans hfg.inner⟩, hgh.running.trans hfg.running, hgh.journal.trans hfg.journal⟩

theorem Silent.notes {f g : Feed} (es : List Entry) (h : Silent f g) :
    Silent (f.notes es) (g.notes es) :=
  ⟨⟨h.hiring, h.trigger, h.kept, h.inner⟩, h.running, congrArg (· ++ es) h.journal⟩

theorem Silent.plain {f g : Feed} (h : Silent f g) : Plain f g :=
  ⟨[], List.forall_mem_nil _, by rwa [notes_nil]⟩

namespace Plain

variable {f g h : Feed}

theorem refl (f : Feed) : Plain f f :=
  Silent.plain ⟨⟨rfl, rfl, rfl, rfl⟩, rfl, rfl⟩

theorem trans (hfg : Plain f g) (hgh : Plain g h) : Plain f h := by
  obtain ⟨es, hes, hsame⟩ := hfg
  obtain ⟨es', hes', hsame'⟩ := hgh
  refine ⟨es ++ es', List.forall_mem_append.mpr ⟨hes, hes'⟩, ?_⟩
  rw [← notes_notes]
  exact (hsame.notes es').trans hsame'

theorem notes (es : List Entry) (f : Feed) (h : ∀ e ∈ es, e.isSingle = true) :
    Plain f (f.notes es) :=
  ⟨es, h, ⟨rfl, rfl, rfl, rfl⟩, rfl, rfl⟩

theorem note (e : Entry) (f : Feed) (h : e.isSingle = true) : Plain f (f.note e) :=
  notes [e] f (List.forall_mem_singleton.mpr h)

theorem quiet (h : Quiet f g) : Plain f g := by
  obtain ⟨phase, es, hes, rfl⟩ := h
  exact ⟨es, fun e he => Entry.isSingle_of_isQuiet (hes e he), ⟨rfl, rfl, rfl, rfl⟩, rfl, rfl⟩

theorem enter (phase : Phase) (h : Plain f g) : Plain f (g.enter phase) :=
  h.trans (.quiet (.enter phase g))

end Plain

/-- From one feed to another the journal grows by blocks, and inside session requests as well. -/
structure Hosts (f g : Feed) : Prop where
  grows : Grows f.toFeedState g.toFeedState
  hosted : f.Hosted → g.Hosted
  inner : ∃ answers, g.inner = f.inner ++ answers ∧
    ∀ as ∈ answers, ∀ a ∈ as, Grows f.toFeedState a.state

theorem Hosts.of_blocks {f g : Feed} {es : List Entry} (same : Alongside f g)
    (journal : g.journal = f.journal ++ es) (blocks : Blocks f.host.hiring es)
    (running : g.host.running = es.foldl Entry.runs f.host.running) : Hosts f g where
  grows := ⟨same.hiring, es, journal, blocks, running⟩
  hosted := by
    rintro ⟨htrigger, hkept⟩
    refine ⟨same.trigger.trans htrigger, ?_⟩
    rw [same.kept]
    exact hkept
  inner := ⟨[], by rw [same.inner, List.append_nil], fun _ has => by cases has⟩

theorem Plain.hosts {f g : Feed} (h : Plain f g) : Hosts f g := by
  obtain ⟨es, hes, hsame⟩ := h
  have hrunning : g.host.running = f.host.running := hsame.running
  exact .of_blocks ⟨hsame.hiring, hsame.trigger, hsame.kept, hsame.inner⟩ hsame.journal
    (.singles hes) (by rw [runs_singles hes, hrunning])

namespace Hosts

variable {f g h : Feed}

theorem refl (f : Feed) : Hosts f f :=
  (Plain.refl f).hosts

theorem silent (h : Silent f g) : Hosts f g :=
  h.plain.hosts

theorem note (e : Entry) (f : Feed) (h : e.isSingle = true) : Hosts f (f.note e) :=
  (Plain.note e f h).hosts

theorem trans (hfg : Hosts f g) (hgh : Hosts g h) : Hosts f h := by
  obtain ⟨as, has, hgrows⟩ := hfg.inner
  obtain ⟨bs, hbs, hgrows'⟩ := hgh.inner
  refine ⟨hfg.grows.trans hgh.grows, fun hf => hgh.hosted (hfg.hosted hf),
    as ++ bs, by rw [hbs, has, List.append_assoc], ?_⟩
  intro answers hmem a ha
  rcases List.mem_append.mp hmem with hmem | hmem
  · exact hgrows answers hmem a ha
  · exact hfg.grows.trans (hgrows' answers hmem a ha)

end Hosts

/-! ## Arming -/

/-- An armed request and the call that has the job run for it are one block. -/
theorem hosts_armed (request : Request) (f : Feed) :
    Hosts f (((f.arm request).2.noteDisplaced (f.arm request).1).notes
      ((runCalls f.clock).map .scheduler)) := by
  let entered := { f with coordinator := { f.coordinator with
    nextStart := some request.window.finish
    acknowledged := false
    slot := (f.coordinator.slot.offer request).2 } }.enter .fetching
  have hentered : Plain f entered := .enter .fetching (Silent.plain ⟨⟨rfl, rfl, rfl, rfl⟩, rfl, rfl⟩)
  have harmed : (f.arm request).2 = entered.notes [.armed request f.clock] := rfl
  rw [noteDisplaced_eq, harmed, notes_notes, notes_notes]
  exact hentered.hosts.trans (.of_blocks ⟨rfl, rfl, rfl, rfl⟩ rfl
    (.one (.armed request f.clock (f.arm request).1.toList)) (runs_arming request f.clock _ _).symm)

/-! ## Operations through which commands run -/

/-- Whatever is run inside a session request leaves the feed to its host. -/
def Leaves (inside : Inside) : Prop :=
  ∀ commands f, Command.areHosted commands = true → f.Hosted →
    Hosts f (inside commands f).2 ∧
      ∀ a ∈ (inside commands f).1, Grows f.toFeedState a.state

section Inside
variable {inside : Inside} (hinside : Leaves inside) {f : Feed} (hf : f.Hosted)

section Polls
include hinside hf

theorem hosts_runKept : Hosts f (f.runKept inside) := by
  unfold runKept
  cases hkept : f.kept with
  | none => exact .refl f
  | some commands =>
    have hclear : Grows f.toFeedState { f.toFeedState with kept := none } :=
      ⟨rfl, [], (List.append_nil _).symm, .nil, rfl⟩
    obtain ⟨hhosts, hanswers⟩ := hinside commands { f with kept := none } (hf.kept commands hkept)
      ⟨hf.trigger, nofun⟩
    obtain ⟨answers, hinner, hgrows⟩ := hhosts.inner
    refine ⟨hclear.trans hhosts.grows, fun _ => ⟨(hhosts.hosted ⟨hf.trigger, nofun⟩).trigger,
      (hhosts.hosted ⟨hf.trigger, nofun⟩).kept⟩,
      answers ++ [(inside commands { f with kept := none }).1], ?_, ?_⟩
    · show _ ++ _ = _
      rw [hinner, List.append_assoc]
    · intro as has a ha
      rcases List.mem_append.mp has with has | has
      · exact hclear.trans (hgrows as has a ha)
      · rw [List.mem_singleton.mp has] at ha
        exact hclear.trans (hanswers a ha)

theorem hosts_poll (time : Option DateTime) : Hosts f (f.poll inside time).2 := by
  have hsettle : ∀ g : Feed, Plain g g.settle := fun g =>
    .enter _ (Silent.plain ⟨⟨rfl, rfl, rfl, rfl⟩, rfl, rfl⟩)
  unfold poll
  cases f.coordinator.fetching with
  | true => exact .note .inFlight f rfl
  | false =>
    simp only [Bool.false_eq_true, if_false, cycle_eq]
    have htaken : Plain f (f.setFetching true).takeRequest.2 := by
      have hbegun : Plain f (f.setFetching true) := Silent.plain ⟨⟨rfl, rfl, rfl, rfl⟩, rfl, rfl⟩
      refine hbegun.trans ?_
      unfold takeRequest
      split
      · exact (Plain.note .slotBusy _ rfl).trans (.note .nothingPending _ rfl)
      · exact .note .nothingPending _ rfl
      · exact ⟨[_], List.forall_mem_singleton.mpr rfl, ⟨rfl, rfl, rfl, rfl⟩, rfl, rfl⟩
    rcases htake : (f.setFetching true).takeRequest with ⟨_ | request, g⟩
    all_goals rw [htake] at htaken
    · exact (htaken.trans (hsettle g)).hosts
    · have hasked : Hosts f (g.ask request) :=
        (htaken.trans ((Plain.enter .fetching (.refl g)).trans
          (.notes _ _ (by simp [Entry.isSingle])))).hosts
      have hkept := hasked.trans (hosts_runKept hinside (hasked.hosted hf))
      have hconcluded : Plain ((g.ask request).runKept inside)
          (((g.ask request).runKept inside).conclude request (time.getD g.clock)).2 :=
        (Plain.note .answered _ rfl).trans (.quiet (quiet_conclude request _ _))
      exact hkept.trans (hconcluded.trans (hsettle _)).hosts

theorem hosts_pollInto (time : Option DateTime) : Hosts f (f.pollInto inside time).2 :=
  (hosts_poll hinside hf time).trans (.silent ⟨⟨rfl, rfl, rfl, rfl⟩, rfl, rfl⟩)

theorem hosts_pollOnce : Hosts f (f.pollOnce inside).2 := by
  unfold pollOnce
  cases f.clock.toUtc with
  | error fault => exact .refl f
  | ok now =>
    have hpoll := hosts_poll hinside hf (some now)
    dsimp only
    rcases hpolled : f.poll inside (some now) with ⟨⟨points, (e | fault) | count⟩, g⟩
    all_goals rw [hpolled] at hpoll
    · exact hpoll.trans (.note _ g rfl)
    · exact hpoll
    · exact hpoll.trans (.silent ⟨⟨rfl, rfl, rfl, rfl⟩, rfl, rfl⟩)

/-- The scheduler is asked to run the job, and it may run it here and now. -/
theorem hosts_runJobNow :
    Hosts (f.notes ((runCalls f.clock).map .scheduler)) (f.runJobNow inside).2 := by
  unfold runJobNow runCalls
  cases f.clock.toUtc with
  | error fault => exact .silent ⟨⟨rfl, rfl, rfl, rfl⟩, rfl, (List.append_nil _).symm⟩
  | ok now =>
    have hpoll := hosts_pollOnce hinside (f := f.schedule (.runAt now)) ⟨hf.trigger, hf.kept⟩
    dsimp only
    split
    · exact .refl _
    · split
      · exact .refl _
      · split <;> rename_i hpolled <;> rw [hpolled] at hpoll <;> exact hpoll

theorem hosts_requestPoll :
    Hosts (f.notes ((runCalls f.clock).map .scheduler)) (f.requestPoll inside) := by
  have hrun := hosts_runJobNow hinside hf
  rw [requestPoll_eq, hf.trigger]
  dsimp only [fire]
  rcases hran : f.runJobNow inside with ⟨_ | halt, g⟩
  all_goals rw [hran] at hrun
  · obtain ⟨entries, hentries, hlook⟩ := lookTaken_eq g
    dsimp only
    rw [hlook]
    exact hrun.trans
      (Plain.notes entries g fun e he => Entry.isSingle_of_isOfHandler (hentries e he)).hosts
  · exact hrun.trans (.note _ g rfl)

theorem hosts_notify : Hosts f (f.notify inside) := by
  unfold notify
  split
  · split
    · exact .note _ f rfl
    · rename_i request _
      have harmed := hosts_armed request f
      obtain ⟨journal, hg⟩ := armed_eq request f
      have hclock : ((f.arm request).2.noteDisplaced (f.arm request).1).clock = f.clock := by
        rw [hg]
      have hhosted : Hosted ((f.arm request).2.noteDisplaced (f.arm request).1) := by
        rw [hg]
        exact ⟨hf.trigger, hf.kept⟩
      have hpoll := hosts_requestPoll hinside hhosted
      rw [hclock] at hpoll
      exact harmed.trans hpoll
  · exact .note .ignored f rfl

theorem hosts_publish : Hosts f (f.publish inside).2 := by
  have hcalls : ∀ (handlers : List Subscriber) (g : Feed), g.Hosted →
      Hosts g (handlers.foldl (call inside) g) := by
    intro handlers
    induction handlers with
    | nil => exact fun g _ => .refl g
    | cons handler rest ih =>
      intro g hg
      cases handler
      have hone := hosts_notify hinside hg
      exact hone.trans (ih _ (hone.hosted hg))
  unfold publish
  dsimp only
  split
  · have hnoted : Hosts f (f.note (.noSubscriber cycleFinished)) := .note _ f rfl
    exact hnoted.trans (hcalls _ _ (hnoted.hosted hf))
  · exact hcalls _ f hf

theorem hosts_publishWith (recipients : List Recipient) (names : List String) :
    Hosts f (f.publishWith inside recipients names).2 := by
  unfold publishWith
  cases checkPayload recipients names with
  | error fault => exact .refl f
  | ok _ => exact hosts_publish hinside hf

theorem hosts_notifyWith (names : List String) : Hosts f (f.notifyWith inside names).2 := by
  unfold notifyWith
  cases checkPayload [.coordinator] names with
  | error fault => exact .refl f
  | ok _ => exact hosts_notify hinside hf

theorem hosts_respond (method reference : String) :
    Hosts f (Surface.respond inside method reference f).2 := by
  rw [Surface.respond_snd]
  cases Surface.announces method reference with
  | true => exact hosts_publish hinside hf
  | false => exact .refl f

end Polls

end Inside

/-! ## Starting and stopping -/

def Opens (f g : Feed) : Prop :=
  ∃ before metrics start, Plain f before ∧ Silent (before.note (.opened metrics start)) g

theorem opens_opening (table : Fields Metric) (f : Feed) : Opens f (f.opening table) := by
  let armed := { f with
    coordinator := { f.coordinator with metrics := table, nextStart := some f.clock } }.enter
      .windowArmed
  have harmed : Plain f armed := .enter .windowArmed (Silent.plain ⟨⟨rfl, rfl, rfl, rfl⟩, rfl, rfl⟩)
  have hwaiting : Plain armed ({ armed with
      coordinator := { armed.coordinator with started := true }
      bus := armed.bus.subscribe cycleFinished .coordinator }.enter .waitingForEvent) :=
    .enter .waitingForEvent (Silent.plain ⟨⟨rfl, rfl, rfl, rfl⟩, rfl, rfl⟩)
  exact ⟨_, table.length, _, harmed.trans hwaiting, ⟨rfl, rfl, rfl, rfl⟩, rfl, rfl⟩

/-- A start opens a window, or fails after registering some names. -/
def OpensOrFails {α : Type} (f : Feed) : Except Fault α × Feed → Prop
  | (.ok _, g) => Opens f g
  | (.error _, g) => Plain f g

theorem OpensOrFails.within {α : Type} {f own : Feed} {outcome : Except Fault α × Feed}
    {restore : Feed → Feed} (before : Silent f own) (after : ∀ g, Silent g (restore g))
    (h : OpensOrFails own outcome) : OpensOrFails f (outcome.1, restore outcome.2) := by
  rcases outcome with ⟨fault | x, g⟩
  · exact (before.plain.trans h).trans (after g).plain
  · obtain ⟨opened, count, start, hopened, hsame⟩ := h
    exact ⟨opened, count, start, before.plain.trans hopened, hsame.trans (after g)⟩

theorem opens_or_fails_start (f : Feed) : OpensOrFails f f.start := by
  unfold start
  cases f.coordinator.started with
  | true => exact .refl f
  | false =>
    have hsingle : ∀ metrics, ∀ e ∈ registrations metrics, e.isSingle = true :=
      fun metrics e he => Entry.isSingle_of_isReport (isReport_registrations metrics e he)
    rcases hregister : f.registerMetrics with ⟨fault | table, g⟩
    · obtain ⟨registry, metrics, rfl⟩ := registerMetrics_error hregister
      exact ⟨_, hsingle metrics, ⟨rfl, rfl, rfl, rfl⟩, rfl, rfl⟩
    · obtain ⟨registry, metrics, -, rfl⟩ := registerMetrics_ok hregister
      have hregistered : Plain f { { f with registry }.notes (registrations metrics) with
          source := f.source.withTable table } :=
        ⟨_, hsingle metrics, ⟨rfl, rfl, rfl, rfl⟩, rfl, rfl⟩
      obtain ⟨before, count, start, hbefore, hopens⟩ := opens_opening table _
      exact ⟨before, count, start, hregistered.trans hbefore, hopens⟩

theorem opens_or_fails_startOwn (f : Feed) : OpensOrFails f f.startOwn := by
  unfold startOwn
  cases f.host.registry with
  | none => exact opens_or_fails_start f
  | some own =>
    have hown : Silent f { f with registry := own } := ⟨⟨rfl, rfl, rfl, rfl⟩, rfl, rfl⟩
    let restore (g : Feed) : Feed :=
      { g with registry := f.registry, host := { g.host with registry := some g.registry } }
    have hrestore : ∀ g, Silent g (restore g) := fun g => ⟨⟨rfl, rfl, rfl, rfl⟩, rfl, rfl⟩
    exact (opens_or_fails_start { f with registry := own }).within hown hrestore

theorem hiring_of_error {h : Host} {fault : Fault} (hfirst : firstRun h = .error fault) :
    h.hiring = [] := by
  unfold Host.hiring
  rw [hfirst]
  rfl

theorem hiring_of_ok {h : Host} {first : DateTime} (hfirst : firstRun h = .ok first) :
    h.hiring = [.addJob h.interval, .start] := by
  unfold Host.hiring
  rw [hfirst]
  rfl

theorem hosts_launch (f : Feed) : Hosts f f.launch.2 := by
  have hstarted := opens_or_fails_startOwn f
  unfold launch
  rcases hown : f.startOwn with ⟨fault | table, g⟩
  all_goals rw [hown] at hstarted
  · exact hstarted.hosts
  · obtain ⟨before, count, start, hbefore, hsame⟩ := hstarted
    refine hbefore.hosts.trans ?_
    have hhiring : g.host.hiring = before.host.hiring := hsame.hiring
    have hblock : Blocks before.host.hiring (.opened count start :: g.host.hiring.map .scheduler) := by
      rw [hhiring]
      exact .one (.started count start)
    dsimp only
    cases hfirst : firstRun g.host with
    | error fault =>
      rw [hiring_of_error hfirst] at hblock
      exact .of_blocks ⟨hsame.hiring, hsame.trigger, hsame.kept, hsame.inner⟩ hsame.journal hblock
        hsame.running
    | ok first =>
      rw [hiring_of_ok hfirst] at hblock
      have hscheduled : Hosts before g.startScheduler := by
        refine .of_blocks ⟨hsame.hiring, hsame.trigger, hsame.kept, hsame.inner⟩ ?_ hblock rfl
        show _ ++ _ ++ _ = _
        rw [hsame.journal]
        exact (List.append_assoc ..).trans (List.append_assoc ..)
      exact hscheduled.trans (.note (.scheduled _) _ rfl)

theorem plain_unsubscribe (f : Feed) : Plain f (f.unsubscribe.enter .idle) := by
  refine .enter .idle ?_
  unfold unsubscribe
  split
  · exact Silent.plain ⟨⟨rfl, rfl, rfl, rfl⟩, rfl, rfl⟩
  · exact .refl f

theorem hosts_stop (f : Feed) : Hosts f f.stop :=
  (plain_unsubscribe f).hosts.trans
    (.of_blocks ⟨rfl, rfl, rfl, rfl⟩ rfl (.one (.stopped [] (.inl rfl))) rfl)

theorem hosts_shutdown (f : Feed) : Hosts f f.shutdown := by
  have hended : ∀ g : Feed, Hosts g ((g.note .closed).schedule .shutdown).stopScheduler := by
    intro g
    exact .of_blocks ⟨rfl, rfl, rfl, rfl⟩ (List.append_assoc ..)
      (.one (.stopped [.shutdown] (.inr rfl))) rfl
  unfold shutdown
  dsimp only
  split
  · exact ((plain_unsubscribe f).hosts.trans (hended _)).trans (.note .unscheduled _ rfl)
  · exact (hosts_stop f).trans (.note .unscheduled _ rfl)

/-! ## Commands -/

theorem hosts_faulty {α : Type} (describe : α → Reply) {f : Feed} {outcome : Except Fault α × Feed}
    (h : Hosts f outcome.2) : Hosts f (faulty describe outcome).2 := by
  rcases outcome with ⟨fault | x, g⟩ <;> exact h

theorem hosts_keep {commands : Option (List Command)} (f : Feed)
    (h : ∀ cs, commands = some cs → Command.areHosted cs = true) :
    Hosts f { f with kept := commands } where
  grows := ⟨rfl, [], (List.append_nil _).symm, .nil, rfl⟩
  hosted := fun hf => ⟨hf.trigger, h⟩
  inner := ⟨[], (List.append_nil _).symm, fun _ has => by cases has⟩

/-- **Every command of a host leaves the feed to it**, if what runs inside session requests does. -/
theorem hosts_obey {inside : Inside} (hinside : Leaves inside) {command : Command} {f : Feed}
    (hcommand : command.isHosted = true) (hf : f.Hosted) : Hosts f (obey inside command f).2 := by
  cases command with
  | start => cases hcommand
  | setTrigger trigger => cases hcommand
  | launch => exact hosts_faulty _ (hosts_launch f)
  | stop => exact hosts_stop f
  | shutdown => exact hosts_shutdown f
  | publish names => exact hosts_faulty _ (hosts_publishWith hinside hf [.bus] names)
  | announce names => exact hosts_faulty _ (hosts_publishWith hinside hf [.host, .bus] names)
  | notify names => exact hosts_faulty _ (hosts_notifyWith hinside hf names)
  | poll time => exact hosts_pollInto hinside hf time
  | pollOnce => exact hosts_faulty _ (hosts_pollOnce hinside hf)
  | advance micros =>
    refine hosts_faulty _ ?_
    unfold advance
    split
    · exact .silent ⟨⟨rfl, rfl, rfl, rfl⟩, rfl, rfl⟩
    · exact .refl f
  | duringFetch commands =>
    cases commands with
    | nil => exact hosts_keep f nofun
    | cons c cs =>
      refine hosts_keep f fun kept hkept => ?_
      cases hkept
      exact hcommand
  | request method target =>
    have hrespond := hosts_respond hinside hf method target
    unfold obey
    dsimp only
    rcases hreply : Surface.respond inside method target f with ⟨lost | reply, g⟩
    all_goals rw [hreply] at hrespond; exact hrespond
  | setClock | respond | drain | newRegistry => exact .silent ⟨⟨rfl, rfl, rfl, rfl⟩, rfl, rfl⟩
  | metrics | registeredNames | subscribers | isStarted | recent => exact .refl f

/-- If one command of a host leaves the feed to it, then so do commands one after the other. -/
theorem leaves_obeyAll {step : Command → Feed → Answer × Feed}
    (hhosts : ∀ c f, c.isHosted = true → f.Hosted → Hosts f (step c f).2)
    (hstate : ∀ c f, (step c f).1.state = (step c f).2.toFeedState) : Leaves (obeyAll step) := by
  intro commands
  induction commands with
  | nil => exact fun f _ _ => ⟨.refl f, fun a ha => by cases ha⟩
  | cons c cs ih =>
    intro f hcommands hf
    obtain ⟨hc, hcs⟩ := Bool.and_eq_true_iff.mp hcommands
    have hone := hhosts c f hc hf
    obtain ⟨hrest, hanswers⟩ := ih (step c f).2 hcs (hone.hosted hf)
    refine ⟨hone.trans hrest, fun a ha => ?_⟩
    rcases List.mem_cons.mp ha with rfl | ha
    · rw [hstate]
      exact hone.grows
    · exact hone.grows.trans (hanswers a ha)

theorem hosts_performAt (bound : Nat) {command : Command} {f : Feed}
    (hcommand : command.isHosted = true) (hf : f.Hosted) :
    Hosts f (performAt bound command f).2 := by
  induction bound generalizing command f with
  | zero =>
    have hnothing : Leaves fun _ f => ([], f) := fun _ f _ _ => ⟨.refl f, fun a ha => by cases ha⟩
    exact hosts_obey hnothing hcommand hf
  | succ bound ih =>
    exact hosts_obey (leaves_obeyAll (fun c g => ih) (state_performAt bound)) hcommand hf

theorem leaves_run : Leaves run :=
  leaves_obeyAll (fun _ f => hosts_performAt f.keptDepth) fun c f => state_performAt f.keptDepth c f

/-- **Whatever a hosted run answers, its journal has grown by blocks.** -/
theorem grows_of_mem_everyAnswer {commands : List Command} {f : Feed}
    (hcommands : Command.areHosted commands = true) (hf : f.Hosted) (hinner : f.inner = [])
    {a : Answer} (ha : a ∈ f.everyAnswer commands) : Grows f.toFeedState a.state := by
  obtain ⟨hhosts, hanswers⟩ := leaves_run commands f hcommands hf
  rcases List.mem_append.mp ha with ha | ha
  · exact hanswers a ha
  · obtain ⟨answers, hanswers', hgrows⟩ := hhosts.inner
    rw [hanswers', hinner, List.nil_append] at ha
    obtain ⟨as, has, ha⟩ := List.mem_flatten.mp ha
    exact hgrows as has a ha

end Feed

end MeterFeed
