import MeterFeed.Proofs.Handling
import MeterFeed.Proofs.Poll

/-!
# Polling inside the handler of an event

A trigger may poll here and now, so that the poll runs inside the handler of the event, together
with whatever runs inside its session request. That comes to the same as handling the event without
a trigger and polling afterwards (`trigger_polls_alike`).

Two feeds are alike (`Feed.Alike`) if they differ at most in that trigger and in what is told of
polls and triggers. A command that is carried out while a fetch is running keeps feeds alike
(`Feed.Alike.obey`): the poll that the trigger attempts is skipped. So do the steps of a poll, and
with them a whole poll (`Feed.Alike.poll`).
-/

namespace MeterFeed

/-- True of all entries but those that tell how a poll was triggered or that it was skipped. -/
def Entry.isEffect : Entry → Bool
  | .inFlight => false
  | e => !e.isOfHandler

def effects (journal : List Entry) : List Entry :=
  journal.filter Entry.isEffect

@[simp] theorem effects_append (js es : List Entry) :
    effects (js ++ es) = effects js ++ effects es :=
  List.filter_append ..

theorem effects_eq_nil {es : List Entry} (h : ∀ e ∈ es, e.isOfHandler = true) : effects es = [] :=
  List.filter_eq_nil_iff.mpr fun e he => by
    have hhandler := h e he
    cases e <;> first | exact Bool.false_ne_true | cases hhandler

theorem Entry.isEffect_of_unlogged {e : Entry} (h : e.line?.isNone = true) : e.isEffect = true := by
  cases e <;> first | rfl | cases h

theorem filter_unlogged_effects (journal : List Entry) :
    (effects journal).filter (·.line?.isNone) = journal.filter (·.line?.isNone) := by
  unfold effects
  rw [List.filter_filter]
  refine List.filter_congr fun e _ => ?_
  cases hline : e.line?.isNone with
  | true => rw [Entry.isEffect_of_unlogged hline, Bool.and_self]
  | false => exact Bool.false_and _

namespace Feed

/-- Two feeds differ at most in a trigger that polls here and now, which the first one has and the
second one has not, and in what is told of triggers and skipped polls. -/
structure Alike (f g : Feed) : Prop where
  same : ∃ trigger journal inner, g = { f with trigger, journal, inner }
  trigger : g.trigger = f.trigger ∨ f.trigger = some .poll ∧ g.trigger = none
  journal : effects g.journal = effects f.journal
  inner : g.inner.map (List.map Answer.result) = f.inner.map (List.map Answer.result)

/-- Two operations have the same result, and leave feeds alike. -/
def Agrees {α : Type} (x y : α × Feed) : Prop :=
  y.1 = x.1 ∧ Alike x.2 y.2

theorem Agrees.outcome {α : Type} {x y : α × Feed} (h : Agrees x y) :
    ∃ result f g, x = (result, f) ∧ y = (result, g) ∧ Alike f g :=
  ⟨x.1, x.2, y.2, rfl, by rw [← h.1], h.2⟩

namespace Alike

variable {f g : Feed}

/-! ## Changes and notes -/

theorem reads {α : Type} (h : Alike f g) (k : Feed → α)
    (hk : ∀ trigger journal inner, k { f with trigger, journal, inner } = k f) : k g = k f := by
  obtain ⟨trigger, journal, inner, rfl⟩ := h.same
  exact hk trigger journal inner

theorem change (h : Alike f g) (k : Feed → Feed)
    (hk : ∀ trigger journal inner, k { f with trigger, journal, inner } =
      { k f with trigger, journal, inner }) : Alike (k f) (k g) := by
  obtain ⟨trigger, journal, inner, rfl⟩ := h.same
  have hself : k f = { k f with trigger := f.trigger, journal := f.journal, inner := f.inner } :=
    hk f.trigger f.journal f.inner
  rw [hk trigger journal inner, hself]
  exact ⟨⟨_, _, _, rfl⟩, h.trigger, h.journal, h.inner⟩

theorem tell (h : Alike f g) {es es' : List Entry} (heffects : effects es' = effects es) :
    Alike (f.notes es) (g.notes es') := by
  obtain ⟨trigger, journal, inner, rfl⟩ := h.same
  refine ⟨⟨_, _, _, rfl⟩, h.trigger, ?_, h.inner⟩
  show effects (journal ++ es') = effects (f.journal ++ es)
  rw [effects_append, effects_append, heffects]
  exact congrArg (· ++ effects es) h.journal

theorem notes (h : Alike f g) (es : List Entry) : Alike (f.notes es) (g.notes es) :=
  h.tell rfl

theorem note (h : Alike f g) {e e' : Entry} (he : e' = e) : Alike (f.note e) (g.note e') :=
  h.tell (congrArg (effects [·]) he)

theorem enter (h : Alike f g) (phase : Phase) : Alike (f.enter phase) (g.enter phase) := by
  have hphase : g.coordinator.phase = f.coordinator.phase :=
    h.reads (·.coordinator.phase) fun _ _ _ => rfl
  rw [enter_eq, enter_eq, hphase]
  exact (h.change (fun f => { f with coordinator := { f.coordinator with phase } })
    fun _ _ _ => rfl).notes _

theorem lookTaken (h : Alike f g) : Alike f.lookTaken g.lookTaken := by
  obtain ⟨es, hes, hf⟩ := lookTaken_eq f
  obtain ⟨es', hes', hg⟩ := lookTaken_eq g
  rw [hf, hg]
  exact h.tell ((effects_eq_nil hes').trans (effects_eq_nil hes).symm)

/-! ## Starting and stopping -/

theorem registerMetrics (h : Alike f g) : Agrees f.registerMetrics g.registerMetrics := by
  have hnames : g.source.registerNames g.source.metrics g.registry =
      f.source.registerNames f.source.metrics f.registry :=
    h.reads (fun f => f.source.registerNames f.source.metrics f.registry) fun _ _ _ => rfl
  unfold Feed.registerMetrics
  rw [hnames]
  rcases f.source.registerNames f.source.metrics f.registry with ⟨metrics, stop, registry⟩
  have hregistered := (h.change (fun f => { f with registry }) fun _ _ _ => rfl).notes
    (registrations metrics)
  cases stop with
  | none => exact ⟨rfl, hregistered.change
      (fun f => { f with source := f.source.withTable (Source.table metrics) }) fun _ _ _ => rfl⟩
  | some fault => exact ⟨rfl, hregistered⟩

theorem opening (h : Alike f g) (table : Fields Metric) :
    Alike (f.opening table) (g.opening table) := by
  have hnamed := h.change (fun f => { f with
    coordinator := { f.coordinator with metrics := table, nextStart := some f.clock } })
    fun _ _ _ => rfl
  have hsubscribed := (hnamed.enter .windowArmed).change (fun f => { f with
    coordinator := { f.coordinator with started := true }
    bus := f.bus.subscribe cycleFinished .coordinator }) fun _ _ _ => rfl
  have hclock := hsubscribed.reads (·.clock) fun _ _ _ => rfl
  exact (hsubscribed.enter .waitingForEvent).note (congrArg (Entry.opened table.length) hclock)

theorem start (h : Alike f g) : Agrees f.start g.start := by
  have hstarted : g.coordinator.started = f.coordinator.started :=
    h.reads (·.coordinator.started) fun _ _ _ => rfl
  unfold Feed.start
  rw [hstarted]
  cases f.coordinator.started with
  | true => exact ⟨rfl, h⟩
  | false =>
    obtain ⟨result, f', g', hf, hg, hafter⟩ := h.registerMetrics.outcome
    rw [hf, hg]
    cases result with
    | error fault => exact ⟨rfl, hafter⟩
    | ok table => exact ⟨rfl, hafter.opening table⟩

theorem startOwn (h : Alike f g) : Agrees f.startOwn g.startOwn := by
  have hown : g.host.registry = f.host.registry := h.reads (·.host.registry) fun _ _ _ => rfl
  have hregistry : g.registry = f.registry := h.reads (·.registry) fun _ _ _ => rfl
  unfold Feed.startOwn
  rw [hown, hregistry]
  cases f.host.registry with
  | none => exact h.start
  | some own =>
    obtain ⟨hresult, hafter⟩ :=
      (h.change (fun f => { f with registry := own }) fun _ _ _ => rfl).start
    exact ⟨hresult, hafter.change (fun g => { g with
      registry := f.registry
      host := { g.host with registry := some g.registry } }) fun _ _ _ => rfl⟩

theorem startScheduler (h : Alike f g) : Alike f.startScheduler g.startScheduler := by
  have hinterval : g.host.interval = f.host.interval := h.reads (·.host.interval) fun _ _ _ => rfl
  have hadded : Alike (f.schedule (.addJob f.host.interval))
      (g.schedule (.addJob g.host.interval)) :=
    h.note (congrArg (Entry.scheduler <| .addJob ·) hinterval)
  have hcalled : Alike ((f.schedule (.addJob f.host.interval)).schedule .start)
      ((g.schedule (.addJob g.host.interval)).schedule .start) :=
    hadded.note rfl
  exact hcalled.change (fun f => { f with
    host := { f.host with running := true, scheduled := true } }) fun _ _ _ => rfl

theorem launch (h : Alike f g) : Agrees f.launch g.launch := by
  obtain ⟨result, f', g', hf, hg, hafter⟩ := h.startOwn.outcome
  unfold Feed.launch
  rw [hf, hg]
  have hhost : g'.host = f'.host := hafter.reads (·.host) fun _ _ _ => rfl
  cases result with
  | error fault => exact ⟨rfl, hafter⟩
  | ok table =>
    dsimp only
    rw [hhost]
    cases firstRun f'.host with
    | error fault => exact ⟨rfl, hafter⟩
    | ok _ => exact ⟨rfl, hafter.startScheduler.note rfl⟩

theorem stop (h : Alike f g) : Alike f.stop g.stop := by
  have hstarted : g.coordinator.started = f.coordinator.started :=
    h.reads (·.coordinator.started) fun _ _ _ => rfl
  have hunsubscribe : Alike f.unsubscribe g.unsubscribe := by
    unfold unsubscribe
    rw [hstarted]
    cases f.coordinator.started with
    | true => exact h.change (fun f => { f with
        coordinator := { f.coordinator with started := false }
        bus := f.bus.unsubscribe cycleFinished .coordinator }) fun _ _ _ => rfl
    | false => exact h
  exact (hunsubscribe.enter .idle).note rfl

theorem shutdown (h : Alike f g) : Alike f.shutdown g.shutdown := by
  have hstop := h.stop
  have hrunning : g.stop.host.running = f.stop.host.running :=
    hstop.reads (·.host.running) fun _ _ _ => rfl
  have hcalled : Alike (f.stop.schedule .shutdown) (g.stop.schedule .shutdown) := hstop.note rfl
  have hstopped : Alike (f.stop.schedule .shutdown).stopScheduler
      (g.stop.schedule .shutdown).stopScheduler :=
    hcalled.change stopScheduler fun _ _ _ => rfl
  unfold Feed.shutdown
  dsimp only
  rw [hrunning]
  cases f.stop.host.running with
  | true => exact hstopped.note rfl
  | false => exact hstop.note rfl

/-! ## In the middle of a fetch -/

theorem arm (h : Alike f g) (request : Request) :
    Alike ((f.arm request).2.noteDisplaced (f.arm request).1)
      ((g.arm request).2.noteDisplaced (g.arm request).1) := by
  have hitem : g.coordinator.slot.item = f.coordinator.slot.item :=
    h.reads (·.coordinator.slot.item) fun _ _ _ => rfl
  have hclock : g.clock = f.clock := h.reads (·.clock) fun _ _ _ => rfl
  have hoffered := h.change (fun f => { f with coordinator := { f.coordinator with
    nextStart := some request.window.finish
    acknowledged := false
    slot := (f.coordinator.slot.offer request).2 } }) fun _ _ _ => rfl
  have harmed : Alike (f.arm request).2 (g.arm request).2 :=
    (hoffered.enter .fetching).note (congrArg (Entry.armed request) hclock)
  rw [noteDisplaced_eq, noteDisplaced_eq,
    show (g.arm request).1 = (f.arm request).1 from hitem]
  exact harmed.notes _

section Busy
variable (h : Alike f g) (busy : f.coordinator.fetching = true)
include h busy

theorem busy_other : g.coordinator.fetching = true :=
  (h.reads (·.coordinator.fetching) fun _ _ _ => rfl).trans busy

theorem pollInto_of_busy (time : Option DateTime) :
    Agrees (f.pollInto run time) (g.pollInto run time) := by
  rw [Feed.pollInto_of_busy busy, Feed.pollInto_of_busy (h.busy_other busy)]
  exact ⟨rfl, h.note rfl⟩

theorem pollOnce_of_busy : Agrees (f.pollOnce run) (g.pollOnce run) := by
  have hclock : g.clock.toUtc = f.clock.toUtc := h.reads (·.clock.toUtc) fun _ _ _ => rfl
  unfold pollOnce
  rw [hclock]
  cases f.clock.toUtc with
  | error fault => exact ⟨rfl, h⟩
  | ok now =>
    dsimp only
    rw [poll_of_busy busy, poll_of_busy (h.busy_other busy)]
    have hskipped : Alike (f.note .inFlight) (g.note .inFlight) := h.note rfl
    exact ⟨rfl, hskipped.change (writeSink []) fun _ _ _ => rfl⟩

theorem runJobNow_of_busy : Agrees (f.runJobNow run) (g.runJobNow run) := by
  have hclock : g.clock.toUtc = f.clock.toUtc := h.reads (·.clock.toUtc) fun _ _ _ => rfl
  have hhost : g.host = f.host := h.reads (·.host) fun _ _ _ => rfl
  unfold runJobNow
  rw [hclock]
  cases f.clock.toUtc with
  | error fault => exact ⟨rfl, h⟩
  | ok now =>
    have hcalled : Alike (f.schedule (.runAt now)) (g.schedule (.runAt now)) := h.note rfl
    obtain ⟨result, f', g', hf, hg, hafter⟩ := (hcalled.pollOnce_of_busy busy).outcome
    have himmediate : (g.schedule (.runAt now)).host = (f.schedule (.runAt now)).host := hhost
    dsimp only
    rw [himmediate, hf, hg]
    split
    · exact ⟨rfl, hcalled⟩
    · split
      · exact ⟨rfl, hcalled⟩
      · cases result with
        | error fault => exact ⟨rfl, hafter⟩
        | ok count => exact ⟨rfl, hafter⟩

theorem fire_of_busy (trigger : Trigger) :
    Agrees (f.fire run trigger) (g.fire run trigger) := by
  cases trigger with
  | noop | fail => exact ⟨rfl, h⟩
  | schedule => exact h.runJobNow_of_busy busy
  | poll =>
    unfold fire
    rw [Feed.pollInto_of_busy busy, Feed.pollInto_of_busy (h.busy_other busy)]
    exact ⟨rfl, h.note rfl⟩

/-- The poll that a trigger attempts here and now is skipped, so it might as well not be there. -/
theorem requestPoll_of_busy : Alike (f.requestPoll run) (g.requestPoll run) := by
  rw [requestPoll_eq, requestPoll_eq]
  rcases h.trigger with hsame | ⟨hpoll, hnone⟩
  · rw [hsame]
    cases f.trigger with
    | none => exact h.note rfl
    | some trigger =>
      obtain ⟨result, f', g', hf, hg, hafter⟩ := (h.fire_of_busy busy trigger).outcome
      dsimp only
      rw [hf, hg]
      cases result with
      | none => exact hafter.lookTaken
      | some halt => exact hafter.note rfl
  · rw [hpoll, hnone]
    obtain ⟨es, hes, hlook⟩ := lookTaken_eq (f.note .inFlight)
    dsimp only [fire]
    rw [Feed.pollInto_of_busy busy]
    dsimp only
    rw [hlook]
    have htold : (f.note .inFlight).notes es = f.notes (.inFlight :: es) :=
      notes_notes [.inFlight] es f
    rw [htold]
    exact h.tell (effects_eq_nil hes).symm

theorem notify_of_busy : Alike (f.notify run) (g.notify run) := by
  have hcoordinator : g.coordinator = f.coordinator := h.reads (·.coordinator) fun _ _ _ => rfl
  unfold notify
  rw [hcoordinator]
  split
  · rename_i start hnext hstarted
    rw [h.reads (nextRequest start) fun _ _ _ => rfl]
    split
    · exact h.note rfl
    · rename_i request made
      have hbusy := (armed_leaves request f).1.trans busy
      exact (h.arm request).requestPoll_of_busy hbusy
  · exact h.note rfl

theorem publish_of_busy : Agrees (f.publish run) (g.publish run) := by
  have hcalls : ∀ (handlers : List Subscriber) (f' g' : Feed), Alike f' g' →
      f'.coordinator.fetching = true →
      Alike (handlers.foldl (call run) f') (handlers.foldl (call run) g') := by
    intro handlers
    induction handlers with
    | nil => exact fun _ _ h _ => h
    | cons handler rest ih =>
      intro f' g' h' busy'
      cases handler
      exact ih _ _ (h'.notify_of_busy busy') ((runs_notify sound_run f').fetching.trans busy')
  unfold publish
  rw [h.reads (·.bus.handlers cycleFinished) fun _ _ _ => rfl]
  dsimp only
  split
  · exact ⟨rfl, hcalls _ _ _ (h.note rfl) busy⟩
  · exact ⟨rfl, hcalls _ _ _ h busy⟩

theorem publishWith_of_busy (recipients : List Recipient) (names : List String) :
    Agrees (f.publishWith run recipients names) (g.publishWith run recipients names) := by
  obtain ⟨hresult, hafter⟩ := h.publish_of_busy busy
  unfold publishWith
  cases checkPayload recipients names with
  | error fault => exact ⟨rfl, h⟩
  | ok _ => exact ⟨congrArg Except.ok hresult, hafter⟩

theorem notifyWith_of_busy (names : List String) :
    Agrees (f.notifyWith run names) (g.notifyWith run names) := by
  unfold notifyWith
  cases checkPayload [.coordinator] names with
  | error fault => exact ⟨rfl, h⟩
  | ok _ => exact ⟨rfl, h.notify_of_busy busy⟩

theorem respond_of_busy (method reference : String) :
    Agrees (Surface.respond run method reference f) (Surface.respond run method reference g) := by
  have hserve (route : Route) (t : Target) :
      Agrees (Surface.serve run route t f) (Surface.serve run route t g) := by
    cases route with
    | cycleFinished => exact ⟨rfl, (h.publish_of_busy busy).2⟩
    | health => exact ⟨h.reads Surface.health fun _ _ _ => rfl, h⟩
    | measurements => exact ⟨h.reads (Surface.measurements t) fun _ _ _ => rfl, h⟩
    | description | browser | signIn | manual => exact ⟨rfl, h⟩
  have hanswer (route : Route) (t : Target) :
      Agrees (Surface.answer run method route t f) (Surface.answer run method route t g) := by
    unfold Surface.answer
    split
    · exact ⟨rfl, h⟩
    · exact hserve route t
  unfold Surface.respond
  cases Reference.read reference with
  | error e => exact ⟨rfl, h⟩
  | ok r =>
    dsimp only
    split
    · exact ⟨rfl, h⟩
    · exact ⟨congrArg Except.ok (hanswer _ _).1, (hanswer _ _).2⟩
    · split
      · exact ⟨rfl, h⟩
      · exact ⟨congrArg Except.ok (hanswer _ _).1, (hanswer _ _).2⟩

/-- **A command in the middle of a fetch keeps feeds alike**, and is answered the same. -/
theorem obey_of_busy (command : Command) :
    (obey run command g).1.result = (obey run command f).1.result ∧
      Alike (obey run command f).2 (obey run command g).2 := by
  have hfaulty : ∀ {α : Type} (describe : α → Reply) {x y : Except Fault α × Feed}, Agrees x y →
      (faulty describe y).1.result = (faulty describe x).1.result ∧
        Alike (faulty describe x).2 (faulty describe y).2 := by
    intro α describe x y hxy
    obtain ⟨result, f', g', rfl, rfl, hafter⟩ := hxy.outcome
    cases result with
    | error fault => exact ⟨rfl, hafter⟩
    | ok value => exact ⟨rfl, hafter⟩
  cases command with
  | start => exact hfaulty _ h.start
  | launch => exact hfaulty _ h.launch
  | stop => exact ⟨rfl, h.stop⟩
  | shutdown => exact ⟨rfl, h.shutdown⟩
  | publish names | announce names => exact hfaulty _ (h.publishWith_of_busy busy _ names)
  | notify names => exact hfaulty _ (h.notifyWith_of_busy busy names)
  | poll time =>
    obtain ⟨hresult, hafter⟩ := h.pollInto_of_busy busy time
    exact ⟨congrArg (Except.map Reply.count) hresult, hafter⟩
  | pollOnce => exact hfaulty _ (h.pollOnce_of_busy busy)
  | advance micros =>
    refine hfaulty _ ?_
    unfold advance
    rw [h.reads (·.clock) fun _ _ _ => rfl]
    cases Span.after micros f.clock with
    | error fault => exact ⟨rfl, h⟩
    | ok clock => exact ⟨rfl, h.change (fun f => { f with clock }) fun _ _ _ => rfl⟩
  | setTrigger trigger =>
    obtain ⟨_, _, _, rfl⟩ := h.same
    exact ⟨rfl, ⟨_, _, _, rfl⟩, .inl rfl, h.journal, h.inner⟩
  | setClock | respond | drain | newRegistry =>
    exact ⟨h.reads (fun f => (obey run _ f).1.result) fun _ _ _ => rfl,
      h.change (fun f => (obey run _ f).2) fun _ _ _ => rfl⟩
  | duringFetch commands =>
    cases commands <;> exact ⟨rfl, h.change (fun f => (obey run _ f).2) fun _ _ _ => rfl⟩
  | metrics | registeredNames | subscribers | isStarted | recent =>
    exact ⟨h.reads (fun f => (obey run _ f).1.result) fun _ _ _ => rfl, h⟩
  | request method target =>
    obtain ⟨result, f', g', hf, hg, hafter⟩ := (h.respond_of_busy busy method target).outcome
    dsimp only [obey]
    rw [hf, hg]
    cases result with
    | error lost => exact ⟨rfl, hafter⟩
    | ok reply => exact ⟨rfl, hafter⟩

end Busy

theorem run_of_busy (commands : List Command) (h : Alike f g)
    (busy : f.coordinator.fetching = true) :
    (g.run commands).1.map Answer.result = (f.run commands).1.map Answer.result ∧
      Alike (f.run commands).2 (g.run commands).2 := by
  induction commands generalizing f g with
  | nil => exact ⟨rfl, h⟩
  | cons c cs ih =>
    obtain ⟨hanswer, hafter⟩ := h.obey_of_busy busy c
    have hperform : ∀ f : Feed, perform c f = obey run c f := perform_eq c
    rw [← hperform f, ← hperform g] at hanswer hafter
    have hbusy : (perform c f).2.coordinator.fetching = true :=
      (runs_performAt f.keptDepth c f).fetching.trans busy
    obtain ⟨hanswers, hlast⟩ := ih hafter hbusy
    exact ⟨congrArg₂ List.cons hanswer hanswers, hlast⟩

/-! ## Polls -/

theorem takeRequest (h : Alike f g) : Agrees f.takeRequest g.takeRequest := by
  have hslot : g.coordinator.slot.take = f.coordinator.slot.take :=
    h.reads (·.coordinator.slot.take) fun _ _ _ => rfl
  unfold Feed.takeRequest
  rw [hslot]
  rcases f.coordinator.slot.take with ⟨_ | _ | request, slot⟩
  · have hbusy : Alike (f.note .slotBusy) (g.note .slotBusy) := h.note rfl
    exact ⟨rfl, hbusy.note rfl⟩
  · exact ⟨rfl, h.note rfl⟩
  · have htaken := h.change (fun f => { f with
      coordinator := { f.coordinator with slot, acknowledged := true } }) fun _ _ _ => rfl
    exact ⟨rfl, htaken.note rfl⟩

theorem runKept (h : Alike f g) (busy : f.coordinator.fetching = true) :
    Alike (f.runKept run) (g.runKept run) := by
  have hkept : g.kept = f.kept := h.reads (·.kept) fun _ _ _ => rfl
  unfold Feed.runKept
  rw [hkept]
  cases f.kept with
  | none => exact h
  | some commands =>
    have hcleared := h.change (fun f => { f with kept := none }) fun _ _ _ => rfl
    obtain ⟨hanswers, hafter⟩ := hcleared.run_of_busy commands busy
    dsimp only
    rcases hf : run commands { f with kept := none } with ⟨answers, f'⟩
    rcases hg : run commands { g with kept := none } with ⟨answers', g'⟩
    rw [hf, hg] at hanswers hafter
    obtain ⟨_, _, _, rfl⟩ := hafter.same
    refine ⟨⟨_, _, _, rfl⟩, hafter.trigger, hafter.journal, ?_⟩
    rw [List.map_append, List.map_append, List.map_singleton, List.map_singleton]
    exact congrArg₂ (· ++ [·]) hafter.inner hanswers

theorem emit (h : Alike f g) (request : Request) (time : DateTime) (records : List Record) :
    Agrees (f.emit request time records) (g.emit request time records) := by
  have hentered := h.enter .emitting
  unfold Feed.emit
  dsimp only
  rw [hentered.reads (·.source) fun _ _ _ => rfl]
  have hmapped := hentered.notes (mapRecords (f.enter .emitting).source time records).entries
  split
  · exact ⟨rfl, hmapped⟩
  · exact ⟨rfl, hmapped.note rfl⟩

theorem digest (h : Alike f g) (request : Request) (time : DateTime) (payload : Json) :
    Agrees (f.digest request time payload) (g.digest request time payload) := by
  unfold Feed.digest
  rcases Batch.parse payload with ⟨entries, (e | fault) | records⟩
  · exact ⟨rfl, (h.notes entries).note rfl⟩
  · exact ⟨rfl, h.notes entries⟩
  · exact (h.notes entries).emit request time records

theorem conclude (h : Alike f g) (request : Request) (time : DateTime) :
    Agrees (f.conclude request time) (g.conclude request time) := by
  unfold Feed.conclude
  rw [h.reads (·.session) fun _ _ _ => rfl]
  rcases Http.conclude request.url f.session with ⟨entries, (e | fault) | payload⟩
  · exact ⟨rfl, (h.notes _).note rfl⟩
  · exact ⟨rfl, h.notes _⟩
  · exact (h.notes _).digest request time payload

theorem settle (h : Alike f g) : Alike f.settle g.settle := by
  have hended := h.change (setFetching false) fun _ _ _ => rfl
  unfold Feed.settle
  dsimp only
  rw [hended.reads (restingPhase ·.coordinator) fun _ _ _ => rfl]
  exact hended.enter _

/-- **A poll keeps feeds alike**, with whatever runs inside its session request. -/
theorem poll (h : Alike f g) (time : Option DateTime) :
    Agrees (f.poll run time) (g.poll run time) := by
  have hfetching : g.coordinator.fetching = f.coordinator.fetching :=
    h.reads (·.coordinator.fetching) fun _ _ _ => rfl
  unfold Feed.poll
  rw [hfetching]
  cases f.coordinator.fetching with
  | true => exact ⟨rfl, h.note rfl⟩
  | false =>
    have hbegun := h.change (setFetching true) fun _ _ _ => rfl
    have hbusy : (f.setFetching true).takeRequest.2.coordinator.fetching = true :=
      fetching_takeRequest _
    obtain ⟨taken, f', g', hf, hg, htaken⟩ := hbegun.takeRequest.outcome
    rw [hf] at hbusy
    rw [hf, hg]
    cases taken with
    | none => exact ⟨rfl, htaken.settle⟩
    | some request =>
      have hasked : Alike (f'.ask request) (g'.ask request) := (htaken.enter .fetching).notes _
      have hanswered := hasked.runKept ((reports_ask request f').fetching.trans hbusy)
      have hclock : g'.clock = f'.clock := htaken.reads (·.clock) fun _ _ _ => rfl
      simp only [Bool.false_eq_true, if_false, cycle_eq, hclock]
      obtain ⟨hpolled, hended⟩ := hanswered.conclude request (time.getD f'.clock)
      exact ⟨hpolled, hended.settle⟩

theorem pollInto (h : Alike f g) (time : Option DateTime) :
    Agrees (f.pollInto run time) (g.pollInto run time) := by
  obtain ⟨polled, f', g', hf, hg, hafter⟩ := (h.poll time).outcome
  unfold Feed.pollInto
  rw [hf, hg]
  exact ⟨rfl, hafter.change (fun f => { f with accumulator := f.accumulator.append polled.points })
    fun _ _ _ => rfl⟩

end Alike

/-! ## Inside the handler and after it -/

/-- A feed that polled inside the handler of an event has come to what another one came to that
polled after it, up to log lines; what stopped the poll is told by the handler. -/
structure PollsAlike (triggered : Feed) (plain : Except (Halt FetchError) Nat × Feed) : Prop where
  alike : Alike triggered plain.2
  coordinator : plain.2.coordinator = triggered.coordinator
  accumulator : plain.2.accumulator = triggered.accumulator
  requested : plain.2.journal.filterMap Entry.requested? =
    triggered.journal.filterMap Entry.requested?
  unlogged : plain.2.journal.filter (·.line?.isNone) = triggered.journal.filter (·.line?.isNone)
  failed : ∀ halt, plain.1 = .error halt →
    ∃ before, triggered.journal = before ++ [.handlerFailed (halt.message FetchError.message)]

theorem PollsAlike.of_alike {triggered : Feed} {plain : Except (Halt FetchError) Nat × Feed}
    (h : Alike triggered plain.2) (failed : ∀ halt, plain.1 = .error halt →
      ∃ before, triggered.journal = before ++ [.handlerFailed (halt.message FetchError.message)]) :
    PollsAlike triggered plain where
  alike := h
  coordinator := h.reads (·.coordinator) fun _ _ _ => rfl
  accumulator := h.reads (·.accumulator) fun _ _ _ => rfl
  requested := by
    have hpick : ∀ e : Entry, e.isEffect = false → e.requested? = none := fun e he => by
      cases e <;> first | rfl | cases he
    rw [← filterMap_filter_eq hpick plain.2.journal, ← filterMap_filter_eq hpick triggered.journal]
    exact congrArg (List.filterMap Entry.requested?) h.journal
  unlogged := by
    rw [← filter_unlogged_effects plain.2.journal, ← filter_unlogged_effects triggered.journal,
      h.journal]
  failed := failed

/-- The trigger polls on the one side, and on the other side somebody does so afterwards. -/
theorem Alike.requestPoll {f g : Feed} (h : Alike f g) (polls : f.trigger = some .poll)
    (absent : g.trigger = none) :
    PollsAlike (f.requestPoll run) ((g.requestPoll run).pollInto run none) := by
  rw [requestPoll_eq, requestPoll_eq, polls, absent]
  have htold : Alike f (g.note .untriggered) := by
    rw [← notes_nil f]
    exact h.tell rfl
  obtain ⟨result, f', g', hf, hg, hafter⟩ := (htold.pollInto none).outcome
  dsimp only [fire]
  rw [hf, hg]
  cases result with
  | error halt =>
    refine .of_alike ?_ fun halt' hhalt => ?_
    · rw [← notes_nil g']
      exact hafter.tell rfl
    · obtain rfl : halt = halt' := Except.error.inj hhalt
      exact ⟨f'.journal, rfl⟩
  | ok count =>
    obtain ⟨es, hes, hlook⟩ := lookTaken_eq f'
    refine .of_alike ?_ fun halt hhalt => nomatch hhalt
    dsimp only
    rw [hlook, ← notes_nil g']
    exact hafter.tell (effects_eq_nil hes).symm

end Feed

/-- **A trigger that polls comes to the same as a poll.** If an event arms a request, whatever the
session answers and whatever runs inside the session request, handling the event with a trigger that
polls here and now leaves the same coordinator, accumulator and requests to the session as handling
it without a trigger and polling afterwards. -/
theorem trigger_polls_alike (f : Feed) (start : DateTime) (request : Request)
    (started : f.coordinator.started = true) (next : f.coordinator.nextStart = some start)
    (made : f.nextRequest start = .ok request) :
    Feed.PollsAlike (Feed.notify Feed.run { f with trigger := some .poll })
      (Feed.pollInto Feed.run none (Feed.notify Feed.run { f with trigger := none })) := by
  let active : Feed := { f with trigger := some .poll }
  let passive : Feed := { f with trigger := none }
  have halike : Feed.Alike active passive := ⟨⟨_, _, _, rfl⟩, .inr ⟨rfl, rfl⟩, rfl, rfl⟩
  obtain ⟨_, hactive⟩ := Feed.armed_eq request active
  obtain ⟨_, hpassive⟩ := Feed.armed_eq request passive
  rw [show active.notify Feed.run = _ from Feed.notify_eq Feed.run started next made,
    show passive.notify Feed.run = _ from Feed.notify_eq Feed.run started next made]
  exact (halike.arm request).requestPoll (by rw [hactive]) (by rw [hpassive])

/-- A second event comes in the middle of the fetch, and the session fails. -/
theorem trigger_polls_alike_sample : ∃ f : Feed, f.coordinator.started = true ∧
    f.kept = some [.publish []] ∧
    Feed.PollsAlike (Feed.notify Feed.run { f with trigger := some .poll })
      (Feed.pollInto Feed.run none (Feed.notify Feed.run { f with trigger := none })) := by
  let f := (Feed.Sample.feed.run [.start, .advance 1000000, .duringFetch [.publish []]]).2
  have hstanding : f.coordinator.started = true ∧
      f.coordinator.nextStart = some Feed.Sample.clock ∧
      (f.nextRequest Feed.Sample.clock).toOption.isSome = true := by
    decide +kernel
  obtain ⟨hstarted, hnext, hmakes⟩ := hstanding
  obtain ⟨request, hmade⟩ := Feed.exists_made hmakes
  exact ⟨f, hstarted, rfl, trigger_polls_alike f _ request hstarted hnext hmade⟩

end MeterFeed
