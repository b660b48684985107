import MeterFeed.Proofs.Retention
import MeterFeed.Proofs.Run

/-!
# What the sink holds

The polling job polls into the sink, and nothing else writes to it. The job is run by command, and
by the scheduler when a trigger asks for it; inside the session request of its poll it may be run
again, and that run is complete before the outer one is.

`Feed.jobs commands f` are the runs of the polling job in a run of commands, in the order in which
they complete. They are found by following the operations of the feed: there is one function for
each operation through which the job may be run, next to the operation itself. `Feed.Delivers` says
that the sink gains what the jobs deliver, one lemma for each operation, and `sink_holds_last` that
a sink holds the newest of it.
-/

namespace MeterFeed

/-! ## Sinks that gain points -/

namespace Sink

variable {α : Type}

/-- A sink gains points: it holds what it keeps of everything written before and of the points. -/
structure Gains (points : List α) (s t : Sink α) : Prop where
  capacity : t.capacity = s.capacity
  holds : ∀ written, s.points = keep s.capacity written →
    t.points = keep s.capacity (written ++ points)

namespace Gains

variable {s t u : Sink α} {xs ys : List α}

theorem refl (s : Sink α) : Gains [] s s :=
  ⟨rfl, fun written h => by rw [List.append_nil, h]⟩

theorem trans (hst : Gains xs s t) (htu : Gains ys t u) : Gains (xs ++ ys) s u := by
  refine ⟨htu.capacity.trans hst.capacity, fun written h => ?_⟩
  have hheld := hst.holds written h
  rw [← hst.capacity] at hheld
  rw [htu.holds _ hheld, hst.capacity, List.append_assoc]

theorem write (s : Sink α) (points : List α) : Gains points s (s.write points) := by
  refine ⟨rfl, fun written h => ?_⟩
  show keep s.capacity (s.points ++ points) = _
  rw [h, keep_keep_append]

end Gains

end Sink

/-! ## Runs of the polling job -/

/-- A run of the polling job: what its poll came to, and what the job returned. -/
structure Job where
  polled : Polled
  returned : Except Fault Nat

namespace Job

def delivered (j : Job) : List Point :=
  match j.returned with
  | .ok _ => j.polled.points
  | .error _ => []

/-- A run whose poll succeeds returns the number of points that it delivers; after a failed fetch it
returns zero and delivers nothing, and a fault stops it. -/
def Exact (j : Job) : Prop :=
  match j.polled.result with
  | .ok count => j.returned = .ok count ∧ j.delivered = j.polled.points ∧ j.delivered.length = count
  | .error (.error _) => j.returned = .ok 0 ∧ j.delivered = []
  | .error (.fault fault) => j.returned = .error fault ∧ j.delivered = []

end Job

/-- How the runs of the polling job are found that a list of commands makes inside a session
request. -/
abbrev Within := List Command → Feed → List Job

namespace Surface

/-- True if a request at a route is answered by publishing the end of a measurement cycle. -/
def publishes (method : String) (route : Route) : Bool :=
  route = .cycleFinished && route.method = method

def announces (method reference : String) : Bool :=
  match Reference.read reference with
  | .error _ => false
  | .ok r =>
    match Route.find (Target.ofReference r).path with
    | .nowhere => false
    | .here route => publishes method route
    | .elsewhere route path => (r.lostOn? path).isNone && publishes method route

theorem answer_snd (inside : Inside) (method : String) (route : Route) (t : Target) (f : Feed) :
    (answer inside method route t f).2 =
      bif publishes method route then (f.publish inside).2 else f := by
  unfold answer publishes
  by_cases hmethod : route.method = method
  · rw [if_neg (not_not_intro hmethod), decide_eq_true hmethod, Bool.and_true]
    cases route <;> rfl
  · rw [if_pos hmethod, decide_eq_false hmethod, Bool.and_false]
    rfl

/-- A request publishes the end of a measurement cycle, or leaves the feed as it is. -/
theorem respond_snd (inside : Inside) (method reference : String) (f : Feed) :
    (respond inside method reference f).2 =
      bif announces method reference then (f.publish inside).2 else f := by
  unfold respond announces
  cases Reference.read reference with
  | error e => rfl
  | ok r =>
    dsimp only
    generalize Route.find (Target.ofReference r).path = way
    cases way with
    | nowhere => rfl
    | here route => exact answer_snd inside method route _ f
    | elsewhere route path =>
      dsimp only
      cases r.lostOn? path with
      | some lost => rfl
      | none => exact answer_snd inside method route _ f

end Surface

/-- A poll that succeeds counts its points, and one whose fetch fails has none. -/
def Polled.Counted (p : Polled) : Prop :=
  match p.result with
  | .ok count => p.points.length = count
  | .error (.error _) => p.points = []
  | .error (.fault _) => True

namespace Feed

section Jobs
variable (inside : Inside) (within : Within)

def keptJobs (f : Feed) : List Job :=
  match f.kept with
  | none => []
  | some commands => within commands { f with kept := none }

def pollJobs (f : Feed) : List Job :=
  if f.coordinator.fetching then []
  else
    match (f.setFetching true).takeRequest with
    | (none, _) => []
    | (some request, g) => (g.ask request).keptJobs within

def onceJobs (f : Feed) : List Job :=
  match f.clock.toUtc with
  | .error fault => [⟨⟨[], .error (.fault fault)⟩, .error fault⟩]
  | .ok now => f.pollJobs within ++ [⟨(f.poll inside (some now)).1, (f.pollOnce inside).1⟩]

def nowJobs (f : Feed) : List Job :=
  match f.clock.toUtc with
  | .error _ => []
  | .ok now =>
    if f.host.immediate && f.host.scheduled then (f.schedule (.runAt now)).onceJobs inside within
    else []

def fireJobs (trigger : Trigger) (f : Feed) : List Job :=
  match trigger with
  | .noop | .fail => []
  | .schedule => f.nowJobs inside within
  | .poll => f.pollJobs within

def triggerJobs (f : Feed) : List Job :=
  match f.trigger with
  | none => []
  | some trigger => f.fireJobs inside within trigger

def notifyJobs (f : Feed) : List Job :=
  match f.coordinator.nextStart, f.coordinator.started with
  | some start, true =>
    match f.nextRequest start with
    | .error _ => []
    | .ok request => ((f.arm request).2.noteDisplaced (f.arm request).1).triggerJobs inside within
  | _, _ => []

def callJobs : List Subscriber → Feed → List Job
  | [], _ => []
  | .coordinator :: rest, f => f.notifyJobs inside within ++ callJobs rest (f.notify inside)

def publishJobs (f : Feed) : List Job :=
  let handlers := f.bus.handlers cycleFinished
  callJobs inside within handlers
    (if handlers.isEmpty then f.note (.noSubscriber cycleFinished) else f)

/-- The runs of the polling job in a command. -/
def jobsOf (command : Command) (f : Feed) : List Job :=
  match command with
  | .publish names => bif (checkPayload [.bus] names).isOk then f.publishJobs inside within else []
  | .announce names =>
    bif (checkPayload [.host, .bus] names).isOk then f.publishJobs inside within else []
  | .notify names =>
    bif (checkPayload [.coordinator] names).isOk then f.notifyJobs inside within else []
  | .poll _ => f.pollJobs within
  | .pollOnce => f.onceJobs inside within
  | .request method target =>
    bif Surface.announces method target then f.publishJobs inside within else []
  | _ => []

end Jobs

def jobsOfAll (obey : Command → Feed → Answer × Feed) (jobs : Command → Feed → List Job) : Within
  | [], _ => []
  | c :: cs, f => jobs c f ++ jobsOfAll obey jobs cs (obey c f).2

def jobsAt : Nat → Command → Feed → List Job
  | 0 => jobsOf (fun _ f => ([], f)) fun _ _ => []
  | bound + 1 => jobsOf (obeyAll (performAt bound)) (jobsOfAll (performAt bound) (jobsAt bound))

/-- The runs of the polling job in a run of commands, in the order in which they complete. -/
def jobs (commands : List Command) (f : Feed) : List Job :=
  jobsOfAll perform (fun c g => jobsAt g.keptDepth c g) commands f

/-! ## Jobs and the sink -/

/-- An answer shows the sink after some of the jobs. -/
def Shows (jobs : List Job) (f : Feed) (a : Answer) : Prop :=
  ∃ complete, complete <+: jobs ∧
    Sink.Gains (complete.flatMap Job.delivered) f.host.sink a.state.host.sink

/-- From one feed to another the sink gains what the jobs deliver, and what is answered inside
session requests shows it after some of them. -/
structure Delivers (jobs : List Job) (f g : Feed) : Prop where
  sink : Sink.Gains (jobs.flatMap Job.delivered) f.host.sink g.host.sink
  inner : ∃ answers, g.inner = f.inner ++ answers ∧ ∀ as ∈ answers, ∀ a ∈ as, Shows jobs f a
  exact : ∀ j ∈ jobs, j.Exact

section Shows
variable {js ks : List Job} {f g : Feed} {a : Answer}

theorem Shows.before (h : Shows js f a) : Shows (js ++ ks) f a := by
  obtain ⟨complete, hprefix, hgains⟩ := h
  exact ⟨complete, hprefix.trans (List.prefix_append js ks), hgains⟩

theorem Shows.after (hgains : Sink.Gains (js.flatMap Job.delivered) f.host.sink g.host.sink)
    (h : Shows ks g a) : Shows (js ++ ks) f a := by
  obtain ⟨complete, hprefix, hmore⟩ := h
  refine ⟨js ++ complete, (List.prefix_append_right_inj js).mpr hprefix, ?_⟩
  rw [List.flatMap_append]
  exact hgains.trans hmore

end Shows

namespace Delivers

variable {js ks : List Job} {f g h : Feed}

theorem nothing (host : g.host.sink = f.host.sink) (inner : g.inner = f.inner) :
    Delivers [] f g where
  sink := by
    rw [host]
    exact .refl _
  inner := ⟨[], by rw [inner, List.append_nil], fun _ has => by cases has⟩
  exact := fun _ hj => by cases hj

theorem own {j : Job} (exact : j.Exact)
    (gains : Sink.Gains j.delivered f.host.sink g.host.sink) (inner : g.inner = f.inner) :
    Delivers [j] f g where
  sink := by
    rw [List.flatMap_singleton]
    exact gains
  inner := ⟨[], by rw [inner, List.append_nil], fun _ has => by cases has⟩
  exact := List.forall_mem_singleton.mpr exact

theorem trans (hfg : Delivers js f g) (hgh : Delivers ks g h) : Delivers (js ++ ks) f h := by
  obtain ⟨as, has, hshows⟩ := hfg.inner
  obtain ⟨bs, hbs, hshows'⟩ := hgh.inner
  refine ⟨?_, ⟨as ++ bs, by rw [hbs, has, List.append_assoc], ?_⟩, ?_⟩
  · rw [List.flatMap_append]
    exact hfg.sink.trans hgh.sink
  · intro answers hmem a ha
    rcases List.mem_append.mp hmem with hmem | hmem
    · exact (hshows answers hmem a ha).before
    · exact .after hfg.sink (hshows' answers hmem a ha)
  · intro j hj
    rcases List.mem_append.mp hj with hj | hj
    · exact hfg.exact j hj
    · exact hgh.exact j hj

theorem from_nothing (hfg : Delivers [] f g) (hgh : Delivers js g h) : Delivers js f h :=
  hfg.trans hgh

theorem to_nothing (hfg : Delivers js f g) (hgh : Delivers [] g h) : Delivers js f h := by
  have hboth := hfg.trans hgh
  rwa [List.append_nil] at hboth

theorem note (e : Entry) (f : Feed) : Delivers [] f (f.note e) :=
  .nothing rfl rfl

theorem of_reports (h : Reports f g) : Delivers [] f g := by
  obtain ⟨phase, journal, rfl⟩ := h
  exact .nothing rfl rfl

end Delivers

/-! ## What a poll counts -/

theorem counted_conclude (request : Request) (time : DateTime) (f : Feed) :
    (f.conclude request time).1.Counted := by
  unfold conclude
  rcases Http.conclude request.url f.session with ⟨entries, (e | fault) | payload⟩
  · rfl
  · trivial
  · show (digest request time payload _).1.Counted
    unfold digest
    rcases Batch.parse payload with ⟨notes, (e | fault) | records⟩
    · rfl
    · trivial
    · show (emit request time records _).1.Counted
      unfold emit
      dsimp only
      split
      · trivial
      · rfl

theorem counted_poll (inside : Inside) (time : Option DateTime) (f : Feed) :
    (f.poll inside time).1.Counted := by
  unfold poll
  split
  · rfl
  · rcases (f.setFetching true).takeRequest with ⟨_ | request, g⟩
    · rfl
    · simp only [cycle_eq]
      exact counted_conclude request _ _

/-! ## Operations through which the job may be run -/

/-- Whatever is run inside a session request delivers its jobs, and its answers show the sink after
some of them. -/
def Faithful (inside : Inside) (within : Within) : Prop :=
  ∀ commands f, Delivers (within commands f) f (inside commands f).2 ∧
    ∀ a ∈ (inside commands f).1, Shows (within commands f) f a

section Inside
variable {inside : Inside} {within : Within} (h : Faithful inside within)
include h

theorem delivers_runKept (f : Feed) : Delivers (f.keptJobs within) f (f.runKept inside) := by
  unfold runKept keptJobs
  cases f.kept with
  | none => exact .nothing rfl rfl
  | some commands =>
    obtain ⟨hdelivers, hanswers⟩ := h commands { f with kept := none }
    obtain ⟨answers, hinner, hshows⟩ := hdelivers.inner
    refine ⟨hdelivers.sink, ⟨answers ++ [(inside commands { f with kept := none }).1], ?_, ?_⟩,
      hdelivers.exact⟩
    · show _ ++ _ = _
      rw [hinner, List.append_assoc]
    · intro as has a ha
      rcases List.mem_append.mp has with has | has
      · exact hshows as has a ha
      · rw [List.mem_singleton.mp has] at ha
        exact hanswers a ha

theorem delivers_poll (time : Option DateTime) (f : Feed) :
    Delivers (f.pollJobs within) f (f.poll inside time).2 := by
  have hsettle : ∀ g : Feed, Delivers [] g g.settle := fun g =>
    (Delivers.nothing rfl rfl : Delivers [] g (g.setFetching false)).to_nothing
      (.of_reports (reports_enter _ _))
  unfold poll pollJobs
  cases f.coordinator.fetching with
  | true => exact .note .inFlight f
  | false =>
    have htaken : Delivers [] f (f.setFetching true).takeRequest.2 := by
      refine .nothing ?_ (inner_takeRequest _)
      unfold takeRequest
      split <;> rfl
    simp only [Bool.false_eq_true, if_false, cycle_eq]
    rcases htake : (f.setFetching true).takeRequest with ⟨_ | request, g⟩
    all_goals rw [htake] at htaken
    · exact htaken.to_nothing (hsettle g)
    · have hasked : Delivers [] f (g.ask request) :=
        htaken.to_nothing (.of_reports (reports_ask request g))
      have hkept := hasked.from_nothing (delivers_runKept h (g.ask request))
      exact (hkept.to_nothing (.of_reports (reports_conclude request _ _))).to_nothing (hsettle _)

theorem delivers_pollInto (time : Option DateTime) (f : Feed) :
    Delivers (f.pollJobs within) f (f.pollInto inside time).2 :=
  (delivers_poll h time f).to_nothing (.nothing rfl rfl)

/-- The job delivers what those inside its session request deliver, and then its own points. -/
theorem delivers_pollOnce (f : Feed) :
    Delivers (f.onceJobs inside within) f (f.pollOnce inside).2 := by
  unfold onceJobs pollOnce
  cases f.clock.toUtc with
  | error fault => exact .own ⟨rfl, rfl⟩ (.refl _) rfl
  | ok now =>
    have hpoll := delivers_poll h (some now) f
    have hcounted := counted_poll inside (some now) f
    dsimp only
    rcases hpolled : f.poll inside (some now) with ⟨⟨points, (e | fault) | count⟩, g⟩
    all_goals rw [hpolled] at hpoll hcounted
    · refine hpoll.trans (.own ⟨rfl, hcounted⟩ ?_ rfl)
      have hnone : points = [] := hcounted
      subst hnone
      exact .refl _
    · exact hpoll.trans (.own ⟨rfl, rfl⟩ (.refl _) rfl)
    · exact hpoll.trans (.own ⟨rfl, rfl, hcounted⟩ (.write _ points) rfl)

theorem delivers_runJobNow (f : Feed) :
    Delivers (f.nowJobs inside within) f (f.runJobNow inside).2 := by
  unfold nowJobs runJobNow
  cases f.clock.toUtc with
  | error fault => exact .nothing rfl rfl
  | ok now =>
    have hcall : Delivers [] f (f.schedule (.runAt now)) := .note _ f
    have honce := hcall.from_nothing (delivers_pollOnce h (f.schedule (.runAt now)))
    have hhost : (f.schedule (.runAt now)).host = f.host := rfl
    dsimp only
    rw [hhost]
    cases f.host.immediate with
    | false => exact hcall
    | true =>
      cases f.host.scheduled with
      | false => exact hcall
      | true =>
        simp only [Bool.and_self, Bool.not_true, Bool.false_eq_true, if_false, if_true]
        split <;> rename_i hpolled <;> rw [hpolled] at honce <;> exact honce

theorem delivers_fire (trigger : Trigger) (f : Feed) :
    Delivers (f.fireJobs inside within trigger) f (f.fire inside trigger).2 := by
  cases trigger with
  | noop | fail => exact .nothing rfl rfl
  | schedule => exact delivers_runJobNow h f
  | poll =>
    have hpoll := delivers_pollInto h none f
    unfold fireJobs fire
    dsimp only
    split <;> rename_i hpolled <;> rw [hpolled] at hpoll <;> exact hpoll

theorem delivers_requestPoll (f : Feed) :
    Delivers (f.triggerJobs inside within) f (f.requestPoll inside) := by
  unfold triggerJobs requestPoll
  cases f.trigger with
  | none => exact .note .untriggered f
  | some trigger =>
    have hfire := delivers_fire h trigger f
    dsimp only
    rcases hfired : f.fire inside trigger with ⟨_ | halt, g⟩
    all_goals rw [hfired] at hfire
    · dsimp only
      split
      · exact hfire
      · split <;> exact hfire.to_nothing (.note _ g)
    · exact hfire.to_nothing (.note _ g)

theorem delivers_notify (f : Feed) :
    Delivers (f.notifyJobs inside within) f (f.notify inside) := by
  unfold notifyJobs notify
  rcases f.coordinator.nextStart with _ | start
  · exact .note .ignored f
  · cases f.coordinator.started with
    | false => exact .note .ignored f
    | true =>
      dsimp only
      cases f.nextRequest start with
      | error fault => exact .note _ f
      | ok request =>
        have harmed : Delivers [] f ((f.arm request).2.noteDisplaced (f.arm request).1) := by
          obtain ⟨journal, harmed⟩ := armed_eq request f
          rw [harmed]
          exact .nothing rfl rfl
        exact harmed.from_nothing (delivers_requestPoll h _)

theorem delivers_publish (f : Feed) :
    Delivers (f.publishJobs inside within) f (f.publish inside).2 := by
  have hcalls : ∀ (handlers : List Subscriber) (g : Feed),
      Delivers (callJobs inside within handlers g) g (handlers.foldl (call inside) g) := by
    intro handlers
    induction handlers with
    | nil => exact fun g => .nothing rfl rfl
    | cons handler rest ih =>
      intro g
      cases handler
      exact (delivers_notify h g).trans (ih _)
  unfold publishJobs publish
  dsimp only
  split
  · have hnoted : Delivers [] f (f.note (.noSubscriber cycleFinished)) := .note _ f
    exact hnoted.from_nothing (hcalls _ _)
  · exact hcalls _ f

theorem delivers_publishWith (recipients : List Recipient) (names : List String) (f : Feed) :
    Delivers (bif (checkPayload recipients names).isOk then f.publishJobs inside within else []) f
      (f.publishWith inside recipients names).2 := by
  unfold publishWith
  cases checkPayload recipients names with
  | error fault => exact .nothing rfl rfl
  | ok _ => exact delivers_publish h f

theorem delivers_notifyWith (names : List String) (f : Feed) :
    Delivers (bif (checkPayload [.coordinator] names).isOk then f.notifyJobs inside within else [])
      f (f.notifyWith inside names).2 := by
  unfold notifyWith
  cases checkPayload [.coordinator] names with
  | error fault => exact .nothing rfl rfl
  | ok _ => exact delivers_notify h f

theorem delivers_respond (method reference : String) (f : Feed) :
    Delivers (bif Surface.announces method reference then f.publishJobs inside within else []) f
      (Surface.respond inside method reference f).2 := by
  rw [Surface.respond_snd]
  cases Surface.announces method reference with
  | true => exact delivers_publish h f
  | false => exact .nothing rfl rfl

end Inside

/-! ## Starting and stopping -/

theorem delivers_faulty {α : Type} (describe : α → Reply) {js : List Job} {f : Feed}
    {outcome : Except Fault α × Feed} (h : Delivers js f outcome.2) :
    Delivers js f (faulty describe outcome).2 := by
  rcases outcome with ⟨fault | x, g⟩ <;> exact h

theorem delivers_start (f : Feed) : Delivers [] f f.start.2 := by
  unfold start
  cases f.coordinator.started with
  | true => exact .nothing rfl rfl
  | false =>
    rcases hregister : f.registerMetrics with ⟨fault | table, g⟩
    · obtain ⟨registry, metrics, rfl⟩ := registerMetrics_error hregister
      exact .nothing rfl rfl
    · obtain ⟨registry, metrics, -, hg⟩ := registerMetrics_ok hregister
      obtain ⟨journal, hopening⟩ := opening_eq table g
      dsimp only
      rw [hopening, hg]
      exact .nothing rfl rfl

theorem delivers_stop (f : Feed) : Delivers [] f f.stop := by
  have hleft : Delivers [] f f.unsubscribe := by
    unfold unsubscribe
    split <;> exact .nothing rfl rfl
  exact (hleft.to_nothing (.of_reports (reports_enter .idle _))).to_nothing (.note .closed _)

theorem delivers_startOwn (f : Feed) : Delivers [] f f.startOwn.2 := by
  unfold startOwn
  cases f.host.registry with
  | none => exact delivers_start f
  | some own =>
    have hown : Delivers [] f { f with registry := own } := .nothing rfl rfl
    exact (hown.to_nothing (delivers_start _)).to_nothing (.nothing rfl rfl)

theorem delivers_launch (f : Feed) : Delivers [] f f.launch.2 := by
  have hstart := delivers_startOwn f
  unfold launch
  rcases hown : f.startOwn with ⟨fault | table, g⟩
  all_goals rw [hown] at hstart
  · exact hstart
  · dsimp only
    split
    · exact hstart
    · have hscheduled : Delivers [] g g.startScheduler := .nothing rfl rfl
      exact (hstart.to_nothing hscheduled).to_nothing (.note _ _)

theorem delivers_shutdown (f : Feed) : Delivers [] f f.shutdown := by
  have hscheduler : ∀ g : Feed, Delivers [] g
      (if g.host.running then (g.schedule .shutdown).stopScheduler else g) := by
    intro g
    split <;> exact .nothing rfl rfl
  exact ((delivers_stop f).to_nothing (hscheduler _)).to_nothing (.note .unscheduled _)

/-! ## Commands -/

/-- **Every command delivers its jobs**, if what runs inside session requests does. -/
theorem delivers_obey {inside : Inside} {within : Within} (h : Faithful inside within)
    (command : Command) (f : Feed) :
    Delivers (jobsOf inside within command f) f (obey inside command f).2 := by
  cases command with
  | start => exact delivers_faulty _ (delivers_start f)
  | launch => exact delivers_faulty _ (delivers_launch f)
  | stop => exact delivers_stop f
  | shutdown => exact delivers_shutdown f
  | publish names => exact delivers_faulty _ (delivers_publishWith h [.bus] names f)
  | announce names => exact delivers_faulty _ (delivers_publishWith h [.host, .bus] names f)
  | notify names => exact delivers_faulty _ (delivers_notifyWith h names f)
  | poll time => exact delivers_pollInto h time f
  | pollOnce => exact delivers_faulty _ (delivers_pollOnce h f)
  | advance micros =>
    refine delivers_faulty _ ?_
    unfold advance
    split <;> exact .nothing rfl rfl
  | duringFetch commands => cases commands <;> exact .nothing rfl rfl
  | request method target =>
    have hrespond := delivers_respond h method target f
    unfold obey
    dsimp only
    rcases hreply : Surface.respond inside method target f with ⟨lost | reply, g⟩
    all_goals rw [hreply] at hrespond; exact hrespond
  | setClock | respond | setTrigger | drain | newRegistry => exact .nothing rfl rfl
  | metrics | registeredNames | subscribers | isStarted | recent => exact .nothing rfl rfl

/-- If one command delivers its jobs and shows the state that it leaves, then so do commands one
after the other. -/
theorem faithful_obeyAll {step : Command → Feed → Answer × Feed}
    {jobs : Command → Feed → List Job} (hdelivers : ∀ c f, Delivers (jobs c f) f (step c f).2)
    (hstate : ∀ c f, (step c f).1.state = (step c f).2.toFeedState) :
    Faithful (obeyAll step) (jobsOfAll step jobs) := by
  intro commands
  induction commands with
  | nil => exact fun f => ⟨.nothing rfl rfl, fun a ha => by cases ha⟩
  | cons c cs ih =>
    intro f
    obtain ⟨hrest, hanswers⟩ := ih (step c f).2
    have hone := hdelivers c f
    refine ⟨hone.trans hrest, fun a ha => ?_⟩
    rcases List.mem_cons.mp ha with rfl | ha
    · refine ⟨jobs c f, List.prefix_append _ _, ?_⟩
      rw [hstate]
      exact hone.sink
    · exact .after hone.sink (hanswers a ha)

theorem delivers_performAt (bound : Nat) (command : Command) (f : Feed) :
    Delivers (jobsAt bound command f) f (performAt bound command f).2 := by
  induction bound generalizing command f with
  | zero =>
    have hnothing : Faithful (fun _ f => ([], f)) fun _ _ => [] :=
      fun _ _ => ⟨.nothing rfl rfl, fun a ha => by cases ha⟩
    exact delivers_obey hnothing command f
  | succ bound ih =>
    exact delivers_obey (faithful_obeyAll ih (state_performAt bound)) command f

theorem faithful_run : Faithful run jobs :=
  faithful_obeyAll (fun c f => delivers_performAt f.keptDepth c f)
    fun c f => state_performAt f.keptDepth c f

end Feed

/-- **The sink holds the last of what its jobs delivered.** Whatever a run does, at its end the sink
holds as many as its capacity allows of the points that the runs of the polling job delivered, in
the order in which these completed; every answer, from inside a session request or not, shows it
with the points of those that were complete by then; and every run of the job returns the number of
points that it delivered. -/
theorem sink_holds_last (source : Source) (clock : DateTime) (session : SessionAnswer)
    (trigger : Option Trigger) (ackTimeout : Number) (capacity : Option Nat) (interval : Int)
    (immediate : Bool) (present : DateTime) (commands : List Command) :
    let f := Feed.initial source clock session trigger ackTimeout
      (.initial ⟨capacity, []⟩ interval immediate present)
    Newest capacity (f.run commands).2.host.sink.points
        ((f.jobs commands).flatMap Job.delivered) ∧
      (∀ a ∈ f.everyAnswer commands, ∃ complete, complete <+: f.jobs commands ∧
        Newest capacity a.state.host.sink.points (complete.flatMap Job.delivered)) ∧
      ∀ j ∈ f.jobs commands, j.Exact := by
  intro f
  have hempty : f.host.sink.points = Sink.keep f.host.sink.capacity [] :=
    (Sink.keep_nil capacity).symm
  obtain ⟨hdelivers, hanswers⟩ := Feed.faithful_run commands f
  have hshows : ∀ a, Feed.Shows (f.jobs commands) f a → ∃ complete, complete <+: f.jobs commands ∧
      Newest capacity a.state.host.sink.points (complete.flatMap Job.delivered) := by
    rintro a ⟨complete, hprefix, hgains⟩
    exact ⟨complete, hprefix, newest_iff.mpr (hgains.holds [] hempty)⟩
  refine ⟨newest_iff.mpr (hdelivers.sink.holds [] hempty), fun a ha => ?_, hdelivers.exact⟩
  rcases List.mem_append.mp ha with ha | ha
  · exact hshows a (hanswers a ha)
  · obtain ⟨answers, hinner, hmem⟩ := hdelivers.inner
    rw [show f.inner = [] from rfl, List.nil_append] at hinner
    rw [hinner] at ha
    obtain ⟨as, has, ha⟩ := List.mem_flatten.mp ha
    exact hshows a (hmem as has a ha)

open Feed.Sample in
/-- A sink for two points takes in two, and then a third one for which the first has to go. Inside
the session request for the third another run of the job finds nothing to do, and is complete
first. -/
example :
    let f := Feed.initial feed.source clock (answer [measure "power" 1, measure "power" 2]) none
      (.int 0) (.initial ⟨some 2, []⟩ 60 false clock)
    let commands : List Command := [.start, .publish [], .pollOnce,
      .respond (answer [measure "power" 3]), .publish [], .duringFetch [.pollOnce], .pollOnce]
    (f.jobs commands).map (fun j => (j.returned.toOption, j.delivered)) =
        [(some 2, [point 1, point 2]), (some 0, []), (some 1, [point 3])] ∧
      (f.run commands).2.host.sink.points = [point 2, point 3] := by
  decide +kernel

end MeterFeed
