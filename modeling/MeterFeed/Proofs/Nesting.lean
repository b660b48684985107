import MeterFeed.Proofs.Run

/-!
# Commands inside session requests

`Feed.perform` bounds how deep the commands are nested that are kept for the inside of session
requests. The bound is never reached: while a fetch is running every poll is skipped, so what runs
inside a session request runs nothing inside another one. Two ways of running kept commands come to
the same if they agree while a fetch is running (`Feed.agree_obey`), and therefore `Feed.perform`
runs the kept commands by itself (`Feed.perform_eq`).
-/

namespace MeterFeed

namespace Feed

/-- Two ways of running kept commands cannot be told apart: a fetch is running, no commands are
kept, or the two agree while a fetch is running. -/
def Agree (inside other : Inside) (f : Feed) : Prop :=
  f.coordinator.fetching = true ∨ f.kept = none ∨
    ∀ commands g, g.coordinator.fetching = true → inside commands g = other commands g

section Agree
variable {inside other : Inside} {f g : Feed}

theorem Agree.congr (h : Agree inside other f)
    (fetching : g.coordinator.fetching = f.coordinator.fetching) (kept : g.kept = f.kept) :
    Agree inside other g := by
  unfold Agree
  rw [fetching, kept]
  exact h

/-! ## Polls -/

theorem kept_takeRequest (f : Feed) : f.takeRequest.2.kept = f.kept := by
  unfold takeRequest
  split <;> rfl

theorem kept_settle (f : Feed) : f.settle.kept = f.kept :=
  (reports_enter _ _).kept

theorem runKept_of_none (way : Inside) (h : f.kept = none) : f.runKept way = f := by
  unfold runKept
  rw [h]

theorem runKept_congr (busy : f.coordinator.fetching = true)
    (h : ∀ commands g, g.coordinator.fetching = true → inside commands g = other commands g) :
    f.runKept inside = f.runKept other := by
  unfold runKept
  cases f.kept with
  | none => rfl
  | some commands =>
    have hsame := h commands { f with kept := none } busy
    dsimp only
    rw [hsame]

/-- A poll that is not skipped runs the kept commands while a fetch is running. -/
theorem agree_poll (time : Option DateTime) (h : Agree inside other f) :
    f.poll inside time = f.poll other time ∧ Agree inside other (f.poll other time).2 := by
  unfold poll
  cases hfetching : f.coordinator.fetching with
  | true => exact ⟨rfl, h.congr rfl rfl⟩
  | false =>
    replace h := h.resolve_left (by simp [hfetching])
    have hkept : (f.setFetching true).takeRequest.2.kept = f.kept := kept_takeRequest _
    have hbusy : (f.setFetching true).takeRequest.2.coordinator.fetching = true :=
      fetching_takeRequest _
    rcases htake : (f.setFetching true).takeRequest with ⟨_ | request, g⟩
    all_goals rw [htake] at hkept hbusy
    · refine ⟨rfl, .inr (h.imp_left fun hnone => ?_)⟩
      exact (kept_settle g).trans (hkept.trans hnone)
    · have hasked : (g.ask request).kept = f.kept := (reports_ask request g).kept.trans hkept
      simp only [Bool.false_eq_true, if_false, cycle_eq]
      rcases h with hnone | hall
      · have hstill : (g.ask request).kept = none := hasked.trans hnone
        rw [runKept_of_none inside hstill, runKept_of_none other hstill]
        refine ⟨rfl, .inr (.inl ?_)⟩
        exact (kept_settle _).trans ((reports_conclude request _ _).kept.trans hstill)
      · rw [runKept_congr ((reports_ask request g).fetching.trans hbusy) hall]
        exact ⟨rfl, .inr (.inr hall)⟩

theorem agree_pollInto (time : Option DateTime) (h : Agree inside other f) :
    f.pollInto inside time = f.pollInto other time ∧
      Agree inside other (f.pollInto other time).2 := by
  obtain ⟨hsame, hafter⟩ := agree_poll time h
  unfold pollInto
  rw [hsame]
  exact ⟨rfl, hafter.congr rfl rfl⟩

theorem agree_pollOnce (h : Agree inside other f) :
    f.pollOnce inside = f.pollOnce other ∧ Agree inside other (f.pollOnce other).2 := by
  unfold pollOnce
  cases f.clock.toUtc with
  | error fault => exact ⟨rfl, h⟩
  | ok now =>
    obtain ⟨hsame, hafter⟩ := agree_poll (some now) h
    dsimp only
    rw [hsame]
    refine ⟨rfl, ?_⟩
    rcases hpolled : f.poll other (some now) with ⟨⟨points, (e | fault) | count⟩, g⟩
    all_goals rw [hpolled] at hafter; exact hafter.congr rfl rfl

/-! ## Events -/

theorem agree_runJobNow (h : Agree inside other f) :
    f.runJobNow inside = f.runJobNow other ∧ Agree inside other (f.runJobNow other).2 := by
  unfold runJobNow
  cases f.clock.toUtc with
  | error fault => exact ⟨rfl, h⟩
  | ok now =>
    have hcall : Agree inside other (f.schedule (.runAt now)) := h.congr rfl rfl
    obtain ⟨hsame, hafter⟩ := agree_pollOnce hcall
    dsimp only
    rw [hsame]
    refine ⟨rfl, ?_⟩
    split
    · exact hcall
    · split
      · exact hcall
      · split <;> rename_i hpolled <;> rw [hpolled] at hafter <;> exact hafter

theorem agree_fire (trigger : Trigger) (h : Agree inside other f) :
    f.fire inside trigger = f.fire other trigger ∧
      Agree inside other (f.fire other trigger).2 := by
  cases trigger with
  | noop | fail => exact ⟨rfl, h⟩
  | schedule => exact agree_runJobNow h
  | poll =>
    obtain ⟨hsame, hafter⟩ := agree_pollInto none h
    unfold fire
    dsimp only
    rw [hsame]
    refine ⟨rfl, ?_⟩
    split <;> rename_i hpolled <;> rw [hpolled] at hafter <;> exact hafter

theorem agree_requestPoll (h : Agree inside other f) :
    f.requestPoll inside = f.requestPoll other ∧
      Agree inside other (f.requestPoll other) := by
  unfold requestPoll
  cases f.trigger with
  | none => exact ⟨rfl, h.congr rfl rfl⟩
  | some trigger =>
    obtain ⟨hsame, hafter⟩ := agree_fire trigger h
    dsimp only
    rw [hsame]
    refine ⟨rfl, ?_⟩
    rcases hfired : f.fire other trigger with ⟨_ | halt, g⟩
    all_goals rw [hfired] at hafter
    · dsimp only
      split
      · exact hafter
      · split <;> exact hafter.congr rfl rfl
    · exact hafter.congr rfl rfl

theorem agree_notify (h : Agree inside other f) :
    f.notify inside = f.notify other ∧ Agree inside other (f.notify other) := by
  unfold notify
  split
  · split
    · exact ⟨rfl, h.congr rfl rfl⟩
    · rename_i request _
      obtain ⟨hfetching, hkept, -⟩ := armed_leaves request f
      exact agree_requestPoll (h.congr hfetching hkept)
  · exact ⟨rfl, h.congr rfl rfl⟩

theorem agree_publish (h : Agree inside other f) : f.publish inside = f.publish other := by
  have hcalls : ∀ (handlers : List Subscriber) (g : Feed), Agree inside other g →
      handlers.foldl (call inside) g = handlers.foldl (call other) g := by
    intro handlers
    induction handlers with
    | nil =>
      intro g _
      rw [List.foldl_nil, List.foldl_nil]
    | cons handler rest ih =>
      intro g hg
      obtain ⟨hsame, hafter⟩ := agree_notify hg
      cases handler
      rw [List.foldl_cons, List.foldl_cons]
      show rest.foldl (call inside) (g.notify inside) = rest.foldl (call other) (g.notify other)
      rw [hsame]
      exact ih _ hafter
  unfold publish
  dsimp only
  split
  · rw [hcalls _ (f.note _) (h.congr rfl rfl)]
  · rw [hcalls _ f h]

/-! ## Commands -/

theorem agree_publishWith (recipients : List Recipient) (names : List String)
    (h : Agree inside other f) :
    f.publishWith inside recipients names = f.publishWith other recipients names := by
  unfold publishWith
  rw [agree_publish h]

theorem agree_notifyWith (names : List String) (h : Agree inside other f) :
    f.notifyWith inside names = f.notifyWith other names := by
  unfold notifyWith
  rw [(agree_notify h).1]

theorem agree_respond (method reference : String) (h : Agree inside other f) :
    Surface.respond inside method reference f = Surface.respond other method reference f := by
  have hanswer (route : Route) (t : Target) :
      Surface.answer inside method route t f = Surface.answer other method route t f := by
    unfold Surface.answer
    split
    · rfl
    · cases route with
      | cycleFinished => simp only [Surface.serve, agree_publish h]
      | _ => rfl
  unfold Surface.respond
  simp only [hanswer]

/-- **Ways of running kept commands that cannot be told apart come to the same in a command.** -/
theorem agree_obey (command : Command) (h : Agree inside other f) :
    obey inside command f = obey other command f := by
  cases command with
  | publish | announce => simp only [obey, agree_publishWith _ _ h]
  | notify => simp only [obey, agree_notifyWith _ h]
  | poll => simp only [obey, agree_pollInto _ h]
  | pollOnce => simp only [obey, agree_pollOnce h]
  | request => simp only [obey, agree_respond _ _ h]
  | duringFetch commands => cases commands <;> rfl
  | _ => rfl

end Agree

/-- While a fetch is running, no bound matters. -/
theorem performAt_of_fetching (bound : Nat) (command : Command) {f : Feed}
    (busy : f.coordinator.fetching = true) : performAt bound command f = perform command f := by
  unfold perform
  cases bound <;> cases f.keptDepth <;> exact agree_obey command (.inl busy)

theorem obeyAll_of_fetching (bound : Nat) (commands : List Command) (f : Feed)
    (busy : f.coordinator.fetching = true) :
    obeyAll (performAt bound) commands f = obeyAll perform commands f := by
  induction commands generalizing f with
  | nil => rfl
  | cons c cs ih =>
    have hstill : (perform c f).2.coordinator.fetching = true :=
      (runs_performAt f.keptDepth c f).fetching.trans busy
    simp only [obeyAll, performAt_of_fetching bound c busy, ih _ hstill]

/-- **A command runs the kept commands just as commands are run**, whatever is nested in them. -/
theorem perform_eq (command : Command) (f : Feed) :
    perform command f = obey (obeyAll perform) command f := by
  unfold perform
  cases hdepth : f.keptDepth with
  | zero =>
    refine agree_obey command (.inr (.inl ?_))
    unfold keptDepth at hdepth
    split at hdepth
    · cases hdepth
    · assumption
  | succ bound => exact agree_obey command (.inr (.inr (obeyAll_of_fetching bound)))

end Feed

end MeterFeed
