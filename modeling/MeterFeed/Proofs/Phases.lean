import MeterFeed.Proofs.Shift

/-!
# Phase, slot and subscription

The phase of a coordinator is written when it is started and stopped, when a request is armed or
asked for, and at the end of every poll. `Phase.Fits` says what each phase that is ever shown means
for the rest of the coordinator, and every turn leaves a phase that fits (`InStep.keeps`).

A poll that finds a request after a stop brings a coordinator that is not started into the phase of
fetching; `Overdue` says so of a journal. Except for that the phase is idle if and only if the
coordinator is not started (`consistent_iff_not_overdue`).
-/

namespace MeterFeed

/-- True of the entries at which a shift or a session request begins or ends. -/
def Entry.isBoundary : Entry → Bool
  | .opened .. | .closed | .requested _ | .answered => true
  | _ => false

/-- True of the entries of starts and armings, and of those at the end of a poll. -/
def Entry.isStir : Entry → Bool
  | .opened .. | .armed .. | .answered | .nothingPending | .inFlight => true
  | _ => false

/-- The session is being asked since the coordinator was stopped: no answer, no start and no stop
came since. -/
def Overdue (journal : List Entry) : Prop :=
  Latest Entry.isBoundary (fun σ e => e.requested?.isSome = true ∧ σ.started = false) journal

/-- When the coordinator was started last a request waited, and since then no request was armed and
no poll came to its end. -/
def StartedOver (journal : List Entry) : Prop :=
  Latest Entry.isStir (fun σ e => e.isOpening = true ∧ σ.waiting.isSome = true) journal

/-- The subscription goes with the start, and the phases that are only passed through do not
show. -/
structure Steady (s : FeedState) : Prop where
  handlers : s.bus.handlers cycleFinished = if s.coordinator.started then [.coordinator] else []
  passing : s.coordinator.phase ≠ .windowArmed ∧ s.coordinator.phase ≠ .emitting

/-- Besides, the phase is idle just when the coordinator is not started. -/
structure Consistent (s : FeedState) : Prop extends Steady s where
  idle : s.coordinator.phase = .idle ↔ s.coordinator.started = false

/-- No fetch is running, and the phase tells what waits in the slot. -/
structure AtRest (s : FeedState) : Prop extends Consistent s where
  free : s.coordinator.fetching = false
  fetching : s.coordinator.phase = .fetching → s.coordinator.slot.isPending = true
  waiting : s.coordinator.phase = .waitingForEvent → s.coordinator.slot.isPending = true →
    StartedOver s.journal

/-! ## What a phase says -/

/-- What a phase says about the rest of the coordinator and its journal. -/
def Phase.Fits (c : Coordinator) (journal : List Entry) : Phase → Prop
  | .idle => c.started = false ∧ ¬ Overdue journal
  | .waitingForEvent => c.started = true ∧ ¬ Overdue journal ∧
      (c.slot.isPending = true → c.fetching = true ∨ StartedOver journal)
  | .fetching =>
      (c.started = true ∧ ¬ Overdue journal ∧ (c.slot.isPending = true ∨ c.fetching = true)) ∨
      (c.started = false ∧ Overdue journal ∧ c.fetching = true)
  | .windowArmed | .emitting => False

/-- The phase fits, and the subscription goes with the start. -/
structure InStep (s : FeedState) : Prop where
  phase : s.coordinator.phase.Fits s.coordinator s.journal
  handlers : s.bus.handlers cycleFinished = if s.coordinator.started then [.coordinator] else []

namespace Phase.Fits

variable {c : Coordinator} {journal : List Entry} {phase : Phase}

theorem not_overdue (h : phase.Fits c journal) (hstarted : c.started = true) :
    ¬ Overdue journal := by
  cases phase with
  | idle =>
    rw [h.1] at hstarted
    cases hstarted
  | waitingForEvent => exact h.2.1
  | fetching =>
    rcases h with ⟨-, hnot, -⟩ | ⟨hstopped, -⟩
    · exact hnot
    · rw [hstopped] at hstarted
      cases hstarted
  | windowArmed | emitting => exact h.elim

theorem not_overdue_of_free (h : phase.Fits c journal) (hfree : c.fetching = false) :
    ¬ Overdue journal := by
  cases phase with
  | idle => exact h.2
  | waitingForEvent => exact h.2.1
  | fetching =>
    rcases h with ⟨-, hnot, -⟩ | ⟨-, -, hbusy⟩
    · exact hnot
    · rw [hfree] at hbusy
      cases hbusy
  | windowArmed | emitting => exact h.elim

theorem resting (c : Coordinator) (h : ¬ Overdue journal) :
    (Feed.restingPhase c).Fits c journal := by
  unfold Feed.restingPhase
  cases hstarted : c.started with
  | false => exact ⟨hstarted, h⟩
  | true =>
    cases hpending : c.slot.isPending with
    | true => exact .inl ⟨hstarted, h, .inl hpending⟩
    | false => exact ⟨hstarted, h, fun hp => by rw [hpending] at hp; cases hp⟩

end Phase.Fits

/-! ## What a turn leaves -/

theorem Entry.isTurn_of_isBoundary (e : Entry) (h : e.isBoundary = true) : e.isTurn = true := by
  cases e <;> first | rfl | cases h

theorem Entry.isTurn_of_isStir (e : Entry) (h : e.isStir = true) : e.isTurn = true := by
  cases e <;> first | rfl | cases h

section Adds
variable {s t : FeedState} {es : List Entry} {e : Entry}

theorem Adds.overdue_iff (h : Adds es s t) (hes : ∀ x ∈ es, x.isBoundary = false) :
    Overdue t.journal ↔ Overdue s.journal :=
  Latest.adds_other Entry.isTurn_of_isBoundary h hes

/-- At every other boundary but a session request nothing is overdue. -/
theorem Adds.not_overdue (h : Adds [e] s t) (he : e.isBoundary = true)
    (hrequested : e.requested? = none) : ¬ Overdue t.journal := by
  have hadds : Adds ([] ++ [e]) s t := h
  unfold Overdue
  rw [Latest.adds_kind Entry.isTurn_of_isBoundary hadds he, hrequested]
  exact fun hoverdue => Bool.false_ne_true hoverdue.1

theorem Adds.startedOver_iff (h : Adds es s t) (hes : ∀ x ∈ es, x.isStir = false) :
    StartedOver t.journal ↔ StartedOver s.journal :=
  Latest.adds_other Entry.isTurn_of_isStir h hes

/-- Arming a request leaves an overdue one overdue, whatever it displaces. -/
theorem Adds.overdue_of_armed {request : Request} {reading : DateTime} {displaced : List Request}
    (h : Adds (.armed request reading :: displaced.map .displaced) s t) :
    Overdue t.journal ↔ Overdue s.journal := by
  refine h.overdue_iff fun x hx => ?_
  rcases List.mem_cons.mp hx with rfl | hx
  · rfl
  · obtain ⟨r, -, rfl⟩ := List.mem_map.mp hx
    rfl

theorem Adds.overdue_of_asked {request : Request} {url : String} (horderly : Orderly s)
    (h : Adds [.took request, .requested url] s t) :
    Overdue t.journal ↔ s.coordinator.started = false := by
  have hadds : Adds ([.took request] ++ [.requested url]) s t := h
  unfold Overdue
  rw [Latest.adds_kind Entry.isTurn_of_isBoundary hadds rfl, horderly.standing]
  exact ⟨And.right, fun hstopped => ⟨rfl, hstopped⟩⟩

theorem Adds.startedOver_of_opened {count : Nat} {reading : DateTime} (horderly : Orderly s)
    (h : Adds [.opened count reading] s t) (hpending : s.coordinator.slot.isPending = true) :
    StartedOver t.journal := by
  have hadds : Adds ([] ++ [.opened count reading]) s t := h
  unfold StartedOver
  rw [Latest.adds_kind Entry.isTurn_of_isStir hadds rfl, List.foldl_nil, horderly.standing]
  exact ⟨rfl, hpending⟩

end Adds

namespace InStep

variable {s t : FeedState}

theorem congr {es : List Entry} (h : InStep s) (coordinator : t.coordinator = s.coordinator)
    (bus : t.bus = s.bus) (adds : Adds es s t) (hes : ∀ x ∈ es, x.isBoundary = false)
    (hstir : s.coordinator.fetching = true ∨ ∀ x ∈ es, x.isStir = false) : InStep t := by
  have hoverdue := adds.overdue_iff hes
  have hphase := h.phase
  refine ⟨?_, by rw [bus, coordinator]; exact h.handlers⟩
  rw [coordinator]
  cases hnow : s.coordinator.phase with
  | idle =>
    rw [hnow] at hphase
    exact ⟨hphase.1, hoverdue.not.mpr hphase.2⟩
  | waitingForEvent =>
    rw [hnow] at hphase
    refine ⟨hphase.1, hoverdue.not.mpr hphase.2.1, fun hpending => ?_⟩
    rcases hstir with hbusy | hstir
    · exact .inl hbusy
    · exact (hphase.2.2 hpending).imp_right (adds.startedOver_iff hstir).mpr
  | fetching =>
    rw [hnow] at hphase
    exact hphase.imp (fun hon => ⟨hon.1, hoverdue.not.mpr hon.2.1, hon.2.2⟩)
      (fun hoff => ⟨hoff.1, hoverdue.mpr hoff.2.1, hoff.2.2⟩)
  | windowArmed | emitting =>
    rw [hnow] at hphase
    exact hphase.elim

/-- **Every turn leaves a phase that fits, and the subscription with the start.** -/
theorem keeps (turn : Turn s t) (horderly : Orderly s) (h : InStep s) : InStep t := by
  have hhandlers := h.handlers
  cases turn with
  | still _ coordinator bus adds =>
    exact h.congr coordinator bus adds (List.forall_mem_nil _) (.inr (List.forall_mem_nil _))
  | skipped busy _ coordinator bus adds =>
    exact h.congr coordinator bus adds (List.forall_mem_singleton.mpr rfl) (.inl busy)
  | opened table idle _ coordinator bus adds =>
    refine ⟨?_, ?_⟩
    · rw [coordinator]
      exact ⟨rfl, adds.not_overdue rfl rfl, fun hpending =>
        .inr (adds.startedOver_of_opened horderly hpending)⟩
    · rw [idle] at hhandlers
      rw [bus, coordinator, EventBus.handlers_subscribe, hhandlers]
      rfl
  | closed _ coordinator bus adds =>
    refine ⟨?_, ?_⟩
    · rw [coordinator]
      exact ⟨rfl, adds.not_overdue rfl rfl⟩
    · rw [bus, coordinator]
      cases hstarted : s.coordinator.started with
      | true =>
        rw [hstarted] at hhandlers
        rw [if_pos rfl, EventBus.handlers_unsubscribe, hhandlers]
        rfl
      | false =>
        rw [hstarted] at hhandlers
        exact hhandlers
  | armed start finish request running _ _ _ _ _ coordinator bus adds =>
    refine ⟨?_, by rw [bus, coordinator]; exact hhandlers⟩
    have hoverdue : Overdue t.journal ↔ Overdue s.journal := adds.overdue_of_armed
    rw [coordinator]
    exact .inl ⟨running, hoverdue.not.mpr (h.phase.not_overdue running), .inl rfl⟩
  | asked request free waits _ coordinator bus adds =>
    refine ⟨?_, by rw [bus, coordinator]; exact hhandlers⟩
    have hoverdue : Overdue t.journal ↔ s.coordinator.started = false :=
      adds.overdue_of_asked horderly
    rw [coordinator]
    cases hstarted : s.coordinator.started with
    | true =>
      rw [hstarted] at hoverdue
      exact .inl ⟨hstarted, fun ho => Bool.noConfusion (hoverdue.mp ho), .inr rfl⟩
    | false => exact .inr ⟨hstarted, hoverdue.mpr hstarted, rfl⟩
  | idled free _ coordinator bus adds =>
    refine ⟨?_, by rw [bus, coordinator]; exact hhandlers⟩
    have hoverdue := adds.overdue_iff (List.forall_mem_singleton.mpr rfl)
    rw [coordinator]
    exact Phase.Fits.resting _ (hoverdue.not.mpr (h.phase.not_overdue_of_free free))
  | concluded _ _ coordinator bus adds =>
    refine ⟨?_, by rw [bus, coordinator]; exact hhandlers⟩
    rw [coordinator]
    exact Phase.Fits.resting _ (adds.not_overdue rfl rfl)

end InStep

theorem Reachable.inStep {s : FeedState} (h : Reachable s) : InStep s := by
  refine (h.keeps (P := fun s => Orderly s ∧ InStep s) ?_ ?_).2
  · intro source clock session trigger ackTimeout host
    exact ⟨⟨rfl, trivial⟩, ⟨rfl, Latest.not_nil⟩, rfl⟩
  · intro s t act ⟨horderly, hstep⟩
    exact ⟨horderly.keeps act.turn, hstep.keeps act.turn horderly⟩

namespace InStep

variable {s : FeedState}

theorem steady (h : InStep s) : Steady s := by
  have hphase := h.phase
  refine ⟨h.handlers, ?_, ?_⟩ <;> intro hnow <;> rw [hnow] at hphase <;> exact hphase

/-- The phase is idle just when the coordinator is not started, unless a request is overdue. -/
theorem consistent_iff (h : InStep s) : Consistent s ↔ ¬ Overdue s.journal := by
  have hphase := h.phase
  constructor
  · intro hconsistent hoverdue
    cases hstarted : s.coordinator.started with
    | true => exact hphase.not_overdue hstarted hoverdue
    | false =>
      rw [hconsistent.idle.mpr hstarted] at hphase
      exact hphase.2 hoverdue
  · intro hnot
    refine ⟨h.steady, ?_⟩
    cases hnow : s.coordinator.phase with
    | idle =>
      rw [hnow] at hphase
      exact iff_of_true rfl hphase.1
    | waitingForEvent =>
      rw [hnow] at hphase
      exact iff_of_false Phase.noConfusion (by simp [hphase.1])
    | fetching =>
      rw [hnow] at hphase
      rcases hphase with ⟨hstarted, -⟩ | ⟨-, hoverdue, -⟩
      · exact iff_of_false Phase.noConfusion (by simp [hstarted])
      · exact absurd hoverdue hnot
    | windowArmed | emitting =>
      rw [hnow] at hphase
      exact hphase.elim

theorem atRest (h : InStep s) (hfree : s.coordinator.fetching = false) : AtRest s := by
  have hphase := h.phase
  refine ⟨h.consistent_iff.mpr (hphase.not_overdue_of_free hfree), hfree, ?_, ?_⟩
  · intro hnow
    rw [hnow] at hphase
    rcases hphase with ⟨-, -, hpending | hbusy⟩ | ⟨-, -, hbusy⟩
    · exact hpending
    · rw [hfree] at hbusy
      cases hbusy
    · rw [hfree] at hbusy
      cases hbusy
  · intro hnow hpending
    rw [hnow] at hphase
    rcases hphase.2.2 hpending with hbusy | hover
    · rw [hfree] at hbusy
      cases hbusy
    · exact hover

end InStep

/-- **Phase, slot and subscription agree.** After every command of a run, those inside session
requests included, the subscription goes with the start, and the phase is idle just when the
coordinator is not started, unless a poll is asking for a request that a stop left in the slot.
After the commands that are not inside a session request this is so without exception, no fetch is
running, and the phase tells what waits in the slot. -/
theorem consistent_iff_not_overdue (source : Source) (clock : DateTime) (session : SessionAnswer)
    (trigger : Option Trigger) (ackTimeout : Number) (host : Host) (commands : List Command) :
    let f := Feed.initial source clock session trigger ackTimeout host
    (∀ a ∈ f.everyAnswer commands,
      Steady a.state ∧ (Consistent a.state ↔ ¬ Overdue a.state.journal)) ∧
    ∀ a ∈ (f.run commands).1, AtRest a.state := by
  intro f
  refine ⟨fun a ha => ?_, fun a ha => ?_⟩
  · have hstep := (Feed.reachable_of_mem_everyAnswer ha).inStep
    exact ⟨hstep.steady, hstep.consistent_iff⟩
  · obtain ⟨hpath, hfetching⟩ := (Feed.sound_run commands f).2 a ha
    have hreachable : Reachable a.state := ⟨_, _, _, _, _, _, hpath⟩
    exact hreachable.inStep.atRest hfetching

/-- Inside the request of a poll after a stop, the coordinator is fetching and not started. -/
theorem not_consistent :
    ¬ ∀ a ∈ Feed.Sample.feed.everyAnswer
        [.start, .publish [], .stop, .duringFetch [.isStarted], .poll none],
      Consistent a.state := by
  intro h
  obtain ⟨a, ha, hstopped, hphase⟩ : ∃ a ∈ Feed.Sample.feed.everyAnswer
      [.start, .publish [], .stop, .duringFetch [.isStarted], .poll none],
      a.state.coordinator.started = false ∧ a.state.coordinator.phase = .fetching := by
    decide +kernel
  rw [(h a ha).idle.mpr hstopped] at hphase
  cases hphase

end MeterFeed
