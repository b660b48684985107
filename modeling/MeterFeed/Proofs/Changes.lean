import MeterFeed.Proofs.Fetching
import MeterFeed.Proofs.Phases

/-!
# Where changes of phase come from

The phase of a coordinator is written in six places: when it is started, stopped, arms a request,
asks for one, emits a batch, and when a poll ends. `Changes` follows the journal from one state to
another and gives, for every change of phase that is noted there, the place that it comes from
(`Change`). `Act.moves` finds the places of every act, and `Path.moves` those of a whole path, so
that what holds of the places holds of every change of phase of a run (`Path.changes`).
-/

namespace MeterFeed

/-! ## Phases and their changes -/

def Entry.isMove : Entry → Bool
  | .moved .. => true
  | _ => false

theorem Entry.isMove_of_isReport {e : Entry} (h : e.isReport = true) : e.isMove = false := by
  cases e <;> first | rfl | cases h

namespace Phase

/-- The changes of phase in the lifecycle of a coordinator. -/
def mayBecome : Phase → Phase → Bool
  | .idle, .windowArmed | .windowArmed, .waitingForEvent => true
  | .idle, .fetching | .waitingForEvent, .fetching => true
  | .fetching, .emitting => true
  | .emitting, .waitingForEvent | .emitting, .fetching | .emitting, .idle => true
  | .fetching, .waitingForEvent | .fetching, .idle | .waitingForEvent, .idle => true
  | _, _ => false

def next (phase : Phase) : Entry → Phase
  | .moved _ phase => phase
  | _ => phase

def after (journal : List Entry) : Phase :=
  journal.foldl next .idle

theorem next_of_not_move {e : Entry} (h : e.isMove = false) (phase : Phase) :
    phase.next e = phase := by
  cases e <;> first | rfl | cases h

theorem resting_ne (c : Coordinator) :
    Feed.restingPhase c ≠ .windowArmed ∧ Feed.restingPhase c ≠ .emitting := by
  unfold Feed.restingPhase
  split
  · decide
  · split <;> decide

theorem emitting_mayBecome_resting (c : Coordinator) :
    Phase.emitting.mayBecome (Feed.restingPhase c) = true := by
  unfold Feed.restingPhase
  split
  · rfl
  · split <;> rfl

theorem Fits.mayBecome {c : Coordinator} {journal : List Entry} {before after : Phase}
    (h : before.Fits c journal) (hafter : after = .idle ∨ after = .fetching)
    (hne : before ≠ after) : before.mayBecome after = true := by
  rcases hafter with rfl | rfl
  all_goals
    cases before with
    | windowArmed | emitting => exact h.elim
    | _ => first | rfl | exact absurd rfl hne

theorem Fits.mayBecome_resting {c : Coordinator} {journal : List Entry} {phase : Phase}
    (h : phase.Fits c journal) (hne : phase ≠ Feed.restingPhase c) :
    phase.mayBecome (Feed.restingPhase c) = true := by
  unfold Feed.restingPhase at hne ⊢
  cases phase with
  | idle =>
    rw [h.1] at hne
    exact absurd rfl hne
  | waitingForEvent =>
    rw [h.1] at hne ⊢
    cases hpending : c.slot.isPending with
    | true => rfl
    | false =>
      rw [hpending] at hne
      exact absurd rfl hne
  | fetching =>
    cases hstarted : c.started with
    | false => rfl
    | true =>
      rw [hstarted] at hne
      cases hpending : c.slot.isPending with
      | true =>
        rw [hpending] at hne
        exact absurd rfl hne
      | false => rfl
  | windowArmed | emitting => exact h.elim

end Phase

/-- The answer of a session whose payload is an array. -/
def SessionAnswer.IsArray (answer : SessionAnswer) : Prop :=
  ∃ status reason body elements, answer = .response status reason body ∧
    ¬ (400 ≤ status ∧ status < 600) ∧ Http.payload body = .ok (.array elements)

/-! ## Where changes of phase come from -/

section Run
variable (s₀ s₁ : FeedState)

/-- How the phase comes to change after a journal, between two states of a run. -/
inductive Change : List Entry → Phase → Phase → Prop where
  /-- A change of the lifecycle into a phase that is shown. -/
  | shown (journal : List Entry) {before after : Phase} (may : before.mayBecome after = true)
    (shown : after ≠ .windowArmed ∧ after ≠ .emitting) : Change journal before after
  /-- A start arms the first window once its metrics are registered. -/
  | started (f g : Feed) (table : Fields Metric) (registered : List Entry)
    (reached : Path s₀ f.toFeedState) (begun : f.start = (.ok table, g))
    (leads : Path g.toFeedState s₁) (reports : ∀ e ∈ registered, e.isReport = true)
    (noted : g.journal = f.journal ++ registered ++
      [.moved f.coordinator.phase .windowArmed, .moved .windowArmed .waitingForEvent,
        .opened table.length f.clock]) :
    Change (f.journal ++ registered) f.coordinator.phase .windowArmed
  /-- A batch is emitted once the answer of the session was read. -/
  | emitted (f : Feed) (request : Request) (time : DateTime) (reading : List Entry)
    (reached : Path s₀ f.toFeedState) (busy : f.coordinator.fetching = true)
    (array : f.session.IsArray) (reports : ∀ e ∈ reading, e.isReport = true)
    (leads : Path (f.conclude request time).2.settle.toFeedState s₁) :
    Change (f.journal ++ .answered :: reading) f.coordinator.phase .emitting

/-- The changes of phase that are noted after a journal, each with where it comes from. -/
inductive Changes : List Entry → Phase → List Entry → Phase → Prop where
  | nil (journal : List Entry) (phase : Phase) : Changes journal phase [] phase
  | other {journal es : List Entry} {phase last : Phase} {e : Entry} (other : e.isMove = false)
    (rest : Changes (journal ++ [e]) phase es last) : Changes journal phase (e :: es) last
  | moved {journal es : List Entry} {before after last : Phase} (differ : before ≠ after)
    (change : Change s₀ s₁ journal before after)
    (rest : Changes (journal ++ [.moved before after]) after es last) :
    Changes journal before (.moved before after :: es) last

/-- The journal grows from one state to another, and notes all changes of phase. -/
def Moves (s t : FeedState) : Prop :=
  ∃ es, t.journal = s.journal ++ es ∧
    Changes s₀ s₁ s.journal s.coordinator.phase es t.coordinator.phase

end Run

section Run
variable {s₀ s₁ s t u : FeedState}

namespace Changes

variable {journal es es' : List Entry} {phase mid last : Phase}

theorem append (h : Changes s₀ s₁ journal phase es mid)
    (h' : Changes s₀ s₁ (journal ++ es) mid es' last) :
    Changes s₀ s₁ journal phase (es ++ es') last := by
  induction h with
  | nil => rwa [List.append_nil] at h'
  | other other _ ih => exact .other other (ih (by simpa using h'))
  | moved differ change _ ih => exact .moved differ change (ih (by simpa using h'))

theorem phase_eq (h : Changes s₀ s₁ journal phase es last) : last = es.foldl Phase.next phase := by
  induction h with
  | nil => rfl
  | other other _ ih => rw [ih, List.foldl_cons, Phase.next_of_not_move other]
  | moved _ _ _ ih => exact ih

/-- Every change that is noted is one, begins where the one before ended, and comes from
somewhere. -/
theorem of_moved {before after : Phase} {earlier later : List Entry}
    (h : Changes s₀ s₁ journal phase es last) (hes : es = earlier ++ .moved before after :: later) :
    before = earlier.foldl Phase.next phase ∧ before ≠ after ∧
      Change s₀ s₁ (journal ++ earlier) before after := by
  induction h generalizing earlier with
  | nil => cases earlier <;> cases hes
  | @other journal _ phase _ e other _ ih =>
    cases earlier with
    | nil =>
      cases hes
      cases other
    | cons x earlier =>
      cases hes
      obtain ⟨hbefore, hdiffer, hchange⟩ := ih rfl
      rw [List.append_assoc] at hchange
      rw [List.foldl_cons, Phase.next_of_not_move other]
      exact ⟨hbefore, hdiffer, hchange⟩
  | @moved journal _ _ _ _ differ change _ ih =>
    cases earlier with
    | nil =>
      cases hes
      rw [List.append_nil]
      exact ⟨rfl, differ, change⟩
    | cons x earlier =>
      cases hes
      obtain ⟨hbefore, hdiffer, hchange⟩ := ih rfl
      rw [List.append_assoc] at hchange
      exact ⟨hbefore, hdiffer, hchange⟩

end Changes

namespace Moves

theorem of_eq (journal : t.journal = s.journal)
    (phase : t.coordinator.phase = s.coordinator.phase) : Moves s₀ s₁ s t :=
  ⟨[], by rw [journal, List.append_nil], by rw [phase]; exact .nil _ _⟩

theorem trans (hst : Moves s₀ s₁ s t) (htu : Moves s₀ s₁ t u) : Moves s₀ s₁ s u := by
  obtain ⟨es, hes, hchanges⟩ := hst
  obtain ⟨es', hes', hchanges'⟩ := htu
  rw [hes] at hchanges'
  exact ⟨es ++ es', by rw [hes', hes, List.append_assoc], hchanges.append hchanges'⟩

theorem notes (es : List Entry) (f : Feed) (h : ∀ e ∈ es, e.isMove = false) :
    Moves s₀ s₁ f.toFeedState (f.notes es).toFeedState := by
  refine ⟨es, rfl, ?_⟩
  show Changes s₀ s₁ f.journal f.coordinator.phase es f.coordinator.phase
  generalize f.journal = journal
  induction es generalizing journal with
  | nil => exact .nil _ _
  | cons e es ih =>
    exact .other (h e List.mem_cons_self) (ih (fun x hx => h x (List.mem_cons_of_mem e hx)) _)

theorem note (e : Entry) (f : Feed) (h : e.isMove = false) :
    Moves s₀ s₁ f.toFeedState (f.note e).toFeedState :=
  notes [e] f (List.forall_mem_singleton.mpr h)

theorem enter (phase : Phase) (f : Feed)
    (h : f.coordinator.phase ≠ phase → Change s₀ s₁ f.journal f.coordinator.phase phase) :
    Moves s₀ s₁ f.toFeedState (f.enter phase).toFeedState := by
  rw [Feed.enter_eq]
  by_cases hsame : f.coordinator.phase = phase
  · rw [if_pos hsame]
    exact of_eq (List.append_nil _) hsame.symm
  · rw [if_neg hsame]
    exact ⟨_, rfl, .moved hsame (h hsame) (.nil _ _)⟩

theorem enter_shown {phase : Phase} {f : Feed} (shown : phase ≠ .windowArmed ∧ phase ≠ .emitting)
    (h : f.coordinator.phase ≠ phase → f.coordinator.phase.mayBecome phase = true) :
    Moves s₀ s₁ f.toFeedState (f.enter phase).toFeedState :=
  enter phase f fun hne => .shown _ (h hne) shown

end Moves

/-! ## Starting and ending a poll -/

namespace Feed

variable {f g : Feed}

theorem moves_takeRequest_none (untaken : f.takeRequest = (none, g)) :
    Moves s₀ s₁ f.toFeedState g.toFeedState := by
  unfold takeRequest at untaken
  split at untaken
  · cases untaken
    exact (Moves.note .slotBusy f rfl).trans (.note .nothingPending _ rfl)
  · cases untaken
    exact .note .nothingPending f rfl
  · cases untaken

theorem moves_settle (f : Feed)
    (h : f.coordinator.phase ≠ restingPhase f.coordinator →
      f.coordinator.phase.mayBecome (restingPhase f.coordinator) = true) :
    Moves s₀ s₁ f.toFeedState f.settle.toFeedState :=
  (Moves.of_eq rfl rfl : Moves s₀ s₁ f.toFeedState (f.setFetching false).toFeedState).trans
    (.enter_shown (Phase.resting_ne f.coordinator) h)

theorem moves_emit (request : Request) (time : DateTime) (records : List Record)
    (h : Change s₀ s₁ f.journal f.coordinator.phase .emitting) :
    Moves s₀ s₁ f.toFeedState (f.emit request time records).2.toFeedState ∧
      (f.emit request time records).2.coordinator.phase = .emitting := by
  have hmapped : Moves s₀ s₁ f.toFeedState _ :=
    (Moves.enter .emitting f fun _ => h).trans (.notes _ _ fun e he =>
      e.isMove_of_isReport (isReport_mapRecords (f.enter .emitting).source time records e he))
  have hphase : (f.enter .emitting).coordinator.phase = .emitting := by rw [coordinator_enter]
  unfold emit
  dsimp only
  split
  · exact ⟨hmapped, hphase⟩
  · exact ⟨hmapped.trans (.note _ _ rfl), hphase⟩

/-- Only an array is emitted. -/
theorem moves_digest (request : Request) (time : DateTime) (payload : Json)
    (h : ∀ elements, payload = .array elements →
      Change s₀ s₁ (f.journal ++ (Batch.parse payload).1) f.coordinator.phase .emitting) :
    Moves s₀ s₁ f.toFeedState (f.digest request time payload).2.toFeedState ∧
      ((f.digest request time payload).2.coordinator.phase = f.coordinator.phase ∨
        (f.digest request time payload).2.coordinator.phase = .emitting) := by
  have hparsed : Moves s₀ s₁ f.toFeedState (f.notes (Batch.parse payload).1).toFeedState :=
    .notes _ f fun e he => e.isMove_of_isReport (isReport_parse payload e he)
  unfold digest
  rcases hparse : Batch.parse payload with ⟨entries, (e | fault) | records⟩
  all_goals rw [hparse] at hparsed
  · exact ⟨hparsed.trans (.note (.discarded e) _ rfl), .inl rfl⟩
  · exact ⟨hparsed, .inl rfl⟩
  · have hchange : Change s₀ s₁ (f.journal ++ entries) f.coordinator.phase .emitting := by
      cases payload with
      | array elements =>
        have harray := h elements rfl
        rwa [hparse] at harray
      | null | bool | number | text | object => cases hparse
    obtain ⟨hmoves, hphase⟩ := moves_emit (f := f.notes entries) request time records hchange
    exact ⟨hparsed.trans hmoves, .inr hphase⟩

theorem isArray_of_conclude {url : String} {answer : SessionAnswer} {entries : List Entry}
    {elements : List Json} (h : Http.conclude url answer = (entries, .ok (.array elements))) :
    answer.IsArray := by
  cases answer with
  | failure message => cases h
  | fault sort message => cases h
  | response status reason body =>
    by_cases hbad : 400 ≤ status ∧ status < 600
    · obtain ⟨cause, hcause⟩ := Http.conclude_of_bad hbad url reason body
      rw [h] at hcause
      cases hcause
    · have hgood := Http.conclude_of_good hbad url reason body
      rw [h] at hgood
      cases hpayload : Http.payload body with
      | error e =>
        rw [hpayload] at hgood
        cases hgood
      | ok payload =>
        rw [hpayload] at hgood
        cases hgood
        exact ⟨status, reason, body, elements, rfl, hbad, hpayload⟩

theorem moves_conclude (request : Request) (time : DateTime) (reached : Path s₀ f.toFeedState)
    (busy : f.coordinator.fetching = true)
    (leads : Path (f.conclude request time).2.settle.toFeedState s₁) :
    Moves s₀ s₁ f.toFeedState (f.conclude request time).2.toFeedState ∧
      ((f.conclude request time).2.coordinator.phase = f.coordinator.phase ∨
        (f.conclude request time).2.coordinator.phase = .emitting) := by
  have hreports := isReport_httpConclude request.url f.session
  have hemitted := fun array reading reports =>
    Change.emitted f request time reading reached busy array reports leads
  unfold conclude
  rcases hanswer : Http.conclude request.url f.session with ⟨entries, (e | fault) | payload⟩
  all_goals
    rw [hanswer] at hreports
    dsimp only at hreports ⊢
    have hread : Moves s₀ s₁ f.toFeedState (f.notes (.answered :: entries)).toFeedState :=
      .notes _ f (List.forall_mem_cons.mpr ⟨rfl, fun e he => e.isMove_of_isReport (hreports e he)⟩)
  · exact ⟨hread.trans (.note (.fetchFailed e) _ rfl), .inl rfl⟩
  · exact ⟨hread, .inl rfl⟩
  · have hemits : ∀ elements, payload = .array elements →
        Change s₀ s₁ ((f.notes (.answered :: entries)).journal ++ (Batch.parse payload).1)
          f.coordinator.phase .emitting := by
      rintro elements rfl
      have hreading : ∀ e ∈ entries ++ (Batch.parse (.array elements)).1, e.isReport = true :=
        List.forall_mem_append.mpr ⟨hreports, isReport_parse _⟩
      simpa [notes] using hemitted (isArray_of_conclude hanswer) _ hreading
    obtain ⟨hdigest, hphase⟩ :=
      moves_digest (f := f.notes (.answered :: entries)) request time payload hemits
    exact ⟨hread.trans hdigest, hphase⟩

/-! ## Starting -/

/-- The journal of a start that succeeds, when the coordinator is not in the phase of arming. -/
theorem journal_opening (table : Fields Metric) (h : f.coordinator.phase ≠ .windowArmed) :
    (f.opening table).journal = f.journal ++ [.moved f.coordinator.phase .windowArmed,
      .moved .windowArmed .waitingForEvent, .opened table.length f.clock] := by
  unfold opening note
  simp [enter_eq, h]

theorem moves_opening {table : Fields Metric} (reached : Path s₀ f.toFeedState)
    (idle : f.coordinator.started = false) (registered : f.registerMetrics = (.ok table, g))
    (passing : f.coordinator.phase ≠ .windowArmed)
    (leads : Path (g.opening table).toFeedState s₁) :
    Moves s₀ s₁ f.toFeedState (g.opening table).toFeedState := by
  have hstart := start_of_registered idle registered
  obtain ⟨registry, metrics, -, rfl⟩ := registerMetrics_ok registered
  have hreports := isReport_registrations metrics
  let named : Feed := { { f with registry }.notes (registrations metrics) with
    source := f.source.withTable table }
  have hnamed : Moves s₀ s₁ f.toFeedState named.toFeedState :=
    .notes (registrations metrics) f fun e he => e.isMove_of_isReport (hreports e he)
  have hjournal := journal_opening (f := named) table passing
  have hphase : (named.opening table).coordinator.phase = .waitingForEvent := by
    obtain ⟨journal, hopening⟩ := opening_eq table named
    rw [hopening]
  refine hnamed.trans ⟨_, hjournal, ?_⟩
  rw [hphase]
  refine .moved passing ?_ (.moved Phase.noConfusion (.shown _ rfl (by decide))
    (.other rfl (.nil _ _)))
  exact .started f _ table _ reached hstart leads hreports hjournal

/-! ## Stopping, arming and asking -/

section Fits
variable {journal : List Entry} (hfits : f.coordinator.phase.Fits f.coordinator journal)
include hfits

theorem moves_stop : Moves s₀ s₁ f.toFeedState f.stop.toFeedState := by
  obtain ⟨hjournal, hphase⟩ : f.unsubscribe.journal = f.journal ∧
      f.unsubscribe.coordinator.phase = f.coordinator.phase := by
    unfold unsubscribe
    split <;> exact ⟨rfl, rfl⟩
  have hleft : Moves s₀ s₁ f.toFeedState f.unsubscribe.toFeedState := .of_eq hjournal hphase
  refine (hleft.trans (.enter_shown (by decide) fun hne => ?_)).trans (.note .closed _ rfl)
  rw [hphase] at hne ⊢
  exact hfits.mayBecome (.inl rfl) hne

theorem moves_armed (request : Request) : Moves s₀ s₁ f.toFeedState
    ((f.arm request).2.noteDisplaced (f.arm request).1).toFeedState := by
  have hdisplaced : ∀ e ∈ (f.arm request).1.toList.map Entry.displaced, e.isMove = false := by
    intro e he
    obtain ⟨r, -, rfl⟩ := List.mem_map.mp he
    rfl
  let offered : Feed := { f with
    coordinator := { f.coordinator with
      nextStart := some request.window.finish
      acknowledged := false
      slot := (f.coordinator.slot.offer request).2 } }
  have hoffered : Moves s₀ s₁ f.toFeedState offered.toFeedState := .of_eq rfl rfl
  have hentered : Moves s₀ s₁ offered.toFeedState (offered.enter .fetching).toFeedState :=
    .enter_shown (by decide) (hfits.mayBecome (.inr rfl))
  have harmed := (hoffered.trans hentered).trans (.note (.armed request f.clock) _ rfl)
  rw [noteDisplaced_eq]
  exact harmed.trans (.notes _ _ hdisplaced)

theorem moves_begun (request : Request) :
    Moves s₀ s₁ f.toFeedState (f.begun request).toFeedState := by
  let taken : Feed := { f with coordinator := { f.coordinator with
    fetching := true
    slot := { f.coordinator.slot with item := none }
    acknowledged := true } }
  have htaken : Moves s₀ s₁ f.toFeedState taken.toFeedState := .of_eq rfl rfl
  have htook := htaken.trans (.note (.took request) taken rfl)
  have hentered := htook.trans (.enter_shown (by decide) (hfits.mayBecome (.inr rfl)))
  exact hentered.trans (.notes [.fetching request.url, .requested request.url] _
    (by simp [Entry.isMove]))

end Fits

end Feed

/-- **Every act notes its changes of phase, and each of them comes from one of the places.** -/
theorem Act.moves (h₀ : Reachable s₀) (reached : Path s₀ s) (act : Act s t) (leads : Path t s₁) :
    Moves s₀ s₁ s t := by
  have hstep := (h₀.trans reached).inStep
  have hfits := hstep.phase
  cases act with
  | around h => exact .of_eq h.journal (by rw [h.coordinator])
  | noted f e h => exact .note e f (e.isMove_of_isReport h)
  | scheduled f call => exact .note _ f rfl
  | opened f g table idle registered =>
    exact Feed.moves_opening reached idle registered hstep.steady.passing.1 leads
  | closed f => exact Feed.moves_stop hfits
  | armed f start request => exact Feed.moves_armed hfits request
  | asked f g request free taken =>
    obtain ⟨-, -, rfl⟩ := Feed.takeRequest_eq_some_iff.mp taken
    exact Feed.moves_begun hfits request
  | idled f g free untaken =>
    obtain ⟨-, hcoordinator, -, -⟩ := Feed.takeRequest_eq_none untaken
    have hbegun : Moves s₀ s₁ f.toFeedState (f.setFetching true).toFeedState := .of_eq rfl rfl
    refine (hbegun.trans (Feed.moves_takeRequest_none untaken)).trans (Feed.moves_settle g ?_)
    rw [hcoordinator]
    exact hfits.mayBecome_resting
  | skipped f busy => exact .note .inFlight f rfl
  | concluded f request time busy =>
    obtain ⟨hmoves, hphase⟩ := Feed.moves_conclude request time reached busy leads
    refine hmoves.trans (Feed.moves_settle _ fun hne => ?_)
    obtain ⟨phase, journal, hconclude⟩ := Feed.reports_conclude request time f
    have hresting : Feed.restingPhase (f.conclude request time).2.coordinator =
        Feed.restingPhase f.coordinator := by
      rw [hconclude]
      rfl
    rw [hresting] at hne ⊢
    rcases hphase with hsame | hemitting
    · rw [hsame] at hne ⊢
      exact hfits.mayBecome_resting hne
    · rw [hemitting]
      exact Phase.emitting_mayBecome_resting f.coordinator

theorem Path.moves (h₀ : Reachable s₀) (hpath : Path s₀ s) (leads : Path s s₁) :
    Moves s₀ s₁ s₀ s := by
  induction hpath with
  | refl => exact .of_eq rfl rfl
  | tail reached act ih => exact (ih (.head act leads)).trans (act.moves h₀ reached leads)

end Run

theorem Path.changes {source : Source} {clock : DateTime} {session : SessionAnswer}
    {trigger : Option Trigger} {ackTimeout : Number} {host : Host} {s : FeedState}
    (h : Path (Feed.initial source clock session trigger ackTimeout host).toFeedState s) :
    Changes (Feed.initial source clock session trigger ackTimeout host).toFeedState s [] .idle
      s.journal s.coordinator.phase := by
  have h₀ : Reachable (Feed.initial source clock session trigger ackTimeout host).toFeedState :=
    ⟨_, _, _, _, _, _, .refl⟩
  obtain ⟨es, hes, hchanges⟩ := h.moves h₀ .refl
  rw [hes]
  exact hchanges

end MeterFeed
