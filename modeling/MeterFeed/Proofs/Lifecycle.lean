import MeterFeed.Proofs.Changes

/-!
# The lifecycle of a coordinator

A run follows the lifecycle except for two changes of phase (`Stray`): a start in the middle of a
session request that was made while the coordinator was not started, and the emission after such a
start. That these are all rests on what the phase says in the middle of a fetch (`Engaged`): the
coordinator keeps fetching for a request that was made while it was started, until the next stop.

`lifecycle_iff` says so of every change of phase of a run, and for what the phases of arming and of
emitting are entered.
-/

namespace MeterFeed

/-! ## What a request was asked for in the middle of -/

def Entry.asksOrStops : Entry → Bool
  | .requested _ | .closed => true
  | _ => false

theorem Entry.isTurn_of_asksOrStops (e : Entry) (h : e.asksOrStops = true) : e.isTurn = true := by
  cases e <;> first | rfl | cases h

/-- The session was asked last while the coordinator was started, or while it was not, and no stop
came since. -/
def AskedWhile (started : Bool) (journal : List Entry) : Prop :=
  Latest Entry.asksOrStops (fun σ e => e.requested?.isSome = true ∧ σ.started = started) journal

namespace AskedWhile

variable {started : Bool} {journal es earlier during : List Entry} {url : String} {s t : FeedState}

theorem of_not_closed (hduring : ∀ e ∈ during, e.requested? = none) (h : Entry.closed ∉ during) :
    AskedWhile (Standing.after earlier).started (earlier ++ .requested url :: during) := by
  refine ⟨earlier, _, during, rfl, rfl, ⟨rfl, rfl⟩, fun e he => ?_⟩
  cases e with
  | requested url =>
    have hnone := hduring _ he
    cases hnone
  | closed => exact absurd he h
  | _ => rfl

theorem not_of_closed (hes : ∀ e ∈ es, e.requested? = none) (h : Entry.closed ∈ es) :
    ¬ AskedWhile started (journal ++ es) := by
  have hclosed : Latest Entry.asksOrStops (fun _ e => e = .closed) (journal ++ es) := by
    induction es using List.reverseRecOn with
    | nil => cases h
    | append_singleton es e ih =>
      have hrest : ∀ x ∈ es, x.requested? = none := fun x hx => hes x (List.mem_append_left _ hx)
      rw [← List.append_assoc]
      cases e with
      | closed => exact (Latest.concat_of_kind rfl).mpr rfl
      | requested url =>
        have hnone := hes (.requested url) (by simp)
        cases hnone
      | _ => exact (Latest.concat_of_other rfl).mpr (ih hrest (by simpa using h))
  intro hasked
  obtain ⟨_, _, _, -, -, ⟨⟨hrequested, -⟩, rfl⟩, -⟩ := Latest.and hasked hclosed
  cases hrequested

theorem started_of (h : AskedWhile true journal) : (Standing.after journal).started = true := by
  obtain ⟨before, e, since, rfl, -, ⟨hrequested, hstarted⟩, hsince⟩ := h
  obtain ⟨url, hurl⟩ := Option.isSome_iff_exists.mp hrequested
  obtain rfl := Entry.eq_requested hurl
  rw [Standing.after_append, List.foldl_cons]
  refine Standing.started_foldl_of_not_closed hstarted fun hclosed => ?_
  have hkind := hsince _ hclosed
  cases hkind

theorem adds_iff (h : Adds es s t) (hes : ∀ x ∈ es, x.asksOrStops = false) :
    AskedWhile started t.journal ↔ AskedWhile started s.journal :=
  Latest.adds_other Entry.isTurn_of_asksOrStops h hes

end AskedWhile

/-- What the phase says in the middle of a fetch: until the next stop a request that was made while
the coordinator was started keeps it fetching, and any other one keeps it from being idle. -/
def Engaged (s : FeedState) : Prop :=
  s.coordinator.fetching = true →
    (AskedWhile true s.journal → s.coordinator.phase = .fetching) ∧
    (AskedWhile false s.journal →
      s.coordinator.phase = .fetching ∨ s.coordinator.phase = .waitingForEvent)

namespace Engaged

variable {s t : FeedState}

theorem congr {es : List Entry} (h : Engaged s) (coordinator : t.coordinator = s.coordinator)
    (adds : Adds es s t) (hes : ∀ x ∈ es, x.asksOrStops = false) : Engaged t := by
  unfold Engaged
  rw [coordinator, AskedWhile.adds_iff adds hes, AskedWhile.adds_iff adds hes]
  exact h

/-- **Every turn keeps the phase engaged.** -/
theorem keeps (turn : Turn s t) (horderly : Orderly s) (h : Engaged s) : Engaged t := by
  cases turn with
  | still _ coordinator _ adds => exact h.congr coordinator adds (List.forall_mem_nil _)
  | skipped _ _ coordinator _ adds =>
    exact h.congr coordinator adds (List.forall_mem_singleton.mpr rfl)
  | opened _ idle _ coordinator _ adds =>
    have hother : AskedWhile true t.journal ↔ AskedWhile true s.journal :=
      AskedWhile.adds_iff adds (List.forall_mem_singleton.mpr rfl)
    rw [Engaged, coordinator]
    refine fun _ => ⟨fun hasked => ?_, fun _ => .inr rfl⟩
    have hstarted := (hother.mp hasked).started_of
    rw [horderly.standing] at hstarted
    exact absurd idle (by rw [show s.coordinator.started = true from hstarted]; decide)
  | closed _ coordinator _ adds =>
    have hclosed : ∀ started, ¬ AskedWhile started t.journal := by
      intro started hasked
      have hadds : Adds ([] ++ [.closed]) s t := adds
      unfold AskedWhile at hasked
      rw [Latest.adds_kind Entry.isTurn_of_asksOrStops hadds rfl] at hasked
      exact Bool.false_ne_true hasked.1
    exact fun _ => ⟨fun hasked => absurd hasked (hclosed _), fun hasked => absurd hasked (hclosed _)⟩
  | armed _ _ _ _ _ _ _ _ _ coordinator | asked _ _ _ _ coordinator =>
    rw [Engaged, coordinator]
    exact fun _ => ⟨fun _ => rfl, fun _ => .inl rfl⟩
  | idled free _ coordinator =>
    rw [Engaged, coordinator]
    intro busy
    exact absurd free (by rw [show s.coordinator.fetching = true from busy]; decide)
  | concluded _ _ coordinator =>
    rw [Engaged, coordinator]
    exact fun busy => absurd busy Bool.false_ne_true

end Engaged

theorem Reachable.engaged {s : FeedState} (h : Reachable s) : Engaged s := by
  refine (h.keeps (P := fun s => Orderly s ∧ Engaged s) ?_ ?_).2
  · intro source clock session trigger ackTimeout host
    exact ⟨⟨rfl, trivial⟩, fun busy => absurd busy Bool.false_ne_true⟩
  · intro s t act ⟨horderly, hengaged⟩
    exact ⟨horderly.keeps act.turn, hengaged.keeps act.turn horderly⟩

/-! ## In and out of the lifecycle -/

def Entry.asksOrAnswers : Entry → Bool
  | .requested _ | .answered => true
  | _ => false

theorem Entry.requested?_of_not_asks {e : Entry} (h : e.asksOrAnswers = false) :
    e.requested? = none := by
  cases e <;> first | rfl | cases h

theorem Entry.isTurn_of_asksOrAnswers (e : Entry) (h : e.asksOrAnswers = true) :
    e.isTurn = true := by
  cases e <;> first | rfl | cases h

namespace Standing

variable {σ : Standing} {journal es : List Entry}

theorem asking_next {e : Entry} (h : e.asksOrAnswers = false) : (σ.next e).asking = σ.asking := by
  cases e <;> first | rfl | cases h

theorem asking_foldl (h : ∀ e ∈ es, e.asksOrAnswers = false) :
    (es.foldl next σ).asking = σ.asking := by
  induction es generalizing σ with
  | nil => rfl
  | cons e es ih =>
    rw [List.foldl_cons, ih fun x hx => h x (List.mem_cons_of_mem e hx),
      asking_next (h e List.mem_cons_self)]

/-- While the session is asked, its request stands in the journal, and no answer after it. -/
theorem exists_requested_of_asking (h : (after journal).asking = true) :
    ∃ earlier url during, journal = earlier ++ .requested url :: during ∧
      ∀ e ∈ during, e.asksOrAnswers = false := by
  induction journal using List.reverseRecOn with
  | nil => cases h
  | append_singleton journal e ih =>
    rw [after_append] at h
    cases hkind : e.asksOrAnswers with
    | true =>
      cases e with
      | requested url => exact ⟨journal, url, [], rfl, List.forall_mem_nil _⟩
      | answered => cases h
      | _ => cases hkind
    | false =>
      obtain ⟨earlier, url, during, rfl, hduring⟩ := ih ((asking_next hkind).symm.trans h)
      exact ⟨earlier, url, during ++ [e], by simp,
        List.forall_mem_append.mpr ⟨hduring, List.forall_mem_singleton.mpr hkind⟩⟩

end Standing

/-- The answer of the session was read, and the coordinator had been stopped while it was asked. -/
def StoppedWhileAsked (journal : List Entry) : Prop :=
  ∃ earlier url during reading,
    journal = earlier ++ .requested url :: (during ++ .answered :: reading) ∧
      (∀ e ∈ during ++ reading, e.requested? = none) ∧ Entry.closed ∈ during

theorem StoppedWhileAsked.not_askedWhile {journal : List Entry} (h : StoppedWhileAsked journal)
    (started : Bool) : ¬ AskedWhile started journal := by
  obtain ⟨earlier, url, during, reading, rfl, hunasked, hclosed⟩ := h
  obtain ⟨hduring, hreading⟩ := List.forall_mem_append.mp hunasked
  have hsplit : earlier ++ .requested url :: (during ++ .answered :: reading) =
      (earlier ++ [.requested url]) ++ (during ++ .answered :: reading) := by simp
  rw [hsplit]
  exact AskedWhile.not_of_closed
    (List.forall_mem_append.mpr ⟨hduring, List.forall_mem_cons.mpr ⟨rfl, hreading⟩⟩)
    (List.mem_append_left _ hclosed)

/-- The changes of phase that the lifecycle has. After a stop in the middle of a session request
the batch is emitted from the phase that the stop has led to. -/
def Lawful (journal : List Entry) (before after : Phase) : Prop :=
  before.mayBecome after = true ∨
    ((before = .idle ∨ before = .waitingForEvent) ∧ after = .emitting ∧ StoppedWhileAsked journal)

/-- The changes of phase outside of the lifecycle. -/
inductive Stray (journal : List Entry) : Phase → Phase → Prop where
  /-- The coordinator is started in the middle of a session request that was made while it was not
  started. -/
  | restarted (overdue : Overdue journal) : Stray journal .fetching .windowArmed
  /-- The answer to such a request is emitted after such a start. -/
  | emitted (asked : AskedWhile false journal) : Stray journal .waitingForEvent .emitting

def ByStart (s₀ s₁ : FeedState) (journal : List Entry) (before : Phase) : Prop :=
  ∃ (f g : Feed) (table : Fields Metric) (registered : List Entry),
    Path s₀ f.toFeedState ∧ f.start = (.ok table, g) ∧ Path g.toFeedState s₁ ∧
      journal = f.journal ++ registered ∧
      g.journal = journal ++ [.moved before .windowArmed, .moved .windowArmed .waitingForEvent,
        .opened table.length f.clock]

/-- A batch is emitted for one session request, which is answered with an array: from the request on
the session is not asked again, and nothing else is emitted. -/
structure EmittedFor (s₀ s₁ : FeedState) (journal : List Entry) (f : Feed) (url : String)
    (earlier during reading : List Entry) : Prop where
  reached : Path s₀ f.toFeedState
  asked : f.journal = earlier ++ .requested url :: during
  once : ∀ e ∈ during, e.requested? = none ∧ ∀ before, e ≠ .moved before .emitting
  array : f.session.IsArray
  read : journal = f.journal ++ .answered :: reading
  reports : ∀ e ∈ reading, e.isReport = true
  leads : ∃ request time, Path (f.conclude request time).2.settle.toFeedState s₁

section Run
variable {s₀ s₁ : FeedState} {journal : List Entry} {before after : Phase}

theorem lawful_windowArmed_iff {c : Coordinator} {registered : List Entry}
    (hfits : before.Fits c journal) (idle : c.started = false)
    (reports : ∀ e ∈ registered, e.isReport = true) :
    Lawful (journal ++ registered) before .windowArmed ↔
      ¬ Stray (journal ++ registered) before .windowArmed := by
  cases before with
  | idle => exact iff_of_true (.inl rfl) fun hstray => by cases hstray
  | fetching =>
    rcases hfits with ⟨hstarted, -⟩ | ⟨-, hoverdue, -⟩
    · exact absurd idle (by rw [hstarted]; decide)
    · have hstill : Overdue (journal ++ registered) :=
        (Latest.append_of_other fun e he =>
          Entry.not_of_isReport Entry.isTurn_of_isBoundary (reports e he)).mpr hoverdue
      refine iff_of_false ?_ (not_not_intro (.restarted hstill))
      rintro (hmay | ⟨-, hafter, -⟩)
      · cases hmay
      · cases hafter
  | waitingForEvent => exact absurd idle (by rw [hfits.1]; decide)
  | windowArmed | emitting => exact hfits.elim

theorem lawful_emitting_fetching (journal : List Entry) :
    Lawful journal .fetching .emitting ↔ ¬ Stray journal .fetching .emitting :=
  iff_of_true (.inl rfl) fun hstray => by cases hstray

/-- After a stop in the middle of a session request the lifecycle has the answer, whatever the phase
is then. -/
theorem lawful_emitting_of_stopped {c : Coordinator} {noted : List Entry}
    (hfits : before.Fits c noted) (hstopped : StoppedWhileAsked journal) :
    Lawful journal before .emitting ↔ ¬ Stray journal before .emitting := by
  cases before with
  | idle => exact iff_of_true (.inr ⟨.inl rfl, rfl, hstopped⟩) fun hstray => by cases hstray
  | waitingForEvent =>
    refine iff_of_true (.inr ⟨.inr rfl, rfl, hstopped⟩) fun hstray => ?_
    cases hstray with
    | emitted asked => exact hstopped.not_askedWhile false asked
  | fetching => exact lawful_emitting_fetching journal
  | windowArmed | emitting => exact hfits.elim

theorem lawful_emitting_of_asked (hasked : AskedWhile false journal) :
    Lawful journal .waitingForEvent .emitting ↔ ¬ Stray journal .waitingForEvent .emitting := by
  refine iff_of_false ?_ (not_not_intro (.emitted hasked))
  rintro (hmay | ⟨-, -, hstopped⟩)
  · cases hmay
  · exact hstopped.not_askedWhile false hasked

/-- The answer to a session request is emitted in the lifecycle unless the request was made while
the coordinator was not started, and the coordinator was started and not stopped since. -/
theorem lawful_emitting_iff {f : Feed} (h : Reachable f.toFeedState)
    (busy : f.coordinator.fetching = true) {reading : List Entry}
    (reports : ∀ e ∈ reading, e.isReport = true) :
    Lawful (f.journal ++ .answered :: reading) f.coordinator.phase .emitting ↔
      ¬ Stray (f.journal ++ .answered :: reading) f.coordinator.phase .emitting := by
  have hasking : (Standing.after f.journal).asking = true := by
    rw [h.orderly.standing]
    exact busy
  obtain ⟨earlier, url, during, hjournal, hduring⟩ := Standing.exists_requested_of_asking hasking
  have hunasked : ∀ e ∈ during, e.requested? = none :=
    fun e he => Entry.requested?_of_not_asks (hduring e he)
  have hreading : ∀ e ∈ reading, e.requested? = none :=
    fun e he => e.requested?_of_not_turn (Entry.isTurn_of_isReport (reports e he))
  have hsplit : f.journal ++ .answered :: reading =
      earlier ++ .requested url :: (during ++ .answered :: reading) := by
    rw [hjournal, List.append_assoc, List.cons_append]
  by_cases hclosed : Entry.closed ∈ during
  · have hstopped : StoppedWhileAsked (f.journal ++ .answered :: reading) :=
      ⟨earlier, url, during, reading, hsplit, List.forall_mem_append.mpr ⟨hunasked, hreading⟩,
      hclosed⟩
    exact lawful_emitting_of_stopped h.inStep.phase hstopped
  · have hasked : AskedWhile (Standing.after earlier).started
        (earlier ++ .requested url :: during) := .of_not_closed hunasked hclosed
    rw [← hjournal] at hasked
    obtain ⟨hon, hoff⟩ := h.engaged busy
    cases hstarted : (Standing.after earlier).started with
    | true =>
      rw [hstarted] at hasked
      rw [hon hasked]
      exact lawful_emitting_fetching _
    | false =>
      rw [hstarted] at hasked
      rcases hoff hasked with hfetching | hwaiting
      · rw [hfetching]
        exact lawful_emitting_fetching _
      · have hstill : AskedWhile false (f.journal ++ .answered :: reading) := by
          refine (Latest.append_of_other ?_).mpr hasked
          exact List.forall_mem_cons.mpr
            ⟨rfl, fun e he =>
              Entry.not_of_isReport Entry.isTurn_of_asksOrStops (reports e he)⟩
        rw [hwaiting]
        exact lawful_emitting_of_asked hstill

/-- **Every change of phase follows the lifecycle, but for the stray ones.** -/
theorem Change.lawful_iff (h₀ : Reachable s₀) (h : Change s₀ s₁ journal before after) :
    Lawful journal before after ↔ ¬ Stray journal before after := by
  cases h with
  | shown _ may shown =>
    refine iff_of_true (.inl may) fun hstray => ?_
    cases hstray with
    | restarted => exact shown.1 rfl
    | emitted => exact shown.2 rfl
  | started f g table registered reached begun leads reports noted =>
    have idle : f.coordinator.started = false := by
      cases hstarted : f.coordinator.started with
      | false => rfl
      | true =>
        unfold Feed.start at begun
        rw [if_pos hstarted] at begun
        cases begun
    exact lawful_windowArmed_iff (h₀.trans reached).inStep.phase idle reports
  | emitted f request time reading reached busy array reports leads =>
    exact lawful_emitting_iff (h₀.trans reached) busy reports

theorem Change.byStart (h : Change s₀ s₁ journal before .windowArmed) :
    ByStart s₀ s₁ journal before := by
  cases h with
  | shown _ _ shown => exact absurd rfl shown.1
  | started f g table registered reached begun leads _ noted =>
    exact ⟨f, g, table, registered, reached, begun, leads, rfl, noted⟩

theorem Change.not_asking (h : Change s₀ s₁ journal before .emitting) :
    (Standing.after journal).asking = false := by
  cases h with
  | shown _ _ shown => exact absurd rfl shown.2
  | emitted f request time reading _ _ _ reports =>
    rw [Standing.after_append, List.foldl_cons, Standing.asking_foldl fun e he =>
      Entry.not_of_isReport Entry.isTurn_of_asksOrAnswers (reports e he)]
    rfl

/-- **A batch is emitted for one session request.** -/
theorem Changes.emittedFor (h₀ : Reachable s₀) {es later : List Entry} {last : Phase}
    (h : Changes s₀ s₁ [] .idle es last) (hes : es = journal ++ .moved before .emitting :: later) :
    ∃ f url earlier during reading,
      EmittedFor s₀ s₁ journal f url earlier during reading := by
  obtain ⟨-, -, hchange⟩ := h.of_moved hes
  rw [List.nil_append] at hchange
  cases hchange with
  | shown _ _ shown => exact absurd rfl shown.2
  | emitted f request time reading reached busy array reports leads =>
    have hasking : (Standing.after f.journal).asking = true := by
      rw [(h₀.trans reached).orderly.standing]
      exact busy
    obtain ⟨earlier, url, during, hjournal, hduring⟩ := Standing.exists_requested_of_asking hasking
    refine ⟨f, url, earlier, during, reading, reached, hjournal, fun e he => ⟨?_, ?_⟩, array, rfl,
      reports, request, time, leads⟩
    · exact Entry.requested?_of_not_asks (hduring e he)
    · rintro phase rfl
      obtain ⟨mid, since, rfl⟩ := List.append_of_mem he
      have hsplit : es = (earlier ++ .requested url :: mid) ++ .moved phase .emitting ::
          (since ++ .answered :: reading ++ .moved f.coordinator.phase .emitting :: later) := by
        rw [hes, hjournal]
        simp
      have hanswered := (h.of_moved hsplit).2.2.not_asking
      rw [List.nil_append, Standing.after_append, List.foldl_cons, Standing.asking_foldl fun e he =>
        hduring e (List.mem_append_left _ he)] at hanswered
      cases hanswered

end Run

/-- **Changes of phase follow the lifecycle.** The journal of a run notes every change of phase,
those inside session requests included, and each begins where the one before has ended. A change is
one of the lifecycle unless it is stray. Windows are armed by starts that succeed, and by nothing
else; and each time that batches are emitted belongs to one session request, which was answered with
an array. -/
theorem lifecycle_iff (source : Source) (clock : DateTime) (session : SessionAnswer)
    (trigger : Option Trigger) (ackTimeout : Number) (host : Host) (commands : List Command)
    (a : Answer)
    (ha : a ∈ (Feed.initial source clock session trigger ackTimeout host).everyAnswer commands) :
    let start := (Feed.initial source clock session trigger ackTimeout host).toFeedState
    a.phase = Phase.after a.state.journal ∧
    ∀ journal before after later, a.state.journal = journal ++ .moved before after :: later →
      (before = Phase.after journal ∧ before ≠ after) ∧
      (Lawful journal before after ↔ ¬ Stray journal before after) ∧
      (after = .windowArmed → ByStart start a.state journal before) ∧
      (after = .emitting → ∃ f url earlier during reading,
        EmittedFor start a.state journal f url earlier during reading) := by
  intro start
  have hpath : Path start a.state := Feed.path_of_mem_everyAnswer rfl ha
  have h₀ : Reachable start := ⟨_, _, _, _, _, _, .refl⟩
  have hchanges : Changes start a.state [] .idle a.state.journal a.phase := hpath.changes
  refine ⟨hchanges.phase_eq, fun journal before after later hjournal => ?_⟩
  obtain ⟨hbefore, hdiffer, hchange⟩ := hchanges.of_moved hjournal
  refine ⟨⟨hbefore, hdiffer⟩, hchange.lawful_iff h₀, ?_, ?_⟩
  · rintro rfl
    exact hchange.byStart
  · rintro rfl
    exact hchanges.emittedFor h₀ hjournal

def Entry.move? : Entry → Option (Phase × Phase)
  | .moved before after => some (before, after)
  | _ => none

theorem exists_split_of_move {journal : List Entry} {before after : Phase}
    (h : (before, after) ∈ journal.filterMap Entry.move?) :
    ∃ earlier later, journal = earlier ++ .moved before after :: later := by
  obtain ⟨e, he, hmove⟩ := List.mem_filterMap.mp h
  obtain rfl : e = .moved before after := by
    cases e <;> cases hmove
    rfl
  exact List.append_of_mem he

open Feed.Sample in
/-- The coordinator is stopped in the middle of a session request, and the answer to it is emitted
all the same, from the phase that the stop has led to. -/
theorem lifecycle_iff_sample : ∃ a ∈ feed.everyAnswer [.start,
      .respond (answer [measure "power" 131]), .publish [], .duringFetch [.stop], .poll none],
    a.state.journal.filterMap Entry.move? = [(.idle, .windowArmed),
      (.windowArmed, .waitingForEvent), (.waitingForEvent, .fetching), (.fetching, .idle),
      (.idle, .emitting), (.emitting, .idle)] ∧
    (∃ journal later, a.state.journal = journal ++ .moved .idle .windowArmed :: later ∧
      Lawful journal .idle .windowArmed ∧ ByStart feed.toFeedState a.state journal .idle) ∧
    ∃ journal later, a.state.journal = journal ++ .moved .idle .emitting :: later ∧
      Lawful journal .idle .emitting ∧ ∃ f url earlier during reading,
        EmittedFor feed.toFeedState a.state journal f url earlier during reading := by
  obtain ⟨a, ha, hmoves⟩ : ∃ a ∈ feed.everyAnswer [.start,
        .respond (answer [measure "power" 131]), .publish [], .duringFetch [.stop], .poll none],
      a.state.journal.filterMap Entry.move? = [(.idle, .windowArmed),
        (.windowArmed, .waitingForEvent), (.waitingForEvent, .fetching), (.fetching, .idle),
        (.idle, .emitting), (.emitting, .idle)] := by
    decide +kernel
  have hemission : (.idle, .emitting) ∈ a.state.journal.filterMap Entry.move? := by
    rw [hmoves]
    decide
  obtain ⟨armed, later, harmed⟩ := exists_split_of_move (hmoves ▸ List.mem_cons_self)
  obtain ⟨emitted, later', hemitted⟩ := exists_split_of_move hemission
  have hchanges := (lifecycle_iff _ _ _ _ _ _ _ a ha).2
  obtain ⟨-, hlawful, hstart, -⟩ := hchanges _ _ _ _ harmed
  obtain ⟨-, hlawful', -, hanswered⟩ := hchanges _ _ _ _ hemitted
  refine ⟨a, ha, hmoves, ⟨armed, later, harmed, hlawful.mpr ?_, hstart rfl⟩,
    emitted, later', hemitted, hlawful'.mpr ?_, hanswered rfl⟩
  all_goals rintro ⟨⟩

/-- A start in the middle of a request that a stop has left in the slot leads from fetching to the
arming of a window. -/
theorem not_lawful : ¬ ∀ a ∈ Feed.Sample.feed.everyAnswer
      [.start, .publish [], .stop, .duringFetch [.newRegistry, .start], .poll none],
    ∀ journal before after later, a.state.journal = journal ++ .moved before after :: later →
      Lawful journal before after := by
  intro h
  obtain ⟨a, ha, hmove⟩ :
      ∃ a ∈ Feed.Sample.feed.everyAnswer
          [.start, .publish [], .stop, .duringFetch [.newRegistry, .start], .poll none],
        (.fetching, .windowArmed) ∈ a.state.journal.filterMap Entry.move? := by
    decide +kernel
  obtain ⟨journal, later, hjournal⟩ := exists_split_of_move hmove
  rcases h a ha journal _ _ later hjournal with hmay | ⟨-, hafter, -⟩
  · cases hmay
  · cases hafter

end MeterFeed
