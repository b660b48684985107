import MeterFeed.Proofs.Deed

/-!
# The ledger of requests

Every request that an event arms ends up in one of three places: the session was asked for it, a
later one displaced it, or it waits in the slot. `Ledger.ofJournal` reads the places off the
journal; `Ledger.Balanced` says that they are what the session, the warnings and the slot show. An
account that is balanced stays so under every deed (`Ledger.Balanced.keeps`), so it is balanced
after every command of every run, also inside session requests (`request_ledger`).
-/

namespace MeterFeed

namespace Entry

def armed? : Entry → Option Request
  | .armed r _ => some r
  | _ => none

def requested? : Entry → Option String
  | .requested url => some url
  | _ => none

def displaced? : Entry → Option Request
  | .displaced r => some r
  | _ => none

theorem armed?_of_not_turn (e : Entry) (h : e.isTurn = false) : e.armed? = none := by
  cases e <;> first | rfl | cases h

theorem requested?_of_not_turn (e : Entry) (h : e.isTurn = false) : e.requested? = none := by
  cases e <;> first | rfl | cases h

theorem eq_requested {e : Entry} {url : String} (h : e.requested? = some url) :
    e = .requested url := by
  cases e <;> cases h
  rfl

end Entry

/-- Where a request that was armed is. -/
inductive Place where
  | waiting
  | fetched
  | displaced
  deriving DecidableEq, Repr

/-- The armed requests in the order of arming, each with the place where it is. -/
abbrev Ledger := List (Request × Place)

namespace Ledger

def moveWaiting (place : Place) (l : Ledger) : Ledger :=
  l.map fun account => if account.2 = .waiting then (account.1, place) else account

/-- What an entry of the journal does to the ledger: a request that is armed waits, what waits when
the session is asked is fetched, and what waits before the newest one is displaced. -/
def note (l : Ledger) : Entry → Ledger
  | .armed r _ => l ++ [(r, .waiting)]
  | .requested _ => l.moveWaiting .fetched
  | .displaced _ => moveWaiting .displaced l.dropLast ++ l.getLast?.toList
  | _ => l

def ofJournal (journal : List Entry) : Ledger :=
  journal.foldl note []

def requestsAt (place : Place) (l : Ledger) : List Request :=
  (l.filter fun account => account.2 = place).map Prod.fst

/-- The ledger of a journal agrees with what the session was asked for, with the warnings and with
the slot. -/
structure Balanced (journal : List Entry) (slot : Slot Request) : Prop where
  /-- Every armed request has one account. -/
  armed : (ofJournal journal).map Prod.fst = journal.filterMap Entry.armed?
  /-- The session was asked for the fetched ones, once each and in their order. -/
  fetched : ((ofJournal journal).requestsAt .fetched).map Request.url =
    journal.filterMap Entry.requested?
  /-- The displaced ones were warned of, once each. -/
  displaced : (ofJournal journal).requestsAt .displaced = journal.filterMap Entry.displaced?
  /-- What waits is what is in the slot, and it was armed last. -/
  waiting : ∃ settled, ofJournal journal = settled ++ slot.waiting.map (·, .waiting) ∧
    ∀ account ∈ settled, account.2 ≠ .waiting

/-! ## The ledger looks at marks only -/

theorem ofJournal_marks (journal : List Entry) : ofJournal (marks journal) = ofJournal journal :=
  foldl_marks (fun _ e he => by cases e <;> first | rfl | cases he) journal []

theorem balanced_marks {journal : List Entry} {slot : Slot Request} :
    Balanced (marks journal) slot ↔ Balanced journal slot := by
  have harmed : (marks journal).filterMap Entry.armed? = journal.filterMap Entry.armed? :=
    filterMap_marks (fun e he => by cases e <;> first | rfl | cases he) journal
  have hrequested :
      (marks journal).filterMap Entry.requested? = journal.filterMap Entry.requested? :=
    filterMap_marks (fun e he => by cases e <;> first | rfl | cases he) journal
  have hdisplaced :
      (marks journal).filterMap Entry.displaced? = journal.filterMap Entry.displaced? :=
    filterMap_marks (fun e he => by cases e <;> first | rfl | cases he) journal
  constructor
  · rintro ⟨h₁, h₂, h₃, h₄⟩
    rw [ofJournal_marks] at h₁ h₂ h₃ h₄
    exact ⟨h₁.trans harmed, h₂.trans hrequested, h₃.trans hdisplaced, h₄⟩
  · rintro ⟨h₁, h₂, h₃, h₄⟩
    rw [← ofJournal_marks journal] at h₁ h₂ h₃ h₄
    exact ⟨h₁.trans harmed.symm, h₂.trans hrequested.symm, h₃.trans hdisplaced.symm, h₄⟩

/-! ## Reading a ledger with something at its end -/

theorem ofJournal_append (journal es : List Entry) :
    ofJournal (journal ++ es) = es.foldl note (ofJournal journal) :=
  List.foldl_append ..

theorem requestsAt_append (place : Place) (l m : Ledger) :
    requestsAt place (l ++ m) = requestsAt place l ++ requestsAt place m := by
  unfold requestsAt
  rw [List.filter_append, List.map_append]

theorem requestsAt_map (place other : Place) (rs : List Request) :
    requestsAt place (rs.map (·, other)) = if other = place then rs else [] := by
  unfold requestsAt
  split
  · rename_i heq
    have hall : (rs.map (·, other)).filter (fun account => account.2 = place) =
        rs.map (·, other) := by
      apply List.filter_eq_self.mpr
      intro account ha
      obtain ⟨r, -, rfl⟩ := List.mem_map.mp ha
      exact decide_eq_true heq
    rw [hall, List.map_map]
    exact List.map_id rs
  · rename_i hne
    have hnone : (rs.map (·, other)).filter (fun account => account.2 = place) = [] := by
      apply List.filter_eq_nil_iff.mpr
      intro account ha
      obtain ⟨r, -, rfl⟩ := List.mem_map.mp ha
      exact fun heq => hne (of_decide_eq_true heq)
    rw [hnone]
    rfl

theorem requestsAt_singleton (place other : Place) (r : Request) :
    requestsAt place [(r, other)] = if other = place then [r] else [] :=
  requestsAt_map place other [r]

theorem displaced?_map (rs : List Request) :
    (rs.map Entry.displaced).filterMap Entry.displaced? = rs := by
  rw [List.filterMap_map]
  exact List.filterMap_some

theorem filterMap_displaced {α : Type} {pick : Entry → Option α}
    (h : ∀ r, pick (.displaced r) = none) (rs : List Request) :
    (rs.map Entry.displaced).filterMap pick = [] := by
  apply List.filterMap_eq_nil_iff.mpr
  intro e he
  obtain ⟨r, -, rfl⟩ := List.mem_map.mp he
  exact h r

theorem moveWaiting_of_settled (place : Place) {l : Ledger}
    (h : ∀ account ∈ l, account.2 ≠ .waiting) : l.moveWaiting place = l := by
  unfold moveWaiting
  refine (List.map_congr_left fun account ha => ?_).trans (List.map_id l)
  exact if_neg (h account ha)

theorem moveWaiting_append (place : Place) (l m : Ledger) :
    moveWaiting place (l ++ m) = moveWaiting place l ++ moveWaiting place m :=
  List.map_append ..

namespace Balanced

variable {journal : List Entry} {slot slot' : Slot Request}

theorem initial : Balanced [] Slot.empty :=
  ⟨rfl, rfl, rfl, [], rfl, fun _ h => by cases h⟩

theorem append_other (h : Balanced journal slot) {e : Entry} (hnote : ∀ l, note l e = l)
    (harmed : e.armed? = none) (hrequested : e.requested? = none)
    (hdisplaced : e.displaced? = none) : Balanced (journal ++ [e]) slot := by
  have hledger : ofJournal (journal ++ [e]) = ofJournal journal := by
    rw [ofJournal_append]
    exact hnote _
  refine ⟨?_, ?_, ?_, ?_⟩ <;> rw [hledger]
  · simpa [harmed] using h.armed
  · simpa [hrequested] using h.fetched
  · simpa [hdisplaced] using h.displaced
  · exact h.waiting

theorem arm (h : Balanced journal slot) (request : Request) (reading : DateTime)
    (hslot : slot'.item = some request) :
    Balanced (journal ++ .armed request reading :: slot.waiting.map .displaced) slot' := by
  obtain ⟨settled, hledger, hsettled⟩ := h.waiting
  obtain ⟨harmed, hfetched, hdisplaced, -⟩ := h
  have hafter : ofJournal (journal ++ .armed request reading :: slot.waiting.map .displaced) =
      settled ++ slot.waiting.map (·, .displaced) ++ [request].map (·, .waiting) := by
    rw [ofJournal_append, hledger]
    unfold Slot.waiting
    cases slot.item with
    | none => simp [note]
    | some old =>
      show moveWaiting .displaced
          (settled ++ [(old, Place.waiting)] ++ [(request, Place.waiting)]).dropLast ++
        (settled ++ [(old, Place.waiting)] ++ [(request, Place.waiting)]).getLast?.toList = _
      rw [List.dropLast_concat, List.getLast?_concat, moveWaiting_append,
        moveWaiting_of_settled .displaced hsettled]
      rfl
  rw [hledger] at harmed hfetched hdisplaced
  simp only [requestsAt_append, requestsAt_map, reduceCtorEq, if_false, List.append_nil]
    at hfetched hdisplaced
  refine ⟨?_, ?_, ?_, ?_⟩
  · rw [hafter, List.filterMap_append, ← harmed, List.filterMap_cons,
      filterMap_displaced fun _ => rfl]
    simp [Entry.armed?]
  · rw [hafter, List.filterMap_append, ← hfetched, List.filterMap_cons,
      filterMap_displaced fun _ => rfl]
    simp [requestsAt_append, requestsAt_map, requestsAt_singleton, Entry.requested?]
  · rw [hafter, List.filterMap_append, ← hdisplaced, List.filterMap_cons, displaced?_map]
    simp [requestsAt_append, requestsAt_map, requestsAt_singleton, Entry.displaced?]
  · refine ⟨settled ++ slot.waiting.map (·, .displaced), ?_, ?_⟩
    · rw [hafter]
      simp [Slot.waiting, hslot]
    · intro account ha
      rcases List.mem_append.mp ha with ha | ha
      · exact hsettled account ha
      · obtain ⟨r, -, rfl⟩ := List.mem_map.mp ha
        exact Place.noConfusion

theorem ask (h : Balanced journal slot) {request : Request} (hslot : slot.item = some request)
    (hslot' : slot'.item = none) :
    Balanced (journal ++ [.took request, .requested request.url]) slot' := by
  obtain ⟨settled, hledger, hsettled⟩ := h.waiting
  obtain ⟨harmed, hfetched, hdisplaced, -⟩ := h
  have hwaiting : slot.waiting = [request] := by simp [Slot.waiting, hslot]
  rw [hwaiting] at hledger
  have hafter : ofJournal (journal ++ [.took request, .requested request.url]) =
      settled ++ [request].map (·, .fetched) := by
    rw [ofJournal_append, hledger]
    show moveWaiting .fetched (settled ++ _) = _
    rw [moveWaiting_append, moveWaiting_of_settled .fetched hsettled]
    rfl
  rw [hledger] at harmed hfetched hdisplaced
  simp only [requestsAt_append, requestsAt_map, reduceCtorEq, if_false, List.append_nil]
    at hfetched hdisplaced
  refine ⟨?_, ?_, ?_, ?_⟩
  · rw [hafter, List.filterMap_append, ← harmed]
    simp [Entry.armed?]
  · rw [hafter, List.filterMap_append, ← hfetched]
    simp [requestsAt_append, requestsAt_singleton, Entry.requested?, List.filterMap_cons]
  · rw [hafter, List.filterMap_append, ← hdisplaced]
    simp [requestsAt_append, requestsAt_singleton, Entry.displaced?, List.filterMap_cons]
  · refine ⟨settled ++ [request].map (·, .fetched), ?_, ?_⟩
    · rw [hafter]
      simp [Slot.waiting, hslot']
    · intro account ha
      rcases List.mem_append.mp ha with ha | ha
      · exact hsettled account ha
      · rw [List.mem_singleton.mp ha]
        exact Place.noConfusion

/-- **A balanced ledger stays balanced under every deed.** -/
theorem keeps {s t : FeedState} (deed : Deed s t)
    (h : Balanced (marks s.journal) s.coordinator.slot) :
    Balanced (marks t.journal) t.coordinator.slot := by
  cases deed with
  | calm hcalm =>
    rw [hcalm.marks, hcalm.slot]
    exact h
  | opened metrics _ _ _ _ slot marks =>
    rw [marks, slot]
    exact h.append_other (fun _ => rfl) rfl rfl rfl
  | closed _ _ slot marks =>
    rw [marks, slot]
    exact h.append_other (fun _ => rfl) rfl rfl rfl
  | armed start finish request _ _ _ _ _ _ _ _ slot marks =>
    rw [marks]
    exact h.arm request s.clock slot
  | asked request _ _ _ waits slot marks =>
    rw [marks]
    exact h.ask waits slot

end Balanced

end Ledger

/-- **The ledger of requests.** After every command of a run, also of those inside session
requests, each armed request is in one place: the session was asked for it once, one warning says
that it was displaced, or it waits in the slot and is the newest. What the session was asked for are
armed requests, in the order of arming. -/
theorem request_ledger (source : Source) (clock : DateTime) (session : SessionAnswer)
    (trigger : Option Trigger) (ackTimeout : Number) (host : Host) (commands : List Command)
    (a : Answer)
    (ha : a ∈ (Feed.initial source clock session trigger ackTimeout host).everyAnswer commands) :
    Ledger.Balanced a.state.journal a.state.coordinator.slot ∧
      (a.state.journal.filterMap Entry.requested?).Sublist
        ((a.state.journal.filterMap Entry.armed?).map Request.url) := by
  have hpath : Path _ a.state := Feed.path_of_mem_everyAnswer rfl ha
  have hmarks := hpath.keeps
    (P := fun s => Ledger.Balanced (marks s.journal) s.coordinator.slot)
    (fun _ _ act h => h.keeps act.deed) Ledger.Balanced.initial
  have hbalanced := Ledger.balanced_marks.mp hmarks
  refine ⟨hbalanced, ?_⟩
  rw [← hbalanced.fetched, ← hbalanced.armed]
  exact (List.filter_sublist.map Prod.fst).map Request.url

/-- A request in each place, and every account of them agrees. -/
theorem request_ledger_three_places : ∃ a ∈ Feed.Sample.feed.everyAnswer Feed.Sample.commands,
    (Ledger.ofJournal a.state.journal).map Prod.snd = [.displaced, .fetched, .waiting] ∧
      Ledger.Balanced a.state.journal a.state.coordinator.slot := by
  obtain ⟨a, ha, hplaces⟩ : ∃ a ∈ Feed.Sample.feed.everyAnswer Feed.Sample.commands,
      (Ledger.ofJournal a.state.journal).map Prod.snd = [.displaced, .fetched, .waiting] := by
    decide +kernel
  exact ⟨a, ha, hplaces, (request_ledger _ _ _ _ _ _ _ _ ha).1⟩

end MeterFeed
