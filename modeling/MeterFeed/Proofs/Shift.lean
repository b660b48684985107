import MeterFeed.Proofs.Ledger
import MeterFeed.Proofs.Standing

/-!
# Shifts

A shift of the coordinator lasts from a start to the stop after it. What the session is asked for
was armed in a shift; but a stop leaves the slot as it is, and so the shift may be over, and another
one may have begun, by the time that a poll takes the request out.

* `Served journal url since` : the request that the session is asked for after a journal was armed
  in a shift, `since` being what was noted after that;
* `InShift journal since` : it is asked for in that shift.

The request that is asked for is the one that was taken last (`Standing.latest_took`), and that is
the one that was armed last (`Standing.latest_armed`). `asked_in_shift_iff` says when a request is
asked for in its shift: if no stop came in between.
-/

namespace MeterFeed

namespace Entry

def isOpening : Entry → Bool
  | .opened .. => true
  | _ => false

def movesRequest : Entry → Bool
  | .armed .. | .took _ => true
  | _ => false

theorem armed?_of_not_moves {e : Entry} (h : e.movesRequest = false) : e.armed? = none := by
  cases e <;> first | rfl | cases h

end Entry

/-- How the session comes to be asked for a URL after a journal: an event armed the request while
the coordinator was started, and `since` no other one was armed and the session was not asked. -/
structure Served (journal : List Entry) (url : String) (since : List Entry) : Prop where
  armed : ∃ earlier r reading, journal = earlier ++ .armed r reading :: since ∧ r.url = url ∧
    (Standing.after earlier).started = true
  newest : ∀ e ∈ since, e.armed? = none
  unasked : ∀ e ∈ since, e.requested? = none

/-- The coordinator is started, and it was not started again `since`. -/
def InShift (journal since : List Entry) : Prop :=
  (Standing.after journal).started = true ∧ ∀ e ∈ since, e.isOpening = false

namespace Standing

variable {σ : Standing} {journal es : List Entry} {r : Request}

/-! ## What becomes of a standing -/

theorem started_foldl (h : ∀ e ∈ es, e.isOpening = false) :
    (es.foldl next σ).started = true ↔ σ.started = true ∧ Entry.closed ∉ es := by
  induction es generalizing σ with
  | nil => simp
  | cons e es ih =>
    have hrest : ∀ x ∈ es, x.isOpening = false := fun x hx => h x (List.mem_cons_of_mem e hx)
    rw [List.foldl_cons, ih hrest]
    cases e with
    | opened =>
      have hopened := h _ List.mem_cons_self
      cases hopened
    | closed => simp [next]
    | _ => simp [next]

theorem started_foldl_of_not_closed (hstarted : σ.started = true) (h : Entry.closed ∉ es) :
    (es.foldl next σ).started = true := by
  induction es generalizing σ with
  | nil => exact hstarted
  | cons e es ih =>
    obtain ⟨he, hes⟩ := not_or.mp (List.mem_cons.not.mp h)
    refine ih ?_ hes
    cases e <;> first | rfl | exact hstarted | exact absurd rfl he

theorem taken_foldl (htaken : σ.taken = none) (h : ∀ e ∈ es, e.movesRequest = false) :
    (es.foldl next σ).taken = none := by
  induction es generalizing σ with
  | nil => exact htaken
  | cons e es ih =>
    refine ih ?_ fun x hx => h x (List.mem_cons_of_mem e hx)
    cases e with
    | took =>
      have htook := h _ List.mem_cons_self
      cases htook
    | _ => first | rfl | exact htaken

theorem taken_of_allows {e : Entry} (h : σ.Allows e) (he : e.requested? = none) :
    σ.taken = none := by
  cases e with
  | requested => cases he
  | opened | armed | took | answered | inFlight | nothingPending => exact h.1
  | _ => exact h

/-! ## Where requests come from -/

/-- The request that waits was armed, and since then none was armed or taken. -/
theorem latest_armed (h : (after journal).waiting = some r) :
    Latest Entry.movesRequest (fun _ e => ∃ reading, e = .armed r reading) journal := by
  induction journal using List.reverseRecOn with
  | nil => cases h
  | append_singleton journal e ih =>
    rw [after_append] at h
    cases e with
    | armed r' reading =>
      cases h
      exact (Latest.concat_of_kind rfl).mpr ⟨reading, rfl⟩
    | took => cases h
    | _ => exact (Latest.concat_of_other rfl).mpr (ih h)

/-- The request that was taken, and has not been asked for, was taken at the latest turn. -/
theorem latest_took (hvalid : initial.Valid (turns journal)) (h : (after journal).taken = some r) :
    Latest Entry.isTurn (fun _ e => e = .took r) journal := by
  rw [← Latest.turns_iff fun _ he => he]
  rw [← after_turns] at h
  rcases List.eq_nil_or_concat (turns journal) with hnil | ⟨es, e, hturns⟩
  · rw [hnil] at h
    cases h
  · rw [List.concat_eq_append] at hturns
    have hturn : e.isTurn = true := by
      have he : e ∈ turns journal := by simp [hturns]
      exact (List.mem_filter.mp he).2
    rw [hturns] at hvalid h ⊢
    have hallows : (after es).Allows e := (valid_append.mp hvalid).2.1
    rw [after_append] at h
    cases e with
    | took r' =>
      cases h
      exact (Latest.concat_of_kind hturn).mpr rfl
    | requested => cases h
    | _ =>
      -- any other turn comes when nothing is taken, and leaves it at that
      have hnone := taken_of_allows hallows rfl
      rw [show (after es).taken = some r from h] at hnone
      cases hnone

end Standing

/-! ## Requests in and out of their shift -/

namespace Orderly

variable {s : FeedState} {before after earlier since : List Entry} {url : String}

theorem unasked (h : Orderly s) (hjournal : s.journal = earlier ++ (since ++ after))
    (htaken : (Standing.after earlier).taken = none)
    (hsince : ∀ e ∈ since, e.movesRequest = false) : ∀ e ∈ since, e.requested? = none := by
  intro e he
  cases e with
  | requested url =>
    obtain ⟨mid, rest, rfl⟩ := List.append_of_mem he
    have hsplit : s.journal = (earlier ++ mid) ++ .requested url :: (rest ++ after) := by
      rw [hjournal]
      simp
    obtain ⟨-, r, hsome, -⟩ := h.allows hsplit rfl
    have hnone : (mid.foldl Standing.next (Standing.after earlier)).taken = none :=
      Standing.taken_foldl htaken fun x hx => hsince x (List.mem_append_left _ hx)
    rw [Standing.after_append, hnone] at hsome
    cases hsome
  | _ => rfl

/-- Whatever the session is asked for was armed in a shift, and not asked for since then. -/
theorem served (h : Orderly s) (hjournal : s.journal = before ++ .requested url :: after) :
    ∃ since, Served before url since := by
  obtain ⟨-, r, htaken, hurl⟩ := h.allows hjournal rfl
  obtain ⟨untilTook, e, idle, rfl, -, rfl, hidle⟩ :=
    Standing.latest_took (h.valid_split hjournal).1 htaken
  rw [List.append_assoc, List.cons_append] at hjournal
  obtain ⟨-, -, hwaiting⟩ := h.allows hjournal rfl
  obtain ⟨earlier, e, meanwhile, rfl, -, ⟨reading, rfl⟩, hmeanwhile⟩ :=
    Standing.latest_armed hwaiting
  have hsplit : s.journal = (earlier ++ [.armed r reading]) ++
      (meanwhile ++ .took r :: (idle ++ .requested url :: after)) := by
    rw [hjournal]
    simp
  rw [List.append_assoc, List.cons_append] at hjournal
  obtain ⟨hnone, hstarted⟩ := h.allows hjournal rfl
  have hunasked : ∀ e ∈ meanwhile, e.requested? = none := by
    refine h.unasked hsplit ?_ hmeanwhile
    rw [Standing.after_append]
    exact hnone
  refine ⟨meanwhile ++ .took r :: idle, ⟨earlier, r, reading, by simp, hurl, hstarted⟩, ?_, ?_⟩
  · intro e he
    rcases List.mem_append.mp he with he | he
    · exact Entry.armed?_of_not_moves (hmeanwhile e he)
    · rcases List.mem_cons.mp he with rfl | he
      · rfl
      · exact e.armed?_of_not_turn (hidle e he)
  · intro e he
    rcases List.mem_append.mp he with he | he
    · exact hunasked e he
    · rcases List.mem_cons.mp he with rfl | he
      · rfl
      · exact e.requested?_of_not_turn (hidle e he)

theorem inShift_iff (h : Orderly s) (hjournal : s.journal = before ++ after)
    (hserved : Served before url since) : InShift before since ↔ Entry.closed ∉ since := by
  obtain ⟨earlier, r, reading, rfl, -, hstarted⟩ := hserved.armed
  have hafter : Standing.after (earlier ++ .armed r reading :: since) =
      since.foldl Standing.next ((Standing.after earlier).next (.armed r reading)) := by
    rw [Standing.after_append, List.foldl_cons]
  unfold InShift
  rw [hafter]
  constructor
  · rintro ⟨hnow, hopening⟩
    exact ((Standing.started_foldl hopening).mp hnow).2
  · intro hclosed
    refine ⟨Standing.started_foldl_of_not_closed hstarted hclosed, ?_⟩
    intro e he
    cases e with
    | opened count start =>
      -- a coordinator that is started is not started again
      obtain ⟨mid, rest, rfl⟩ := List.append_of_mem he
      have hsplit : s.journal = (earlier ++ .armed r reading :: mid) ++
          .opened count start :: (rest ++ after) := by
        rw [hjournal]
        simp
      obtain ⟨-, hstopped⟩ := h.allows hsplit rfl
      have hstill : (mid.foldl Standing.next
          ((Standing.after earlier).next (.armed r reading))).started = true :=
        Standing.started_foldl_of_not_closed hstarted fun hmid =>
          hclosed (List.mem_append_left _ hmid)
      rw [Standing.after_append, List.foldl_cons, hstill] at hstopped
      cases hstopped
    | _ => rfl

end Orderly

/-- **Requests are asked for in their shift unless the coordinator is stopped.** Whenever a run
asks the session for a URL, on whatever level, an event of some shift armed that request, as the
last one and never asked for before. The coordinator is still in that shift if and only if it was
not stopped in between. -/
theorem asked_in_shift_iff (source : Source) (clock : DateTime) (session : SessionAnswer)
    (trigger : Option Trigger) (ackTimeout : Number) (host : Host) (commands : List Command)
    (a : Answer)
    (ha : a ∈ (Feed.initial source clock session trigger ackTimeout host).everyAnswer commands)
    (before after : List Entry) (url : String)
    (hjournal : a.state.journal = before ++ .requested url :: after) :
    ∃ since, Served before url since ∧ (InShift before since ↔ Entry.closed ∉ since) := by
  have horderly := (Feed.reachable_of_mem_everyAnswer ha).orderly
  obtain ⟨since, hserved⟩ := horderly.served hjournal
  exact ⟨since, hserved, horderly.inShift_iff hjournal hserved⟩

/-- A request that is asked for in its shift. -/
theorem asked_in_shift_iff_sample :
    ∃ a ∈ Feed.Sample.feed.everyAnswer Feed.Sample.commands, ∃ before after url since,
      a.state.journal = before ++ .requested url :: after ∧ Served before url since ∧
        (InShift before since ↔ Entry.closed ∉ since) := by
  obtain ⟨a, ha, hasked⟩ : ∃ a ∈ Feed.Sample.feed.everyAnswer Feed.Sample.commands,
      a.state.journal.filterMap Entry.requested? ≠ [] := by
    decide +kernel
  obtain ⟨url, hurl⟩ := List.exists_mem_of_ne_nil _ hasked
  obtain ⟨e, he, hrequested⟩ := List.mem_filterMap.mp hurl
  obtain rfl := Entry.eq_requested hrequested
  obtain ⟨before, after, hjournal⟩ := List.append_of_mem he
  obtain ⟨since, hsince⟩ := asked_in_shift_iff _ _ _ _ _ _ _ a ha before after url hjournal
  exact ⟨a, ha, before, after, url, since, hjournal, hsince⟩

/-- A poll after a stop asks for the request that the stop left in the slot. -/
theorem not_asked_in_shift :
    ¬ ∀ a ∈ Feed.Sample.feed.everyAnswer [.start, .publish [], .stop, .poll none],
      ∀ before after url, a.state.journal = before ++ .requested url :: after →
        ∃ since, Served before url since ∧ InShift before since := by
  intro h
  obtain ⟨a, ha, n, -, hasked, hstopped⟩ :
      ∃ a ∈ Feed.Sample.feed.everyAnswer [.start, .publish [], .stop, .poll none],
        ∃ n ∈ List.range a.state.journal.length,
          (a.state.journal[n]?.bind Entry.requested?).isSome = true ∧
            (Standing.after (a.state.journal.take n)).started = false := by
    decide +kernel
  obtain ⟨url, hurl⟩ := Option.isSome_iff_exists.mp hasked
  obtain ⟨e, he, hrequested⟩ := Option.bind_eq_some_iff.mp hurl
  obtain ⟨hn, rfl⟩ := List.getElem?_eq_some_iff.mp he
  have hjournal : a.state.journal =
      a.state.journal.take n ++ .requested url :: a.state.journal.drop (n + 1) := by
    rw [← Entry.eq_requested hrequested, ← List.drop_eq_getElem_cons hn, List.take_append_drop]
  obtain ⟨since, -, hstarted, -⟩ := h a ha _ _ url hjournal
  rw [hstopped] at hstarted
  cases hstarted

end MeterFeed
