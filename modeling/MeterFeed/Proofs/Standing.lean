import Mathlib.Data.List.Induction
import MeterFeed.Proofs.Turn

/-!
# Where the coordinator stands

A journal tells where the coordinator stands after it, and what it can do next.

* `Standing.after journal` : whether the coordinator is started, whether the session is asked, and
  which request waits, read off the journal;
* `Standing.Allows` : the turns that can be taken from a standing;
* `Orderly s` : the journal of `s` tells where its coordinator stands, and each of its turns was
  allowed by what the journal told before. Every reachable state is orderly
  (`Reachable.orderly`), so facts about whole runs are facts about lists of turns;
* `Latest kind P journal` : where the last entry of a kind was noted, `P` held of it and of the
  coordinator.
-/

namespace MeterFeed

/-- Where a coordinator stands. -/
structure Standing where
  started : Bool
  /-- A session request has begun and has not been answered. -/
  asking : Bool
  /-- The request that was armed last, unless one was taken since. -/
  waiting : Option Request
  /-- The request that was taken, until the session is asked for it. -/
  taken : Option Request

namespace Standing

def initial : Standing := ⟨false, false, none, none⟩

def next (σ : Standing) : Entry → Standing
  | .opened .. => { σ with started := true }
  | .closed => { σ with started := false }
  | .armed r _ => { σ with waiting := some r }
  | .took r => { σ with waiting := none, taken := some r }
  | .requested _ => { σ with asking := true, taken := none }
  | .answered => { σ with asking := false }
  | _ => σ

def after (journal : List Entry) : Standing :=
  journal.foldl next initial

/-- The turns that can be taken: a request that was taken is asked for at once; one is taken only if
it waits and the session is not asked for another one. -/
def Allows (σ : Standing) : Entry → Prop
  | .requested url => σ.asking = false ∧ ∃ r, σ.taken = some r ∧ r.url = url
  | .took r => σ.taken = none ∧ σ.asking = false ∧ σ.waiting = some r
  | .opened .. => σ.taken = none ∧ σ.started = false
  | .armed .. => σ.taken = none ∧ σ.started = true
  | .nothingPending => σ.taken = none ∧ σ.asking = false
  | .answered | .inFlight => σ.taken = none ∧ σ.asking = true
  | _ => σ.taken = none

def Valid (σ : Standing) : List Entry → Prop
  | [] => True
  | e :: es => σ.Allows e ∧ (σ.next e).Valid es

theorem next_of_isTurn {e : Entry} (h : e.isTurn = false) (σ : Standing) : σ.next e = σ := by
  cases e <;> first | rfl | cases h

theorem valid_displaced {σ : Standing} (h : σ.taken = none) (requests : List Request) :
    σ.Valid (requests.map .displaced) ∧ (requests.map .displaced).foldl next σ = σ := by
  induction requests with
  | nil => exact ⟨trivial, rfl⟩
  | cons r rs ih => exact ⟨⟨h, ih.1⟩, ih.2⟩

theorem after_append (journal es : List Entry) :
    after (journal ++ es) = es.foldl next (after journal) :=
  List.foldl_append ..

theorem after_turns (journal : List Entry) : after (turns journal) = after journal :=
  foldl_filter_eq (fun σ _ he => next_of_isTurn he σ) journal initial

theorem valid_append {σ : Standing} {es es' : List Entry} :
    σ.Valid (es ++ es') ↔ σ.Valid es ∧ (es.foldl next σ).Valid es' := by
  induction es generalizing σ with
  | nil => simp [Valid]
  | cons e es ih => simp [Valid, ih, and_assoc]

end Standing

/-! ## The journal of a reachable state -/

def Coordinator.standing (c : Coordinator) : Standing :=
  ⟨c.started, c.fetching, c.slot.item, none⟩

/-- The journal tells where the coordinator stands, and its turns were allowed. -/
structure Orderly (s : FeedState) : Prop where
  standing : Standing.after s.journal = s.coordinator.standing
  valid : Standing.initial.Valid (turns s.journal)

theorem Adds.after {s t : FeedState} {es : List Entry} (h : Adds es s t) :
    Standing.after t.journal = es.foldl Standing.next (Standing.after s.journal) := by
  rw [← Standing.after_turns, h.turns, Standing.after_append, Standing.after_turns]

namespace Orderly

/-- Turns that the coordinator's standing allows, and that tell where it stands afterwards. -/
theorem adds {s t : FeedState} {es : List Entry} (h : Orderly s) (hadds : Adds es s t)
    (hvalid : s.coordinator.standing.Valid es)
    (hstanding : es.foldl Standing.next s.coordinator.standing = t.coordinator.standing) :
    Orderly t := by
  refine ⟨?_, ?_⟩
  · rw [hadds.after, h.standing, hstanding]
  · rw [hadds.turns, Standing.valid_append]
    refine ⟨h.valid, ?_⟩
    show (Standing.after (turns s.journal)).Valid es
    rwa [Standing.after_turns, h.standing]

/-- **Every turn is orderly.** -/
theorem keeps {s t : FeedState} (turn : Turn s t) (h : Orderly s) : Orderly t := by
  cases turn with
  | still _ coordinator _ adds =>
    exact h.adds adds trivial (by rw [coordinator]; rfl)
  | skipped busy _ coordinator _ adds =>
    exact h.adds adds ⟨⟨rfl, busy⟩, trivial⟩ (by rw [coordinator]; rfl)
  | opened _ idle _ coordinator _ adds =>
    exact h.adds adds ⟨⟨rfl, idle⟩, trivial⟩ (by rw [coordinator]; rfl)
  | closed _ coordinator _ adds =>
    exact h.adds adds ⟨rfl, trivial⟩ (by rw [coordinator]; rfl)
  | armed _ _ request running _ _ _ _ _ coordinator _ adds =>
    obtain ⟨hvalid, hstays⟩ := Standing.valid_displaced
      (σ := s.coordinator.standing.next (.armed request s.clock)) rfl s.coordinator.slot.waiting
    exact h.adds adds ⟨⟨rfl, running⟩, hvalid⟩ (hstays.trans (by rw [coordinator]; rfl))
  | asked request free waits _ coordinator _ adds =>
    exact h.adds adds ⟨⟨rfl, free, waits⟩, ⟨free, request, rfl, rfl⟩, trivial⟩
      (by rw [coordinator]; rfl)
  | idled free _ coordinator _ adds =>
    exact h.adds adds ⟨⟨rfl, free⟩, trivial⟩ (by rw [coordinator]; rfl)
  | concluded busy _ coordinator _ adds =>
    exact h.adds adds ⟨⟨rfl, busy⟩, trivial⟩ (by rw [coordinator]; rfl)

/-- A journal is cut into turns that were allowed, and turns that were allowed after those. -/
theorem valid_split {s : FeedState} (h : Orderly s) {before after : List Entry}
    (hjournal : s.journal = before ++ after) :
    Standing.initial.Valid (turns before) ∧ (Standing.after before).Valid (turns after) := by
  have hvalid := h.valid
  rw [hjournal, turns_append, Standing.valid_append] at hvalid
  refine ⟨hvalid.1, ?_⟩
  rw [← Standing.after_turns]
  exact hvalid.2

theorem allows {s : FeedState} (h : Orderly s) {before after : List Entry} {e : Entry}
    (hjournal : s.journal = before ++ e :: after) (he : e.isTurn = true) :
    (Standing.after before).Allows e := by
  have hvalid := (h.valid_split hjournal).2
  have hturns : turns (e :: after) = e :: turns after := List.filter_cons_of_pos he
  rw [hturns] at hvalid
  exact hvalid.1

end Orderly

theorem Reachable.orderly {s : FeedState} (h : Reachable s) : Orderly s :=
  h.keeps (fun _ _ _ _ _ _ => ⟨rfl, trivial⟩) fun _ _ act => Orderly.keeps act.turn

/-! ## The latest entry of a kind -/

/-- The last entry of a kind was noted where a property held of it and of the coordinator. -/
def Latest (kind : Entry → Bool) (P : Standing → Entry → Prop) (journal : List Entry) : Prop :=
  ∃ before e since, journal = before ++ e :: since ∧ kind e = true ∧
    P (Standing.after before) e ∧ ∀ x ∈ since, kind x = false

namespace Latest

variable {kind : Entry → Bool} {P : Standing → Entry → Prop} {journal : List Entry} {e : Entry}

theorem not_nil : ¬ Latest kind P [] := by
  rintro ⟨before, e, since, hjournal, -⟩
  exact List.append_ne_nil_of_right_ne_nil before (List.cons_ne_nil e since) hjournal.symm

theorem concat_of_kind (he : kind e = true) :
    Latest kind P (journal ++ [e]) ↔ P (Standing.after journal) e := by
  constructor
  · rintro ⟨before, e', since, hjournal, -, hP, hsince⟩
    rcases List.eq_nil_or_concat since with rfl | ⟨since, x, rfl⟩
    · obtain ⟨rfl, hlast⟩ := List.append_inj' hjournal rfl
      cases hlast
      exact hP
    · have hsplit : journal ++ [e] = (before ++ e' :: since) ++ [x] := by simpa using hjournal
      obtain ⟨-, hlast⟩ := List.append_inj' hsplit rfl
      cases hlast
      have hx := hsince e (by simp)
      rw [he] at hx
      cases hx
  · intro hP
    exact ⟨journal, e, [], rfl, he, hP, fun x hx => by cases hx⟩

theorem concat_of_other (he : kind e = false) :
    Latest kind P (journal ++ [e]) ↔ Latest kind P journal := by
  constructor
  · rintro ⟨before, e', since, hjournal, hkind, hP, hsince⟩
    rcases List.eq_nil_or_concat since with rfl | ⟨since, x, rfl⟩
    · obtain ⟨-, hlast⟩ := List.append_inj' hjournal rfl
      cases hlast
      rw [he] at hkind
      cases hkind
    · have hsplit : journal ++ [e] = (before ++ e' :: since) ++ [x] := by simpa using hjournal
      obtain ⟨rfl, -⟩ := List.append_inj' hsplit rfl
      exact ⟨before, e', since, rfl, hkind, hP, fun y hy => hsince y (by simp [hy])⟩
  · rintro ⟨before, e', since, rfl, hkind, hP, hsince⟩
    refine ⟨before, e', since ++ [e], by simp, hkind, hP, ?_⟩
    intro x hx
    rcases List.mem_append.mp hx with hx | hx
    · exact hsince x hx
    · rw [List.mem_singleton.mp hx, he]

theorem append_of_other {es : List Entry} (hes : ∀ x ∈ es, kind x = false) :
    Latest kind P (journal ++ es) ↔ Latest kind P journal := by
  induction es using List.reverseRecOn with
  | nil => rw [List.append_nil]
  | append_singleton es x ih =>
    rw [← List.append_assoc, concat_of_other (hes x (by simp))]
    exact ih fun y hy => hes y (by simp [hy])

theorem and {Q : Standing → Entry → Prop} (hP : Latest kind P journal)
    (hQ : Latest kind Q journal) : Latest kind (fun σ e => P σ e ∧ Q σ e) journal := by
  induction journal using List.reverseRecOn with
  | nil => exact absurd hP not_nil
  | append_singleton journal e ih =>
    cases hkind : kind e with
    | true =>
      rw [concat_of_kind hkind] at hP hQ ⊢
      exact ⟨hP, hQ⟩
    | false =>
      rw [concat_of_other hkind] at hP hQ ⊢
      exact ih hP hQ

/-- The latest entry of a kind of turns is a matter of the turns. -/
theorem turns_iff (hkind : ∀ e, kind e = true → e.isTurn = true) :
    Latest kind P (turns journal) ↔ Latest kind P journal := by
  induction journal using List.reverseRecOn with
  | nil => exact Iff.rfl
  | append_singleton journal e ih =>
    rw [turns_append]
    cases hturn : e.isTurn with
    | true =>
      have he : turns [e] = [e] := List.filter_cons_of_pos hturn
      rw [he]
      cases hk : kind e with
      | true => rw [concat_of_kind hk, concat_of_kind hk, Standing.after_turns]
      | false => rw [concat_of_other hk, concat_of_other hk, ih]
    | false =>
      have he : turns [e] = [] := List.filter_cons_of_neg (by simp [hturn])
      have hk : kind e = false := by
        refine Bool.eq_false_iff.mpr fun hk => ?_
        rw [hkind e hk] at hturn
        cases hturn
      rw [he, List.append_nil, concat_of_other hk, ih]

section Adds
variable {s t : FeedState} {es : List Entry} (hkind : ∀ e, kind e = true → e.isTurn = true)
include hkind

theorem adds_kind (h : Adds (es ++ [e]) s t) (he : kind e = true) :
    Latest kind P t.journal ↔ P (es.foldl Standing.next (Standing.after s.journal)) e := by
  rw [← turns_iff hkind, h.turns, ← List.append_assoc, concat_of_kind he,
    Standing.after_append, Standing.after_turns]

theorem adds_other (h : Adds es s t) (hes : ∀ x ∈ es, kind x = false) :
    Latest kind P t.journal ↔ Latest kind P s.journal := by
  have hbefore : Latest kind P (turns s.journal) ↔ Latest kind P s.journal := turns_iff hkind
  rw [← turns_iff hkind, h.turns, ← hbefore]
  exact append_of_other hes

end Adds

end Latest

end MeterFeed
