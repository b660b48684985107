import MeterFeed.Slot.Access

/-!
# What goes into a slot comes out

An item leaves a slot in one of two ways, taken or displaced by the next one. Each access keeps the
balance of what waits, what is offered and what is handed out (`Slot.waiting_access`), and so does
every sequence of accesses (`Slot.waiting_run`), whoever holds the slot meanwhile: a take that is
skipped hands out nothing and leaves everything as it was. `Slot.hands_out_in_order` adds that the
skipped take only postpones: the item is still there for the first take that is not skipped.
-/

namespace MeterFeed

namespace Slot

variable {α : Type}

/-- One access hands out what was waiting or leaves it there, with what is offered behind it. -/
theorem waiting_access (s : Slot α) (a : Access α) :
    s.waiting ++ a.offered?.toList =
      (s.access a).1.handed?.toList ++ (s.access a).2.waiting := by
  cases a with
  | offer item => rfl
  | take =>
    show s.waiting ++ [] = s.take.1.toOption.toList ++ s.take.2.waiting
    rw [List.append_nil, waiting_take]
  | look | hold | release => exact List.append_nil _

/-- **Nothing is lost and nothing comes twice**: what was waiting and what is offered is handed out
in order, up to what waits in the end. -/
theorem waiting_run (s : Slot α) (accesses : List (Access α)) :
    s.waiting ++ accesses.filterMap Access.offered? =
      (s.run accesses).1.filterMap Reply.handed? ++ (s.run accesses).2.waiting := by
  induction accesses generalizing s with
  | nil => exact List.append_nil _
  | cons a rest ih =>
    have hrest := ih (s.access a).2
    show _ = ((s.access a).1 :: ((s.access a).2.run rest).1).filterMap Reply.handed? ++
      ((s.access a).2.run rest).2.waiting
    calc s.waiting ++ (a :: rest).filterMap Access.offered?
        = (s.waiting ++ a.offered?.toList) ++ rest.filterMap Access.offered? := by
          rw [List.filterMap_cons, List.append_assoc]
          cases a.offered? <;> rfl
      _ = (s.access a).1.handed?.toList ++
          ((s.access a).2.waiting ++ rest.filterMap Access.offered?) := by
          rw [waiting_access, List.append_assoc]
      _ = _ := by
          rw [hrest, ← List.append_assoc, List.filterMap_cons]
          cases (s.access a).1.handed? <;> rfl

theorem take_of_held {s : Slot α} (h : s.held = true) : s.take = (.busy, s) :=
  if_pos h

theorem held_of_take {s : Slot α} (h : s.take.1 = .busy) : s.held = true := by
  cases hheld : s.held with
  | true => rfl
  | false =>
    unfold take at h
    rw [if_neg (by simp [hheld])] at h
    cases hitem : s.item with
    | none =>
      rw [hitem] at h
      cases h
    | some x =>
      rw [hitem] at h
      cases h

theorem item_access {s : Slot α} {a : Access α} (hoffer : ∀ item, a ≠ .offer item)
    (hskipped : ∀ t, (s.access a).1 = .taken t → t = .busy) : (s.access a).2.item = s.item := by
  cases a with
  | offer item => exact absurd rfl (hoffer item)
  | take =>
    have hbusy : s.take.1 = .busy := hskipped _ rfl
    show s.take.2.item = s.item
    rw [take_of_held (held_of_take hbusy)]
  | look | hold | release => rfl

theorem item_run {s : Slot α} {accesses : List (Access α)}
    (hoffer : ∀ item, .offer item ∉ accesses)
    (hskipped : ∀ t, .taken t ∈ (s.run accesses).1 → t = .busy) :
    (s.run accesses).2.item = s.item := by
  induction accesses generalizing s with
  | nil => rfl
  | cons a rest ih =>
    have hfirst : (s.access a).2.item = s.item :=
      item_access (fun item heq => hoffer item (heq ▸ List.mem_cons_self)) fun t ht =>
        hskipped t (ht ▸ List.mem_cons_self)
    have hrest : ((s.access a).2.run rest).2.item = (s.access a).2.item :=
      ih (fun item hmem => hoffer item (List.mem_cons_of_mem a hmem)) fun t ht =>
        hskipped t (List.mem_cons_of_mem _ ht)
    exact hrest.trans hfirst

theorem handed?_take {s : Slot α} (h : s.held = false) : (s.access .take).1.handed? = s.item := by
  show s.take.1.toOption = s.item
  unfold take
  rw [if_neg (by simp [h])]
  cases s.item <;> rfl

/-- **A slot hands out what is offered, each item once and in order.** Whatever the parties do, the
items that are displaced or taken, and the one that is left, are the items that were offered. A take
while another party holds the slot hands out nothing, notes that and changes nothing, and the first
take that is not skipped, before another offer, hands out the item that was there. -/
theorem hands_out_in_order (accesses : List (Access α)) :
    ((Slot.empty.run accesses).1.filterMap Reply.handed? ++ (Slot.empty.run accesses).2.waiting =
      accesses.filterMap Access.offered?) ∧
    ∀ s, (Slot.empty.run accesses).2 = s → s.held = true →
      (∃ reply, s.access .take = (reply, s) ∧ reply.handed? = none ∧
        reply.entries.map Entry.line? = [some (.debug, "Slot busy, skipping this take")]) ∧
      ∀ between : List (Access α), (∀ item, .offer item ∉ between) →
        (∀ t, .taken t ∈ (s.run between).1 → t = .busy) → (s.run between).2.held = false →
        ((s.run between).2.access .take).1.handed? = s.item := by
  refine ⟨(waiting_run Slot.empty accesses).symm, fun s _ hheld => ⟨?_, ?_⟩⟩
  · refine ⟨.taken .busy, ?_, rfl, rfl⟩
    show (Reply.taken s.take.1, s.take.2) = _
    rw [take_of_held hheld]
  · intro between hoffer hskipped hfree
    rw [handed?_take hfree, item_run hoffer hskipped]

/-- An item displaces another one, and a skipped take leaves it for the next. -/
theorem hands_out_in_order_contended :
    (empty.run [.offer (some 1), .offer (some 2), .hold]) =
      ([.displaced none, .displaced (some 1), .done], ⟨some 2, true⟩) ∧
    ([.displaced none, .displaced (some 1), .done] : List (Reply Nat)).filterMap Reply.handed? ++
      (Slot.mk (some 2) true).waiting = [1, 2] ∧
    (Slot.mk (some 2) true).run [.take, .release, .look] =
      ([.taken .busy, .done, .pending true], ⟨some 2, false⟩) ∧
    ((Slot.mk (some 2) false).access .take).1.handed? = some 2 := by
  obtain ⟨hconserved, hcontended⟩ :=
    hands_out_in_order [.offer (some 1), .offer (some 2), .hold]
  obtain ⟨-, hkept⟩ := hcontended ⟨some 2, true⟩ rfl rfl
  have hskipped : ∀ t, .taken t ∈ ((Slot.mk (some 2) true).run [.take, .release, .look]).1 →
      t = .busy := by
    intro t ht
    have hmem : Reply.taken t ∈ [.taken .busy, .done, .pending true] := ht
    simpa using hmem
  exact ⟨rfl, hconserved, rfl, hkept [.take, .release, .look] (by simp) hskipped rfl⟩

end Slot

end MeterFeed
