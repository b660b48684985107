import MeterFeed.Batch
import MeterFeed.Proofs.Decoding

/-!
# A batch without the records that are refused

A batch of which no element escapes returns the records of the elements that decode and notes every
other element once, by its index (`Batch.Isolated`). The first element that escapes ends the batch,
whatever the others are. `Batch.parse_array_iff` joins the two.
-/

namespace MeterFeed

namespace Record

def decoded? (x : Json) : Option Record :=
  (decode x).toOption

def refused? (x : Json) : Option DecodeError :=
  match decode x with
  | .error (.error e) => some e
  | _ => none

theorem decoded?_or_refused? {x : Json} (h : ∀ f, ¬ Escapes x f) :
    (∃ r, decode x = .ok r ∧ decoded? x = some r ∧ refused? x = none) ∨
      ∃ e, decode x = .error (.error e) ∧ decoded? x = none ∧ refused? x = some e := by
  unfold decoded? refused?
  rcases hx : decode x with (e | fault) | r
  · exact .inr ⟨e, rfl, rfl, rfl⟩
  · exact absurd (decode_eq_fault_iff.mp hx) (h fault)
  · exact .inl ⟨r, rfl, rfl, rfl⟩

theorem not_escapes_of_decoded? {x : Json} (h : (decoded? x).isSome = true) (f : Fault) :
    ¬ Escapes x f := by
  intro hf
  unfold decoded? at h
  rw [decode_eq_fault_iff.mpr hf] at h
  cases h

end Record

namespace Batch

/-- The elements that are refused, by their index from `index` on. -/
def refusalsFrom (index : Nat) (elements : List Json) : List (Nat × DecodeError) :=
  (elements.zipIdx index).filterMap fun x => (Record.refused? x.1).map (x.2, ·)

def notes (refusals : List (Nat × DecodeError)) : List Entry :=
  refusals.map fun refusal => .skipped refusal.1 refusal.2

variable {x : Json} {elements before after : List Json}

theorem refusalsFrom_cons (index : Nat) : refusalsFrom index (x :: elements) =
    ((Record.refused? x).map (index, ·)).toList ++ refusalsFrom (index + 1) elements := by
  unfold refusalsFrom
  rw [List.zipIdx_cons, List.filterMap_cons]
  cases Record.refused? x <;> rfl

/-! ## Element after element -/

/-- Elements none of which escapes are decoded or refused, each by itself. -/
theorem decodeFrom_contained (index : Nat) (h : ∀ x ∈ elements, ∀ f, ¬ Record.Escapes x f) :
    decodeFrom index elements = ⟨notes (refusalsFrom index elements),
      .ok (elements.filterMap Record.decoded?, (refusalsFrom index elements).length)⟩ := by
  induction elements generalizing index with
  | nil => rfl
  | cons x xs ih =>
    have hrest := ih (index + 1) fun y hy => h y (List.mem_cons_of_mem x hy)
    unfold decodeFrom
    rw [refusalsFrom_cons, List.filterMap_cons, hrest]
    rcases Record.decoded?_or_refused? (h x List.mem_cons_self) with
      ⟨r, hx, hdecoded, hrefused⟩ | ⟨e, hx, hdecoded, hrefused⟩
    · rw [hx, hdecoded, hrefused]
      rfl
    · rw [hx, hdecoded, hrefused]
      rfl

theorem decodeFrom_escaped (index : Nat) {f : Fault}
    (hbefore : ∀ y ∈ before, ∀ f, ¬ Record.Escapes y f) (hx : Record.Escapes x f) :
    decodeFrom index (before ++ x :: after) =
      ⟨notes (refusalsFrom index before), .error f⟩ := by
  induction before generalizing index with
  | nil =>
    rw [List.nil_append]
    unfold decodeFrom
    rw [Record.decode_eq_fault_iff.mpr hx]
    rfl
  | cons y ys ih =>
    have hrest := ih (index + 1) fun z hz => hbefore z (List.mem_cons_of_mem y hz)
    rw [List.cons_append]
    unfold decodeFrom
    rw [refusalsFrom_cons, hrest]
    rcases Record.decoded?_or_refused? (hbefore y List.mem_cons_self) with
      ⟨r, hy, hdecoded, hrefused⟩ | ⟨e, hy, hdecoded, hrefused⟩
    · rw [hy, hrefused]
      rfl
    · rw [hy, hrefused]
      rfl

/-! ## Every element is counted once -/

theorem index_refusalsFrom (index : Nat) (h : ∀ x ∈ elements, ∀ f, ¬ Record.Escapes x f) :
    (refusalsFrom index elements).map Prod.fst =
      ((elements.zipIdx index).filter fun x => (Record.decoded? x.1).isNone).map Prod.snd := by
  induction elements generalizing index with
  | nil => rfl
  | cons x xs ih =>
    have hrest := ih (index + 1) fun y hy => h y (List.mem_cons_of_mem x hy)
    rw [refusalsFrom_cons, List.map_append, hrest, List.zipIdx_cons, List.filter_cons]
    rcases Record.decoded?_or_refused? (h x List.mem_cons_self) with
      ⟨r, -, hdecoded, hrefused⟩ | ⟨e, -, hdecoded, hrefused⟩
    · rw [hdecoded, hrefused]
      rfl
    · rw [hdecoded, hrefused]
      rfl

theorem length_refusalsFrom (index : Nat) (h : ∀ x ∈ elements, ∀ f, ¬ Record.Escapes x f) :
    (elements.filterMap Record.decoded?).length + (refusalsFrom index elements).length =
      elements.length := by
  induction elements generalizing index with
  | nil => rfl
  | cons x xs ih =>
    have hrest := ih (index + 1) fun y hy => h y (List.mem_cons_of_mem x hy)
    rw [refusalsFrom_cons, List.filterMap_cons, List.length_append, List.length_cons]
    rcases Record.decoded?_or_refused? (h x List.mem_cons_self) with
      ⟨r, -, hdecoded, hrefused⟩ | ⟨e, -, hdecoded, hrefused⟩
    · rw [hdecoded, hrefused]
      simp only [Option.map_none, Option.toList_none, List.length_nil, List.length_cons]
      omega
    · rw [hdecoded, hrefused]
      simp only [Option.map_some, Option.toList_some, List.length_singleton]
      omega

theorem refused?_of_mem_refusalsFrom {refusal : Nat × DecodeError}
    (h : refusal ∈ refusalsFrom 0 elements) :
    ∃ x, elements[refusal.1]? = some x ∧ Record.decode x = .error (.error refusal.2) := by
  obtain ⟨⟨x, i⟩, hx, hrefusal⟩ := List.mem_filterMap.mp h
  obtain ⟨e, he, rfl⟩ := Option.map_eq_some_iff.mp hrefusal
  refine ⟨x, List.mem_zipIdx_iff_getElem?.mp hx, ?_⟩
  unfold Record.refused? at he
  rcases hdecode : Record.decode x with (e' | fault) | r
  all_goals
    rw [hdecode] at he
    cases he
  rfl

/-! ## Batches -/

/-- What a batch comes to when each of its elements is left to itself. -/
structure Isolated (elements : List Json)
    (outcome : List Entry × Except (Halt BatchError) (List Record)) : Prop where
  /-- The records are those of the elements that decode, in order. -/
  records : outcome.2 = .ok (elements.filterMap Record.decoded?)
  /-- Every other element is noted once, by its index and with what it was refused for; the counts
  of the summary add up to the number of elements. -/
  noted : ∃ refusals : List (Nat × DecodeError),
    outcome.1 = notes refusals ++
      [.parsed (elements.filterMap Record.decoded?).length refusals.length] ∧
    refusals.map Prod.fst =
      (elements.zipIdx.filter fun x => (Record.decoded? x.1).isNone).map Prod.snd ∧
    (∀ refusal ∈ refusals, ∃ x, elements[refusal.1]? = some x ∧
      Record.decode x = .error (.error refusal.2)) ∧
    (elements.filterMap Record.decoded?).length + refusals.length = elements.length

theorem isolated_parse (h : ∀ x ∈ elements, ∀ f, ¬ Record.Escapes x f) :
    Isolated elements (parse (.array elements)) := by
  have hdecoded := decodeFrom_contained 0 h
  have hparse : parse (.array elements) = (notes (refusalsFrom 0 elements) ++
      [.parsed (elements.filterMap Record.decoded?).length (refusalsFrom 0 elements).length],
      .ok (elements.filterMap Record.decoded?)) := by
    unfold parse
    dsimp only
    rw [hdecoded]
  rw [hparse]
  exact ⟨rfl, _, rfl, index_refusalsFrom 0 h, fun _ => refused?_of_mem_refusalsFrom,
    length_refusalsFrom 0 h⟩

theorem contained_or_escaped (elements : List Json) :
    (∀ x ∈ elements, ∀ f, ¬ Record.Escapes x f) ∨
      ∃ before x after f, elements = before ++ x :: after ∧
        (∀ y ∈ before, ∀ f, ¬ Record.Escapes y f) ∧ Record.Escapes x f := by
  induction elements with
  | nil => exact .inl fun _ hx => (nomatch hx)
  | cons x xs ih =>
    by_cases hx : ∃ f, Record.Escapes x f
    · obtain ⟨f, hx⟩ := hx
      exact .inr ⟨[], x, xs, f, rfl, fun _ hy => (nomatch hy), hx⟩
    · have hcontained := not_exists.mp hx
      rcases ih with hall | ⟨before, y, after, f, rfl, hbefore, hy⟩
      · exact .inl (List.forall_mem_cons.mpr ⟨hcontained, hall⟩)
      · have hpreceding := List.forall_mem_cons.mpr ⟨hcontained, hbefore⟩
        exact .inr ⟨x :: before, y, after, f, rfl, hpreceding, hy⟩

/-- **A batch leaves each of its elements to itself exactly when none of them escapes.** Otherwise
the first one that does ends it: nothing is returned, and only what precedes it is noted. -/
theorem parse_array_iff (elements : List Json) :
    (Isolated elements (parse (.array elements)) ↔ ∀ x ∈ elements, ∀ f, ¬ Record.Escapes x f) ∧
    ∀ before x after f, elements = before ++ x :: after →
      (∀ y ∈ before, ∀ f, ¬ Record.Escapes y f) → Record.Escapes x f →
      parse (.array elements) = (notes (refusalsFrom 0 before), .error (.fault f)) := by
  have hstops : ∀ before x after f, elements = before ++ x :: after →
      (∀ y ∈ before, ∀ f, ¬ Record.Escapes y f) → Record.Escapes x f →
      parse (.array elements) = (notes (refusalsFrom 0 before), .error (.fault f)) := by
    rintro before x after f rfl hbefore hx
    unfold parse
    dsimp only
    rw [decodeFrom_escaped 0 hbefore hx]
  refine ⟨⟨fun hisolated => ?_, isolated_parse⟩, hstops⟩
  rcases contained_or_escaped elements with hall | ⟨before, x, after, f, heq, hbefore, hx⟩
  · exact hall
  · have hrecords := hisolated.records
    rw [hstops before x after f heq hbefore hx] at hrecords
    cases hrecords

/-! ## Two batches to look at -/

namespace Sample

def record (time : String) : Json :=
  .object [("device_id", .text "taurus-7"), ("metric_id", .text "power"),
    ("timestamp", .text time), ("value", .int 131), ("labels", .object [])]

end Sample

open Sample in
/-- Next to a null, a record is kept; after a time in the year 0 it is lost. -/
theorem parse_array_iff_sample :
    Isolated [.null, record "2025-07-21T16:15:31+02:00"]
      (parse (.array [.null, record "2025-07-21T16:15:31+02:00"])) ∧
    parse (.array [.null, record "0000-01-01T00:00:00Z", record "2025-07-21T16:15:31+02:00"]) =
      (notes (refusalsFrom 0 [.null]), .error (.fault .yearZero)) := by
  have hnull : ∀ f, ¬ Record.Escapes .null f := fun f h => by cases h
  have hrecord : (Record.decoded? (record "2025-07-21T16:15:31+02:00")).isSome = true := by
    decide +kernel
  have hzero : Record.decode (record "0000-01-01T00:00:00Z") = .error (.fault .yearZero) := by
    decide +kernel
  constructor
  · apply (parse_array_iff _).1.mpr
    intro x hx
    rcases List.mem_cons.mp hx with rfl | hx
    · exact hnull
    · rw [List.mem_singleton.mp hx]
      exact Record.not_escapes_of_decoded? hrecord
  · refine (parse_array_iff _).2 [.null] _ _ _ rfl (fun y hy => ?_)
      (Record.decode_eq_fault_iff.mp hzero)
    rw [List.mem_singleton.mp hy]
    exact hnull

open Sample in
/-- Not every batch leaves its elements to themselves: this one holds a record, and returns
nothing. -/
theorem not_isolated_parse : ¬ Isolated
    [record "0000-01-01T00:00:00Z", record "2025-07-21T16:15:31+02:00"]
    (parse (.array [record "0000-01-01T00:00:00Z", record "2025-07-21T16:15:31+02:00"])) := by
  intro h
  have hstops : (parse (.array
      [record "0000-01-01T00:00:00Z", record "2025-07-21T16:15:31+02:00"])).2 =
        .error (.fault .yearZero) := by
    decide +kernel
  have hrecords := h.records
  rw [hstops] at hrecords
  cases hrecords

end Batch

end MeterFeed
