import MeterFeed.Proofs.Act
import MeterFeed.Proofs.Fetching
import MeterFeed.Proofs.Lenient

/-!
# What an answer of the session comes to

`Outcome url mapper time answer polled` is the table of all answers that a session can give and of
what a poll makes of each: an error of the fetch, a fault, no points, or the points of a batch, which
are those of the elements that decode and map (`Mapper.points`). `Feed.outcome_conclude` says that
the end of a cycle follows the table.

A batch is emitted as a whole or not at all, since nothing stops a cycle once its records are
decoded: a value that was decoded has a double next to it (`Number.toReal?_reading`), and so mapping
a record delivers a point or refuses the record (`Mapper.map_ne_fault`).
-/

namespace MeterFeed

/-! ## Mapping what was decoded -/

namespace Number

/-- A reading is a double or an integer of 64 bits, and so has a double next to it. -/
theorem toReal?_reading {n reading : Number} (h : n.reading? = .ok (some reading)) :
    ∃ x, reading.toReal? = .ok x := by
  cases reading?_eq_iff.mp h with
  | real x => exact ⟨x, rfl⟩
  | @rounded _ x => exact ⟨x, rfl⟩
  | @natural k nonneg fits =>
    have hmax := unsignedMax_lt_beyond
    cases hreal : Binary64.ofInt? k with
    | none =>
      have hbeyond := (Binary64.ofInt?_eq_none_iff k).mp hreal
      omega
    | some x =>
      refine ⟨x, ?_⟩
      simp only [toReal?, hreal]

theorem fit_ne_fault {n : Number} (h : ∃ x, n.toReal? = .ok x) (type : ValueType) (f : Fault) :
    n.fit type ≠ .error (.fault f) := by
  cases type with
  | real =>
    obtain ⟨x, hx⟩ := h
    show n.toDouble ≠ _
    unfold toDouble
    rw [hx]
    exact nofun
  | unsigned =>
    show n.toUnsigned ≠ _
    unfold toUnsigned
    split
    · exact nofun
    · split <;> exact nofun

end Number

theorem Record.decode_of_decoded? {x : Json} {r : Record} (h : Record.decoded? x = some r) :
    Record.decode x = .ok r :=
  toOption_eq_some_iff.mp h

theorem Record.toReal?_of_decode {x : Json} {r : Record} (h : Record.decode x = .ok r) :
    ∃ d, r.value.toReal? = .ok d := by
  obtain ⟨members, time, value, labels, -, -, -, hvalue, -⟩ := Record.decode_eq_ok_iff.mp h
  have hreading := Record.decodeValue_eq_ok_iff.mp hvalue
  cases value with
  | number n => exact Number.toReal?_reading hreading
  | null | bool | text | array | object => cases hreading

namespace Mapper

/-- Mapping a record that was decoded delivers a point or refuses the record. -/
theorem map_ne_fault {x : Json} {r : Record} (h : Record.decode x = .ok r) (mapper : Mapper)
    (time : DateTime) (f : Fault) : mapper.map r time ≠ .error (.fault f) := by
  unfold map
  split
  · exact nofun
  · rename_i metric _
    have hfit := Number.fit_ne_fault (Record.toReal?_of_decode h) metric.valueType f
    split
    · rename_i halt hhalt
      intro hfault
      cases hfault
      exact hfit hhalt
    · exact nofun

def point? (mapper : Mapper) (time : DateTime) (r : Record) : Option Point :=
  (mapper.map r time).toOption

/-- The points of the elements that decode and map, in order. -/
def points (mapper : Mapper) (time : DateTime) (elements : List Json) : List Point :=
  elements.filterMap fun x => (Record.decoded? x).bind (mapper.point? time)

end Mapper

/-! ## The table of answers -/

/-- What a poll makes of an answer to the request for a URL, with a mapper and at a time. -/
inductive Outcome (url : String) (mapper : Mapper) (time : DateTime) :
    SessionAnswer → Polled → Prop where
  | unanswered (message : String) : Outcome url mapper time (.failure message)
      ⟨[], .error (.error (.transport url (.session message)))⟩
  | broken (sort : SessionFault) (message : String) : Outcome url mapper time
      (.fault sort message) ⟨[], .error (.fault (.session sort message))⟩
  | refused {status : Nat} {reason : String} {body : List UInt8}
      (bad : 400 ≤ status ∧ status < 600) :
      Outcome url mapper time (.response status reason body) ⟨[], .error (.error (.transport url
        (if status < 500 then .clientError status reason url
          else .serverError status reason url)))⟩
  | unreadable {status : Nat} {reason : String} {body : List UInt8} {e : Json.ReadError}
      (good : ¬ (400 ≤ status ∧ status < 600)) (read : Http.payload body = .error e) :
      Outcome url mapper time (.response status reason body)
        ⟨[], .error (.error (.invalidPayload url e))⟩
  | noBatch {status : Nat} {reason : String} {body : List UInt8} {payload : Json}
      (good : ¬ (400 ≤ status ∧ status < 600)) (read : Http.payload body = .ok payload)
      (other : ∀ elements, payload ≠ .array elements) :
      Outcome url mapper time (.response status reason body) ⟨[], .ok 0⟩
  | batch {status : Nat} {reason : String} {body : List UInt8} {elements : List Json}
      (good : ¬ (400 ≤ status ∧ status < 600)) (read : Http.payload body = .ok (.array elements))
      (contained : ∀ x ∈ elements, ∀ f, Record.decode x ≠ .error (.fault f)) :
      Outcome url mapper time (.response status reason body)
        ⟨mapper.points time elements, .ok (mapper.points time elements).length⟩
  | escaped {status : Nat} {reason : String} {body : List UInt8} {before after : List Json}
      {x : Json} {f : Fault}
      (good : ¬ (400 ≤ status ∧ status < 600))
      (read : Http.payload body = .ok (.array (before ++ x :: after)))
      (contained : ∀ y ∈ before, ∀ f, Record.decode y ≠ .error (.fault f))
      (escapes : Record.decode x = .error (.fault f)) :
      Outcome url mapper time (.response status reason body) ⟨[], .error (.fault f)⟩

theorem Outcome.all_or_nothing {url : String} {mapper : Mapper} {time : DateTime}
    {answer : SessionAnswer} {polled : Polled} (h : Outcome url mapper time answer polled) :
    polled.points = [] ∨ polled.result = .ok polled.points.length := by
  cases h with
  | batch => exact .inr rfl
  | _ => exact .inl rfl

namespace Feed

variable {f : Feed} {mapper : Mapper} {request : Request} {time : DateTime}

theorem mapRecords_eq {source : Source} {records : List Record}
    (hmapper : source.mapper = some mapper)
    (h : ∀ r ∈ records, ∀ fault, mapper.map r time ≠ .error (.fault fault)) :
    (mapRecords source time records).points = records.filterMap (mapper.point? time) ∧
      (mapRecords source time records).stop = none := by
  induction records with
  | nil => exact ⟨rfl, rfl⟩
  | cons r rs ih =>
    obtain ⟨hpoints, hstop⟩ := ih fun s hs => h s (List.mem_cons_of_mem r hs)
    have hnormalize : source.normalize r time = mapper.map r time := by
      unfold Source.normalize
      rw [hmapper]
    have hpoint : mapper.point? time r = (mapper.map r time).toOption := rfl
    unfold mapRecords
    rw [hnormalize, List.filterMap_cons, hpoint]
    rcases hmap : mapper.map r time with (e | fault) | point
    · exact ⟨hpoints, hstop⟩
    · exact absurd hmap (h r List.mem_cons_self fault)
    · exact ⟨congrArg (point :: ·) hpoints, hstop⟩

theorem emit_eq {records : List Record} (hmapper : f.source.mapper = some mapper)
    (h : ∀ r ∈ records, ∀ fault, mapper.map r time ≠ .error (.fault fault)) :
    (f.emit request time records).1 = ⟨records.filterMap (mapper.point? time),
      .ok (records.filterMap (mapper.point? time)).length⟩ := by
  have hsource : (f.enter .emitting).source = f.source := by rw [enter_eq]
  obtain ⟨hpoints, hstop⟩ := mapRecords_eq (hsource ▸ hmapper) h
  unfold emit
  dsimp only
  rw [hstop, hpoints]

theorem digest_contained {elements : List Json} (hmapper : f.source.mapper = some mapper)
    (h : ∀ x ∈ elements, ∀ fault, Record.decode x ≠ .error (.fault fault)) :
    (f.digest request time (.array elements)).1 =
      ⟨mapper.points time elements, .ok (mapper.points time elements).length⟩ := by
  have hrecords := (Batch.isolated_parse fun x hx fault hescapes =>
    h x hx fault (Record.decode_eq_fault_iff.mpr hescapes)).records
  have hmaps : ∀ r ∈ elements.filterMap Record.decoded?, ∀ fault,
      mapper.map r time ≠ .error (.fault fault) := by
    intro r hr fault
    obtain ⟨x, -, hx⟩ := List.mem_filterMap.mp hr
    exact mapper.map_ne_fault (Record.decode_of_decoded? hx) time fault
  have hpoints : mapper.points time elements =
      (elements.filterMap Record.decoded?).filterMap (mapper.point? time) :=
    (List.filterMap_filterMap ..).symm
  unfold digest
  rcases hparse : Batch.parse (.array elements) with ⟨entries, result⟩
  rw [hparse] at hrecords
  dsimp only at hrecords ⊢
  rw [hrecords, hpoints]
  exact emit_eq hmapper hmaps

/-- The first element that escapes ends the cycle with its fault. -/
theorem digest_escaped {before after : List Json} {x : Json} {fault : Fault}
    (h : ∀ y ∈ before, ∀ fault, Record.decode y ≠ .error (.fault fault))
    (hx : Record.decode x = .error (.fault fault)) :
    (f.digest request time (.array (before ++ x :: after))).1 = ⟨[], .error (.fault fault)⟩ := by
  have hstops : Batch.decodeFrom 0 (before ++ x :: after) = ⟨_, .error fault⟩ :=
    Batch.decodeFrom_escaped 0
      (fun y hy fault hescapes => h y hy fault (Record.decode_eq_fault_iff.mpr hescapes))
      (Record.decode_eq_fault_iff.mp hx)
  unfold digest Batch.parse
  dsimp only
  rw [hstops]

theorem digest_noBatch {payload : Json} (h : ∀ elements, payload ≠ .array elements) :
    (f.digest request time payload).1 = ⟨[], .ok 0⟩ := by
  unfold digest
  cases payload with
  | array elements => exact absurd rfl (h elements)
  | null | bool | number | text | object => rfl

theorem outcome_digest {url reason : String} {status : Nat} {body : List UInt8} {payload : Json}
    (hmapper : f.source.mapper = some mapper) (good : ¬ (400 ≤ status ∧ status < 600))
    (read : Http.payload body = .ok payload) :
    Outcome url mapper time (.response status reason body)
      (f.digest request time payload).1 := by
  by_cases harray : ∃ elements, payload = .array elements
  · obtain ⟨elements, rfl⟩ := harray
    rcases Batch.contained_or_escaped elements with hall | ⟨before, x, after, fault, rfl, hbefore, hx⟩
    · have hcontained : ∀ x ∈ elements, ∀ fault, Record.decode x ≠ .error (.fault fault) :=
        fun x hx fault hfault => hall x hx fault (Record.decode_eq_fault_iff.mp hfault)
      rw [digest_contained hmapper hcontained]
      exact .batch good read hcontained
    · have hcontained : ∀ y ∈ before, ∀ fault, Record.decode y ≠ .error (.fault fault) :=
        fun y hy fault hfault => hbefore y hy fault (Record.decode_eq_fault_iff.mp hfault)
      have hescapes := Record.decode_eq_fault_iff.mpr hx
      rw [digest_escaped hcontained hescapes]
      exact .escaped good read hcontained hescapes
  · have hother : ∀ elements, payload ≠ .array elements :=
      fun elements heq => harray ⟨elements, heq⟩
    rw [digest_noBatch hother]
    exact .noBatch good read hother

/-- **The end of a cycle follows the table of answers.** -/
theorem outcome_conclude (hmapper : f.source.mapper = some mapper) :
    Outcome request.url mapper time f.session (f.conclude request time).1 := by
  unfold conclude
  cases f.session with
  | failure message => exact .unanswered message
  | fault sort message => exact .broken sort message
  | response status reason body =>
    unfold Http.conclude
    dsimp only
    by_cases bad : 400 ≤ status ∧ status < 600
    · rw [Http.statusError?_of_bad bad]
      exact .refused bad
    · rw [Http.statusError?_of_good bad]
      cases read : Http.payload body with
      | error e => exact .unreadable bad read
      | ok payload => exact outcome_digest hmapper bad read

end Feed

end MeterFeed
