import MeterFeed.Proofs.Decoding

/-!
# A record survives the wire

What decoding puts into a record is in the form in which the wire keeps it: times are on whole
minutes, numbers are readings of themselves, labels are labels of themselves. So the object that
encoding writes decodes to the record itself (`Record.decode_encode`).
-/

namespace MeterFeed

/-! ## Readings and labels -/

theorem Number.reading?_reading {n m : Number} (h : n.reading? = .ok (some m)) :
    m.reading? = .ok (some m) := by
  rw [Number.reading?_eq_iff] at h ⊢
  cases h with
  | real x => exact .real x
  | natural nonneg fits => exact .natural nonneg fits
  | rounded => exact .real _

theorem Label.decode_toJson {x : Json} {label : Label} (h : Label.decode x = .ok label) :
    Label.decode label.toJson = .ok label := by
  cases x with
  | number n =>
    obtain ⟨reading, hreading, rfl⟩ := Label.decode_number_eq_ok_iff.mp h
    exact Label.decode_number_eq_ok_iff.mpr ⟨reading, Number.reading?_reading hreading, rfl⟩
  | bool | text | array =>
    cases h
    rfl
  | null | object => cases h

namespace Record

theorem decodeValue_number {x : Json} {n : Number} (h : decodeValue x = .ok n) :
    decodeValue (.number n) = .ok n := by
  rw [decodeValue_eq_ok_iff] at h ⊢
  cases x with
  | number m => exact Number.reading?_reading h
  | null | bool | text | array | object => cases h

theorem decodeMembers_encoded {members : List (String × Json)} {labels : Fields Label}
    (h : decodeMembers members = .ok labels) :
    decodeMembers (labels.map fun field => (field.1, field.2.toJson)) = .ok labels := by
  rw [decodeMembers_eq_ok_iff] at h ⊢
  induction h with
  | nil => exact .nil
  | cons hlabel _ ih => exact .cons ⟨rfl, Label.decode_toJson hlabel.2⟩ ih

theorem decodeLabels_encodeLabels {x : Json} {labels : Fields Label}
    (h : decodeLabels x = .ok labels) : decodeLabels (encodeLabels labels) = .ok labels := by
  cases x with
  | object members => exact decodeMembers_encoded h
  | null | bool | number | text | array => cases h

/-! ## Times -/

theorem onMinutes_of_decodeTime {x : Json} {t : DateTime} (h : decodeTime x = .ok t) :
    t.OnMinutes := by
  have hutc : ∀ {seconds micros : Int}, Epoch.ofSecondsAndMicros? seconds micros = some t →
      t.OnMinutes := fun ht => ⟨0, (DateTime.ofTicks?_eq_some ht).2, rfl, by decide⟩
  cases x with
  | number n =>
    unfold decodeTime at h
    dsimp only at h
    cases htime : Epoch.time? n with
    | none =>
      rw [htime] at h
      cases h
    | some t' =>
      rw [htime] at h
      cases h
      cases n with
      | int k => exact hutc htime
      | real x =>
        have hreal : Epoch.ofReal? x = some t := htime
        unfold Epoch.ofReal? at hreal
        split at hreal
        · cases hreal
        · exact hutc hreal
  | text s =>
    unfold decodeTime at h
    dsimp only at h
    cases hread : Rfc3339.read s.toList with
    | time t' =>
      rw [hread] at h
      cases h
      exact Rfc3339.onMinutes_of_read hread
    | misshapen | impossible | yearZero =>
      rw [hread] at h
      cases h
  | null | bool | array | object => cases h

theorem decodeTime_fullText {t : DateTime} (h : t.OnMinutes) :
    decodeTime (.text t.fullText) = .ok t := by
  unfold decodeTime DateTime.fullText
  dsimp only
  rw [String.toList_ofList, Rfc3339.read_isoMicros h]

/-! ## Records -/

theorem parts_encode (r : Record) : ∃ members, encode r = .object members ∧
    Parts members (.text r.deviceId) (.text r.metricId) (.text r.time.fullText) (.number r.value)
      (encodeLabels r.labels) :=
  ⟨_, rfl, rfl, rfl, rfl, rfl, rfl⟩

/-- **A record is decoded from what it is encoded as.** So decoding and encoding once more changes
nothing. -/
theorem decode_encode {v : Json} {r : Record} (h : decode v = .ok r) :
    decode (encode r) = .ok r ∧ (decode (encode r)).map encode = .ok (encode r) := by
  obtain ⟨_, time, value, labels, -, -, htime, hvalue, hlabels⟩ := decode_eq_ok_iff.mp h
  obtain ⟨members, hencode, hparts⟩ := parts_encode r
  have hagain : decode (encode r) = .ok r := by
    refine decode_eq_ok_iff.mpr ⟨members, _, _, _, hencode, hparts, ?_, ?_, ?_⟩
    · exact decodeTime_fullText (onMinutes_of_decodeTime htime)
    · exact decodeValue_number hvalue
    · exact decodeLabels_encodeLabels hlabels
  refine ⟨hagain, ?_⟩
  rw [hagain]
  rfl

/-- A record with a time west of Greenwich, a value beyond the unsigned integers, and an array for
a label. -/
def sample : Json :=
  .object [("device_id", .text "taurus-7"), ("metric_id", .text "power"),
    ("timestamp", .text "2025-07-21 16:15:31.5-00:30"), ("value", .int 18446744073709551616),
    ("labels", .object [("ports", .array [.text "a", .int (-1), .null]), ("on", .bool true)])]

theorem decode_encode_sample : ∃ r, decode sample = .ok r ∧
    r.time.fullText = "2025-07-21T16:15:31.500000-00:30" ∧ decode (encode r) = .ok r := by
  have htext : (decode sample).map (fun r => r.time.fullText) =
      .ok "2025-07-21T16:15:31.500000-00:30" := by
    decide +kernel
  cases hdecode : decode sample with
  | error e =>
    rw [hdecode] at htext
    cases htext
  | ok r =>
    rw [hdecode] at htext
    exact ⟨r, rfl, Except.ok.inj htext, (decode_encode hdecode).1⟩

end Record

end MeterFeed
