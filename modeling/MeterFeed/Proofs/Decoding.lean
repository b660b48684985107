import Mathlib.Data.List.Forall2
import MeterFeed.Proofs.Double
import MeterFeed.Proofs.TimeText
import MeterFeed.Record.Codec

/-!
# What decoding a record comes to

Decoding an object takes its five fields one after the other. `Record.decode_eq_ok_iff` says when it
delivers. It may also end in a fault, which is no refusal: `Record.Escapes` lists the values for
which it does, and `Record.decode_eq_fault_iff` says that the list is complete.
-/

namespace MeterFeed

/-! ## Readings -/

/-- True of the integers that no double is next to. -/
def Json.TooLarge (x : Json) : Prop :=
  ∃ n : Int, x = .int n ∧ (Binary64.beyond : Int) ≤ n

theorem unsignedMax_lt_beyond : Number.unsignedMax < Binary64.beyond := by
  decide +kernel

/-- What reading a number comes to. -/
inductive Number.Reads : Number → Except Fault (Option Number) → Prop where
  | real (x : Binary64) : Number.Reads (.real x) (.ok (some (.real x)))
  | negative {k : Int} (below : k < 0) : Number.Reads (.int k) (.ok none)
  | natural {k : Int} (nonneg : 0 ≤ k) (fits : k ≤ Number.unsignedMax) :
    Number.Reads (.int k) (.ok (some (.int k)))
  | rounded {k : Int} {x : Binary64} (large : Number.unsignedMax < k)
    (next : Binary64.ofInt? k = some x) : Number.Reads (.int k) (.ok (some (.real x)))
  | tooLarge {k : Int} (large : Binary64.beyond ≤ k) :
    Number.Reads (.int k) (.error .integerTooLarge)

theorem Number.reads_reading? (n : Number) : n.Reads n.reading? := by
  cases n with
  | real x => exact .real x
  | int k =>
    unfold Number.reading?
    dsimp only
    split
    · rename_i hneg
      exact .negative hneg
    · rename_i hneg
      split
      · rename_i hlarge
        simp only [Number.toReal?]
        cases hreal : Binary64.ofInt? k with
        | none =>
          have hbeyond := (Binary64.ofInt?_eq_none_iff k).mp hreal
          exact .tooLarge (by omega)
        | some x => exact .rounded hlarge hreal
      · rename_i hlarge
        exact .natural (Int.not_lt.mp hneg) (Int.not_lt.mp hlarge)

theorem Number.reading?_eq_iff {n : Number} {outcome : Except Fault (Option Number)} :
    n.reading? = outcome ↔ n.Reads outcome := by
  constructor
  · rintro rfl
    exact n.reads_reading?
  · have hmax := unsignedMax_lt_beyond
    intro h
    cases h with
    | real x => rfl
    | negative below =>
      unfold Number.reading?
      exact if_pos below
    | natural nonneg fits =>
      unfold Number.reading?
      dsimp only
      rw [if_neg (by omega), if_neg (by omega)]
    | rounded large next =>
      unfold Number.reading? Number.toReal?
      dsimp only
      rw [if_neg (by omega), if_pos large, next]
    | @tooLarge k large =>
      have hreal := (Binary64.ofInt?_eq_none_iff k).mpr (by omega)
      unfold Number.reading? Number.toReal?
      dsimp only
      rw [if_neg (by omega), if_pos (by omega), hreal]

theorem Number.reading?_eq_error_iff {n : Number} {f : Fault} :
    n.reading? = .error f ↔ f = .integerTooLarge ∧ (Json.number n).TooLarge := by
  rw [Number.reading?_eq_iff]
  constructor
  · intro h
    cases h with
    | tooLarge large => exact ⟨rfl, _, rfl, large⟩
  · rintro ⟨rfl, k, hk, large⟩
    cases hk
    exact .tooLarge large

theorem Number.reading?_eq_none_iff {n : Number} :
    n.reading? = .ok none ↔ ∃ k : Int, k < 0 ∧ n = .int k := by
  rw [Number.reading?_eq_iff]
  constructor
  · intro h
    cases h with
    | negative below => exact ⟨_, below, rfl⟩
  · rintro ⟨k, below, rfl⟩
    exact .negative below

theorem Label.decode_number_eq_ok_iff {n : Number} {label : Label} :
    Label.decode (.number n) = .ok label ↔
      ∃ reading, n.reading? = .ok (some reading) ∧ label = .number reading := by
  unfold Label.decode
  dsimp only
  rcases n.reading? with f | _ | reading <;> simp [eq_comm]

theorem Label.decode_eq_fault_iff {x : Json} {f : Fault} :
    Label.decode x = .error (.fault f) ↔ f = .integerTooLarge ∧ x.TooLarge := by
  have hother : ∀ y : Json, (∀ n, y ≠ .number n) → ¬ y.TooLarge := by
    rintro y hy ⟨n, rfl, -⟩
    exact hy _ rfl
  cases x with
  | number n =>
    rw [← Number.reading?_eq_error_iff]
    unfold Label.decode
    dsimp only
    rcases n.reading? with e | _ | reading <;> simp
  | null | bool | text | array | object =>
    unfold Label.decode
    refine ⟨fun h => by simp at h, fun h => ?_⟩
    exact absurd h.2 (hother _ fun _ => Json.noConfusion)

namespace Record

theorem decodeValue_eq_ok_iff {x : Json} {n : Number} :
    decodeValue x = .ok n ↔ x.reading? = .ok (some n) := by
  unfold decodeValue
  rcases x.reading? with f | _ | reading <;> simp

theorem decodeValue_eq_fault_iff {x : Json} {f : Fault} :
    decodeValue x = .error (.fault f) ↔ f = .integerTooLarge ∧ x.TooLarge := by
  have hreading : decodeValue x = .error (.fault f) ↔ x.reading? = .error f := by
    unfold decodeValue
    rcases x.reading? with e | _ | reading <;> simp
  rw [hreading]
  cases x with
  | number n => exact Number.reading?_eq_error_iff
  | null | bool | text | array | object =>
    refine ⟨nofun, ?_⟩
    rintro ⟨-, n, hn, -⟩
    cases hn

theorem decodeTime_eq_fault_iff {x : Json} {f : Fault} : decodeTime x = .error (.fault f) ↔
    f = .yearZero ∧ ∃ s, x = .text s ∧ Rfc3339.NamesYearZero s.toList := by
  cases x with
  | number n =>
    unfold decodeTime
    cases htime : Epoch.time? n <;> simp [htime]
  | text s =>
    simp only [Json.text.injEq, exists_eq_left', ← Rfc3339.read_eq_yearZero_iff]
    unfold decodeTime
    cases hread : Rfc3339.read s.toList <;> simp [hread, eq_comm]
  | null | bool | array | object =>
    unfold decodeTime
    simp

/-- **Time texts are decoded exactly by the grammar.** A text is decoded if it denotes a date of the
years 1 to 9999, and then the time has that date, that time of day and that offset. A text that
denotes a date of the year 0 ends in a fault, and every other text is refused. -/
theorem decodeTime_grammar (s : String) :
    (∀ t, decodeTime (.text s) = .ok t ↔
      ∃ offset, t.offset = some offset ∧ Rfc3339.Denotes s.toList t.date t.timeOfDay offset) ∧
    ((∃ t, decodeTime (.text s) = .ok t) ↔
      ∃ date time offset, Rfc3339.Denotes s.toList date time offset ∧ 1 ≤ date.year) ∧
    (decodeTime (.text s) = .error (.fault .yearZero) ↔
      ∃ date time offset, Rfc3339.Denotes s.toList date time offset ∧ date.year = 0) ∧
    ((∃ reason, decodeTime (.text s) = .error (.error (.badTime reason))) ↔
      ¬ ∃ date time offset, Rfc3339.Denotes s.toList date time offset) := by
  have hok : ∀ t, decodeTime (.text s) = .ok t ↔ Rfc3339.read s.toList = .time t := by
    intro t
    unfold decodeTime
    cases hread : Rfc3339.read s.toList <;> simp [hread]
  have hfault : decodeTime (.text s) = .error (.fault .yearZero) ↔
      Rfc3339.read s.toList = .yearZero := by
    unfold decodeTime
    cases hread : Rfc3339.read s.toList <;> simp [hread]
  have hrefused : (∃ reason, decodeTime (.text s) = .error (.error (.badTime reason))) ↔
      Rfc3339.read s.toList = .misshapen ∨ Rfc3339.read s.toList = .impossible := by
    unfold decodeTime
    cases hread : Rfc3339.read s.toList <;> simp [hread]
  refine ⟨fun t => (hok t).trans Rfc3339.read_eq_time_iff, ?_,
    hfault.trans Rfc3339.read_eq_yearZero_iff_denotes, hrefused.trans Rfc3339.read_refused_iff⟩
  constructor
  · rintro ⟨t, ht⟩
    obtain ⟨offset, -, hdenotes⟩ := Rfc3339.read_eq_time_iff.mp ((hok t).mp ht)
    exact ⟨_, _, offset, hdenotes, t.proper_date.1⟩
  · rintro ⟨date, time, offset, hdenotes, hpos⟩
    obtain ⟨t, hread, -⟩ := hdenotes.read_of_pos hpos
    exact ⟨t, (hok t).mpr hread⟩

/-! ## Labels, member after member -/

theorem decodeLabel_eq_ok_iff {name : String} {x : Json} {field : String × Label} :
    decodeLabel name x = .ok field ↔ ∃ label, Label.decode x = .ok label ∧ field = (name, label) := by
  unfold decodeLabel
  rcases Label.decode x with (shape | fault) | label <;> simp [eq_comm]

theorem decodeMembers_eq_ok_iff {members : List (String × Json)} {labels : Fields Label} :
    decodeMembers members = .ok labels ↔ List.Forall₂
      (fun m label => label.1 = m.1 ∧ Label.decode m.2 = .ok label.2) members labels := by
  induction members generalizing labels with
  | nil =>
    rw [List.forall₂_nil_left_iff]
    exact ⟨fun h => (Except.ok.inj h).symm, fun h => h ▸ rfl⟩
  | cons member rest ih =>
    unfold decodeMembers
    rw [List.forall₂_cons_left_iff]
    simp only [bind_eq_ok, decodeLabel_eq_ok_iff, ih]
    constructor
    · rintro ⟨_, ⟨label, hlabel, rfl⟩, ls, hls, h⟩
      cases h
      exact ⟨_, _, ⟨rfl, hlabel⟩, hls, rfl⟩
    · rintro ⟨⟨name, label⟩, ls, ⟨rfl, hlabel⟩, hls, rfl⟩
      exact ⟨_, ⟨label, hlabel, rfl⟩, ls, hls, rfl⟩

theorem stop?_decodeMembers (members : List (String × Json)) :
    stop? (decodeMembers members) = members.findSome? fun m => stop? (decodeLabel m.1 m.2) := by
  induction members with
  | nil => rfl
  | cons member rest ih =>
    obtain ⟨name, x⟩ := member
    unfold decodeMembers
    rw [List.findSome?_cons, ← ih]
    cases decodeLabel name x with
    | error halt => rfl
    | ok label => cases decodeMembers rest <;> rfl

theorem decodeMembers_eq_error_iff {members : List (String × Json)} {halt : Halt DecodeError} :
    decodeMembers members = .error halt ↔
      ∃ before name x after, members = before ++ (name, x) :: after ∧
        (∀ m ∈ before, ∃ label, Label.decode m.2 = .ok label) ∧
        decodeLabel name x = .error halt := by
  have hdecoded : ∀ m : String × Json, stop? (decodeLabel m.1 m.2) = none ↔
      ∃ label, Label.decode m.2 = .ok label := by
    intro m
    rw [stop?_eq_none_iff]
    constructor
    · rintro ⟨field, hfield⟩
      obtain ⟨label, hlabel, -⟩ := decodeLabel_eq_ok_iff.mp hfield
      exact ⟨label, hlabel⟩
    · rintro ⟨label, hlabel⟩
      exact ⟨_, decodeLabel_eq_ok_iff.mpr ⟨label, hlabel, rfl⟩⟩
  rw [← stop?_eq_some_iff, stop?_decodeMembers, List.findSome?_eq_some_iff]
  constructor
  · rintro ⟨before, ⟨name, x⟩, after, hmembers, hstop, hbefore⟩
    exact ⟨before, name, x, after, hmembers, fun m hm => (hdecoded m).mp (hbefore m hm),
      stop?_eq_some_iff.mp hstop⟩
  · rintro ⟨before, name, x, after, hmembers, hbefore, hstop⟩
    exact ⟨before, (name, x), after, hmembers, stop?_eq_some_iff.mpr hstop,
      fun m hm => (hdecoded m).mpr (hbefore m hm)⟩

/-- Labels end in a fault at an integer beyond all doubles, if all before it are labels. -/
theorem decodeMembers_eq_fault_iff {members : List (String × Json)} {f : Fault} :
    decodeMembers members = .error (.fault f) ↔ f = .integerTooLarge ∧
      ∃ before name x after, members = before ++ (name, x) :: after ∧
        (∀ m ∈ before, ∃ label, Label.decode m.2 = .ok label) ∧ x.TooLarge := by
  have hlabel : ∀ name x, decodeLabel name x = .error (.fault f) ↔
      f = .integerTooLarge ∧ x.TooLarge := by
    intro name x
    rw [← Label.decode_eq_fault_iff]
    unfold decodeLabel
    rcases Label.decode x with (shape | fault) | label <;> simp
  rw [decodeMembers_eq_error_iff]
  constructor
  · rintro ⟨before, name, x, after, hmembers, hbefore, hstop⟩
    obtain ⟨hf, hlarge⟩ := (hlabel name x).mp hstop
    exact ⟨hf, before, name, x, after, hmembers, hbefore, hlarge⟩
  · rintro ⟨hf, before, name, x, after, hmembers, hbefore, hlarge⟩
    exact ⟨before, name, x, after, hmembers, hbefore, (hlabel name x).mpr ⟨hf, hlarge⟩⟩

/-! ## The fields of an object -/

theorem field_eq_ok_iff {members : List (String × Json)} {name : String} {x : Json} :
    field members name = .ok x ↔ Fields.value? name members = some x := by
  unfold field
  cases Fields.value? name members <;> simp

theorem field_ne_fault {members : List (String × Json)} {name : String} {f : Fault} :
    field members name ≠ .error (.fault f) := by
  unfold field
  cases Fields.value? name members <;> simp

theorem decodeText_eq_ok_iff {name s : String} {x : Json} :
    decodeText name x = .ok s ↔ x = .text s := by
  cases x <;> simp [decodeText]

theorem decodeText_ne_fault {name : String} {x : Json} {f : Fault} :
    decodeText name x ≠ .error (.fault f) := by
  cases x <;> simp [decodeText]

/-- The five fields of an object. -/
structure Parts (members : List (String × Json)) (device metric time value labels : Json) :
    Prop where
  device : Fields.value? "device_id" members = some device
  metric : Fields.value? "metric_id" members = some metric
  time : Fields.value? "timestamp" members = some time
  value : Fields.value? "value" members = some value
  labels : Fields.value? "labels" members = some labels

/-- **When a value is a record.** -/
theorem decode_eq_ok_iff {v : Json} {r : Record} : decode v = .ok r ↔
    ∃ members time value labels, v = .object members ∧
      Parts members (.text r.deviceId) (.text r.metricId) time value labels ∧
      decodeTime time = .ok r.time ∧ decodeValue value = .ok r.value ∧
      decodeLabels labels = .ok r.labels := by
  constructor
  · intro h
    cases v with
    | object members =>
      simp only [decode, ofMembers, bind_eq_ok, field_eq_ok_iff, decodeText_eq_ok_iff] at h
      obtain ⟨device, hdevice, metric, hmetric, time, htime, value, hvalue, labels, hlabels,
        deviceId, rfl, metricId, rfl, t, ht, reading, hreading, ls, hls, h⟩ := h
      cases h
      exact ⟨members, time, value, labels, rfl, ⟨hdevice, hmetric, htime, hvalue, hlabels⟩,
        ht, hreading, hls⟩
    | null | bool | number | text | array => cases h
  · rintro ⟨members, time, value, labels, rfl, hparts, htime, hvalue, hlabels⟩
    simp only [decode, ofMembers, bind_eq_ok, field_eq_ok_iff, decodeText_eq_ok_iff]
    exact ⟨_, hparts.device, _, hparts.metric, _, hparts.time, _, hparts.value, _, hparts.labels,
      _, rfl, _, rfl, _, htime, _, hvalue, _, hlabels, rfl⟩

/-! ## What escapes -/

/-- The values whose decoding ends in a fault: objects with all five fields, of which the two names
are texts, and the first of the others that cannot be decoded is a time in the year 0, a value
beyond all doubles, or labels in which the first value that is no label lies beyond all doubles. -/
inductive Escapes : Json → Fault → Prop where
  | time {members : List (String × Json)} {device metric text : String} {value labels : Json}
    (parts : Parts members (.text device) (.text metric) (.text text) value labels)
    (zero : Rfc3339.NamesYearZero text.toList) : Escapes (.object members) .yearZero
  | value {members : List (String × Json)} {device metric : String} {time value labels : Json}
    (parts : Parts members (.text device) (.text metric) time value labels)
    (timed : ∃ t, decodeTime time = .ok t) (large : value.TooLarge) :
    Escapes (.object members) .integerTooLarge
  | label {members before after : List (String × Json)} {device metric name : String}
    {time value x : Json}
    (parts : Parts members (.text device) (.text metric) time value
      (.object (before ++ (name, x) :: after)))
    (timed : ∃ t, decodeTime time = .ok t) (valued : ∃ n, decodeValue value = .ok n)
    (labelled : ∀ m ∈ before, ∃ l, Label.decode m.2 = .ok l) (large : x.TooLarge) :
    Escapes (.object members) .integerTooLarge

theorem decodeLabels_eq_ok_iff {x : Json} {labels : Fields Label} :
    decodeLabels x = .ok labels ↔
      ∃ members, x = .object members ∧ decodeMembers members = .ok labels := by
  cases x <;> simp [decodeLabels]

theorem decodeLabels_eq_fault_iff {x : Json} {f : Fault} :
    decodeLabels x = .error (.fault f) ↔
      ∃ members, x = .object members ∧ decodeMembers members = .error (.fault f) := by
  cases x <;> simp [decodeLabels]

/-- Decoding ends in a fault where one of the fields does and those before it can be decoded. -/
theorem decode_eq_fault_iff_parts {v : Json} {f : Fault} : decode v = .error (.fault f) ↔
    ∃ members device metric time value labels, v = .object members ∧
      Parts members (.text device) (.text metric) time value labels ∧
      (decodeTime time = .error (.fault f) ∨ ∃ t, decodeTime time = .ok t ∧
        (decodeValue value = .error (.fault f) ∨ ∃ n, decodeValue value = .ok n ∧
          decodeLabels labels = .error (.fault f))) := by
  constructor
  · intro h
    cases v with
    | object members =>
      simp only [decode, ofMembers, bind_eq_error, field_eq_ok_iff, field_ne_fault,
        decodeText_eq_ok_iff, decodeText_ne_fault, false_or] at h
      obtain ⟨device, hdevice, metric, hmetric, time, htime, value, hvalue, labels, hlabels,
        deviceId, rfl, metricId, rfl, h⟩ := h
      refine ⟨members, deviceId, metricId, time, value, labels, rfl,
        ⟨hdevice, hmetric, htime, hvalue, hlabels⟩, ?_⟩
      rcases h with h | ⟨t, ht, h | ⟨n, hn, h | ⟨ls, hls, h⟩⟩⟩
      · exact .inl h
      · exact .inr ⟨t, ht, .inl h⟩
      · exact .inr ⟨t, ht, .inr ⟨n, hn, h⟩⟩
      · cases h
    | null | bool | number | text | array => cases h
  · rintro ⟨members, device, metric, time, value, labels, rfl, hparts, hstops⟩
    simp only [decode, ofMembers, bind_eq_error, field_eq_ok_iff, field_ne_fault,
      decodeText_eq_ok_iff, decodeText_ne_fault, false_or]
    refine ⟨_, hparts.device, _, hparts.metric, _, hparts.time, _, hparts.value, _,
      hparts.labels, _, rfl, _, rfl, ?_⟩
    rcases hstops with h | ⟨t, ht, h | ⟨n, hn, h⟩⟩
    · exact .inl h
    · exact .inr ⟨t, ht, .inl h⟩
    · exact .inr ⟨t, ht, .inr ⟨n, hn, .inl h⟩⟩

/-- **What escapes from decoding is all that ends in a fault.** -/
theorem decode_eq_fault_iff {v : Json} {f : Fault} :
    decode v = .error (.fault f) ↔ Escapes v f := by
  rw [decode_eq_fault_iff_parts]
  constructor
  · rintro ⟨members, device, metric, time, value, labels, rfl, hparts, hstops⟩
    rcases hstops with h | ⟨t, ht, h | ⟨n, hn, h⟩⟩
    · obtain ⟨rfl, s, rfl, hzero⟩ := decodeTime_eq_fault_iff.mp h
      exact .time hparts hzero
    · obtain ⟨rfl, hlarge⟩ := decodeValue_eq_fault_iff.mp h
      exact .value hparts ⟨t, ht⟩ hlarge
    · obtain ⟨ms, rfl, h⟩ := decodeLabels_eq_fault_iff.mp h
      obtain ⟨rfl, before, name, x, after, rfl, hbefore, hlarge⟩ :=
        decodeMembers_eq_fault_iff.mp h
      exact .label hparts ⟨t, ht⟩ ⟨n, hn⟩ hbefore hlarge
  · intro h
    cases h with
    | time hparts hzero =>
      refine ⟨_, _, _, _, _, _, rfl, hparts, .inl ?_⟩
      exact decodeTime_eq_fault_iff.mpr ⟨rfl, _, rfl, hzero⟩
    | value hparts timed hlarge =>
      obtain ⟨t, ht⟩ := timed
      refine ⟨_, _, _, _, _, _, rfl, hparts, .inr ⟨t, ht, .inl ?_⟩⟩
      exact decodeValue_eq_fault_iff.mpr ⟨rfl, hlarge⟩
    | label hparts timed valued hbefore hlarge =>
      obtain ⟨t, ht⟩ := timed
      obtain ⟨n, hn⟩ := valued
      refine ⟨_, _, _, _, _, _, rfl, hparts, .inr ⟨t, ht, .inr ⟨n, hn, ?_⟩⟩⟩
      refine decodeLabels_eq_fault_iff.mpr ⟨_, rfl, decodeMembers_eq_fault_iff.mpr ?_⟩
      exact ⟨rfl, _, _, _, _, rfl, hbefore, hlarge⟩

end Record

end MeterFeed
