import MeterFeed.Proofs.Decoding
import MeterFeed.Proofs.Lookup

/-!
# Which of several faults decides

A value can be wrong in several ways at once. `Record.Verdict` says what it comes to: something that
is no object is refused as a whole; an object lacks the first of the required fields that it does
not have, whatever the others hold; and if it has them all, the first of them that is refused
decides (`Record.Refuses`), for the labels the first value that no label can have
(`Label.Refuses`). Only what passes all of this is a record, with every part decoded.

Decoding follows the verdict, and so depends on nothing but the required fields
(`Record.decode_precedence`).
-/

namespace MeterFeed

/-! ## What no label can be -/

/-- A value that no label can have, and what that comes to. -/
inductive Label.Refuses : Json → Halt Shape → Prop where
  | object (members : List (String × Json)) : Label.Refuses (.object members) (.error .object)
  | null : Label.Refuses .null (.error .null)
  | negative {n : Int} (below : n < 0) : Label.Refuses (.int n) (.error .negativeInteger)
  | tooLarge {x : Json} (large : x.TooLarge) : Label.Refuses x (.fault .integerTooLarge)

theorem Label.decode_eq_error_iff {x : Json} {halt : Halt Shape} :
    Label.decode x = .error halt ↔ Label.Refuses x halt := by
  cases halt with
  | fault f =>
    rw [Label.decode_eq_fault_iff]
    constructor
    · rintro ⟨rfl, hlarge⟩
      exact .tooLarge hlarge
    · intro h
      cases h with
      | tooLarge large => exact ⟨rfl, large⟩
  | error shape =>
    cases x with
    | number n =>
      have hnegative : Label.decode (.number n) = .error (.error shape) ↔
          shape = .negativeInteger ∧ n.reading? = .ok none := by
        unfold Label.decode
        dsimp only
        rcases n.reading? with f | _ | reading <;> simp [eq_comm]
      rw [hnegative, Number.reading?_eq_none_iff]
      constructor
      · rintro ⟨rfl, k, hneg, rfl⟩
        exact .negative hneg
      · intro h
        cases h with
        | negative below => exact ⟨rfl, _, below, rfl⟩
    | null =>
      constructor
      · intro h
        cases h
        exact .null
      · intro h
        cases h
        rfl
    | object members =>
      constructor
      · intro h
        cases h
        exact .object members
      · intro h
        cases h
        rfl
    | bool | text | array => exact ⟨nofun, nofun⟩

namespace Record

/-! ## What no field can be -/

/-- A value that stands for no reading, and what that comes to. -/
inductive NoReading : Json → Halt DecodeError → Prop where
  /-- What is no number, or a negative integer. -/
  | other {x : Json} (other : ∀ n, x = .number n → ∃ k : Int, k < 0 ∧ n = .int k) :
    NoReading x (.error (.bad "value" (.expectedReading x)))
  | tooLarge {x : Json} (large : x.TooLarge) : NoReading x (.fault .integerTooLarge)

/-- What labels come to if the value of a name is no label. -/
def labelHalt (name : String) : Halt Shape → Halt DecodeError
  | .error shape => .error (.bad "labels" (.label name shape))
  | .fault f => .fault f

/-- A value that stands for no labels, and what that comes to: the first of its members that is no
label decides. -/
inductive NoLabels : Json → Halt DecodeError → Prop where
  | other {x : Json} (other : ∀ members, x ≠ .object members) :
    NoLabels x (.error (.bad "labels" (.expectedObject x.kind)))
  | member {before after : List (String × Json)} {name : String} {x : Json} {halt : Halt Shape}
    (labelled : ∀ m ∈ before, ∃ l, Label.decode m.2 = .ok l) (refuses : Label.Refuses x halt) :
    NoLabels (.object (before ++ (name, x) :: after)) (labelHalt name halt)

/-- A value that is refused for a required field, and what that comes to. -/
inductive Refuses (x : Json) : String → Halt DecodeError → Prop where
  | name {name : String} (named : name = "device_id" ∨ name = "metric_id")
    (other : ∀ s, x ≠ .text s) : Refuses x name (.error (.bad name (.expectedText x.kind)))
  | time {halt : Halt DecodeError} (untimed : decodeTime x = .error halt) :
    Refuses x "timestamp" halt
  | value {halt : Halt DecodeError} (unread : NoReading x halt) : Refuses x "value" halt
  | labels {halt : Halt DecodeError} (unlabelled : NoLabels x halt) : Refuses x "labels" halt

theorem decodeText_eq_error_iff {name : String} {x : Json} {halt : Halt DecodeError} :
    decodeText name x = .error halt ↔
      (∀ s, x ≠ .text s) ∧ halt = .error (.bad name (.expectedText x.kind)) := by
  cases x <;> simp [decodeText, eq_comm]

theorem reading?_eq_none_iff {x : Json} :
    x.reading? = .ok none ↔ ∀ n, x = .number n → ∃ k : Int, k < 0 ∧ n = .int k := by
  cases x with
  | number n =>
    show n.reading? = .ok none ↔ _
    rw [Number.reading?_eq_none_iff]
    exact ⟨fun h m hm => Json.number.inj hm ▸ h, fun h => h n rfl⟩
  | null | bool | text | array | object => exact iff_of_true rfl nofun

theorem decodeValue_eq_error_iff {x : Json} {halt : Halt DecodeError} :
    decodeValue x = .error halt ↔ NoReading x halt := by
  cases halt with
  | fault f =>
    rw [decodeValue_eq_fault_iff]
    constructor
    · rintro ⟨rfl, hlarge⟩
      exact .tooLarge hlarge
    · rintro ⟨⟩
      exact ⟨rfl, ‹_›⟩
  | error e =>
    have hrefused : decodeValue x = .error (.error e) ↔
        e = .bad "value" (.expectedReading x) ∧ x.reading? = .ok none := by
      unfold decodeValue
      rcases x.reading? with f | _ | reading <;> simp [eq_comm]
    rw [hrefused, reading?_eq_none_iff]
    constructor
    · rintro ⟨rfl, hother⟩
      exact .other hother
    · rintro ⟨⟩
      exact ⟨rfl, ‹_›⟩

theorem decodeLabel_eq_error_iff {name : String} {x : Json} {halt : Halt DecodeError} :
    decodeLabel name x = .error halt ↔ ∃ h, Label.Refuses x h ∧ halt = labelHalt name h := by
  simp only [← Label.decode_eq_error_iff]
  unfold decodeLabel
  rcases Label.decode x with (shape | fault) | label <;> simp [labelHalt, eq_comm]

theorem decodeLabels_eq_error_iff {x : Json} {halt : Halt DecodeError} :
    decodeLabels x = .error halt ↔ NoLabels x halt := by
  cases x with
  | object members =>
    show decodeMembers members = .error halt ↔ _
    rw [decodeMembers_eq_error_iff]
    constructor
    · rintro ⟨before, name, x, after, rfl, hbefore, hstop⟩
      obtain ⟨h, hrefuses, rfl⟩ := decodeLabel_eq_error_iff.mp hstop
      exact .member hbefore hrefuses
    · intro h
      cases h with
      | other other => exact absurd rfl (other members)
      | member labelled refuses =>
        exact ⟨_, _, _, _, rfl, labelled, decodeLabel_eq_error_iff.mpr ⟨_, refuses, rfl⟩⟩
  | null | bool | number | text | array =>
    constructor
    · rintro ⟨⟩
      exact .other nofun
    · rintro ⟨⟩
      rfl

/-! ## The required fields, one after the other -/

/-- What the decoder of a required field fails with on a value, if it fails. -/
def refusal? (name : String) (x : Json) : Option (Halt DecodeError) :=
  if name = "device_id" ∨ name = "metric_id" then stop? (decodeText name x)
  else if name = "timestamp" then stop? (decodeTime x)
  else if name = "value" then stop? (decodeValue x)
  else if name = "labels" then stop? (decodeLabels x)
  else none

theorem refusal?_eq_some_iff {name : String} {x : Json} {halt : Halt DecodeError} :
    refusal? name x = some halt ↔ Refuses x name halt := by
  constructor
  · intro h
    unfold refusal? at h
    split at h
    · rename_i hnamed
      obtain ⟨hother, rfl⟩ := decodeText_eq_error_iff.mp (stop?_eq_some_iff.mp h)
      exact .name hnamed hother
    · split at h
      · subst name
        exact .time (stop?_eq_some_iff.mp h)
      · split at h
        · subst name
          exact .value (decodeValue_eq_error_iff.mp (stop?_eq_some_iff.mp h))
        · split at h
          · subst name
            exact .labels (decodeLabels_eq_error_iff.mp (stop?_eq_some_iff.mp h))
          · cases h
  · intro h
    cases h with
    | name named other =>
      unfold refusal?
      rw [if_pos named]
      exact stop?_eq_some_iff.mpr (decodeText_eq_error_iff.mpr ⟨other, rfl⟩)
    | time untimed => exact stop?_eq_some_iff.mpr untimed
    | value unread => exact stop?_eq_some_iff.mpr (decodeValue_eq_error_iff.mpr unread)
    | labels unlabelled => exact stop?_eq_some_iff.mpr (decodeLabels_eq_error_iff.mpr unlabelled)

/-- An object stops at the first required field that is missing, and if there is none at the first
that is refused. -/
theorem stop?_ofMembers (members : List (String × Json)) :
    stop? (ofMembers members) =
      (required.findSome? fun name => stop? (field members name)).or
        (required.findSome? fun name => (Fields.value? name members).bind (refusal? name)) := by
  unfold ofMembers required field
  simp only [List.findSome?_cons, List.findSome?_nil]
  rcases Fields.value? "device_id" members with _ | device
  · rfl
  rcases Fields.value? "metric_id" members with _ | metric
  · rfl
  rcases Fields.value? "timestamp" members with _ | time
  · rfl
  rcases Fields.value? "value" members with _ | value
  · rfl
  rcases Fields.value? "labels" members with _ | labels
  · rfl
  have hdevice : refusal? "device_id" device = stop? (decodeText "device_id" device) := rfl
  have hmetric : refusal? "metric_id" metric = stop? (decodeText "metric_id" metric) := rfl
  have htime : refusal? "timestamp" time = stop? (decodeTime time) := rfl
  have hvalue : refusal? "value" value = stop? (decodeValue value) := rfl
  have hlabels : refusal? "labels" labels = stop? (decodeLabels labels) := rfl
  simp only [Option.bind_some, hdevice, hmetric, htime, hvalue, hlabels]
  dsimp only [bind, Except.bind, Except.pure, pure]
  rcases decodeText "device_id" device with halt | deviceId
  · rfl
  rcases decodeText "metric_id" metric with halt | metricId
  · rfl
  rcases decodeTime time with halt | t
  · rfl
  rcases decodeValue value with halt | reading
  · rfl
  rcases decodeLabels labels with halt | ls <;> rfl

theorem field_eq_error_iff {members : List (String × Json)} {name : String}
    {halt : Halt DecodeError} : field members name = .error halt ↔
      name ∉ Fields.names members ∧ halt = .error (.missing name) := by
  rw [← Fields.value?_eq_none_iff]
  unfold field
  cases Fields.value? name members <;> simp [eq_comm]

/-! ## The verdict -/

/-- What a value comes to as a record. -/
inductive Verdict : Json → Except (Halt DecodeError) Record → Prop where
  | noObject {v : Json} (other : ∀ members, v ≠ .object members) :
    Verdict v (.error (.error (.bad "record" (.expectedObject v.kind))))
  /-- The first required field that is not there, whatever the others hold. -/
  | missing {members : List (String × Json)} {before after : List String} {name : String}
    (order : required = before ++ name :: after)
    (present : ∀ n ∈ before, n ∈ Fields.names members) (absent : name ∉ Fields.names members) :
    Verdict (.object members) (.error (.error (.missing name)))
  /-- The first required field that is refused, if none is missing. -/
  | refused {members : List (String × Json)} {before after : List String} {name : String}
    {x : Json} {halt : Halt DecodeError} (complete : ∀ n ∈ required, n ∈ Fields.names members)
    (order : required = before ++ name :: after)
    (passed : ∀ n ∈ before, ∀ y h, Fields.value? n members = some y → ¬ Refuses y n h)
    (holds : Fields.value? name members = some x) (refuses : Refuses x name halt) :
    Verdict (.object members) (.error halt)
  /-- Every required field is decoded, with a label for each member of the labels, in order. -/
  | decoded {members labels : List (String × Json)} {time value : Json} {r : Record}
    (parts : Parts members (.text r.deviceId) (.text r.metricId) time value (.object labels))
    (timed : decodeTime time = .ok r.time) (read : value.reading? = .ok (some r.value))
    (labelled : List.Forall₂ (fun m label => label.1 = m.1 ∧ Label.decode m.2 = .ok label.2)
      labels r.labels) : Verdict (.object members) (.ok r)

theorem ofMembers_eq_error_iff {members : List (String × Json)} {halt : Halt DecodeError} :
    ofMembers members = .error halt ↔ Verdict (.object members) (.error halt) := by
  have hpresent : ∀ n, stop? (field members n) = none ↔ n ∈ Fields.names members := by
    intro n
    simp only [stop?_eq_none_iff, Fields.mem_names_iff, field_eq_ok_iff]
  have hpassed : ∀ n, (Fields.value? n members).bind (refusal? n) = none ↔
      ∀ y h, Fields.value? n members = some y → ¬ Refuses y n h := by
    intro n
    have hnone : ∀ y, refusal? n y = none ↔ ∀ h, ¬ Refuses y n h := fun y => by
      simp only [Option.eq_none_iff_forall_ne_some, ne_eq, refusal?_eq_some_iff]
    rw [Option.bind_eq_none_iff]
    exact forall_congr' fun y => by rw [hnone y, forall_comm]
  rw [← stop?_eq_some_iff, stop?_ofMembers, Option.or_eq_some_iff, List.findSome?_eq_some_iff,
    List.findSome?_eq_none_iff, List.findSome?_eq_some_iff]
  constructor
  · rintro (⟨before, name, after, order, hstop, hbefore⟩ |
      ⟨hall, before, name, after, order, hstop, hbefore⟩)
    · obtain ⟨absent, rfl⟩ := field_eq_error_iff.mp (stop?_eq_some_iff.mp hstop)
      exact .missing order (fun n hn => (hpresent n).mp (hbefore n hn)) absent
    · obtain ⟨x, holds, hrefusal⟩ := Option.bind_eq_some_iff.mp hstop
      exact .refused (fun n hn => (hpresent n).mp (hall n hn)) order
        (fun n hn => (hpassed n).mp (hbefore n hn)) holds (refusal?_eq_some_iff.mp hrefusal)
  · intro h
    cases h with
    | noObject other => exact absurd rfl (other members)
    | missing order present absent =>
      refine .inl ⟨_, _, _, order, ?_, fun n hn => (hpresent n).mpr (present n hn)⟩
      exact stop?_eq_some_iff.mpr (field_eq_error_iff.mpr ⟨absent, rfl⟩)
    | refused complete order passed holds refuses =>
      refine .inr ⟨fun n hn => (hpresent n).mpr (complete n hn), _, _, _, order, ?_,
        fun n hn => (hpassed n).mpr (passed n hn)⟩
      exact Option.bind_eq_some_iff.mpr ⟨_, holds, refusal?_eq_some_iff.mpr refuses⟩

theorem decode_eq_iff {v : Json} {outcome : Except (Halt DecodeError) Record} :
    decode v = outcome ↔ Verdict v outcome := by
  cases outcome with
  | ok r =>
    rw [decode_eq_ok_iff]
    constructor
    · rintro ⟨members, time, value, labels, rfl, parts, timed, read, labelled⟩
      obtain ⟨ls, rfl, labelled⟩ := decodeLabels_eq_ok_iff.mp labelled
      have hread := decodeValue_eq_ok_iff.mp read
      exact .decoded parts timed hread (decodeMembers_eq_ok_iff.mp labelled)
    · rintro ⟨⟩
      rename_i members labels time value parts timed read labelled
      exact ⟨members, time, value, _, rfl, parts, timed, decodeValue_eq_ok_iff.mpr read,
        decodeLabels_eq_ok_iff.mpr ⟨labels, rfl, decodeMembers_eq_ok_iff.mpr labelled⟩⟩
  | error halt =>
    cases v with
    | object members => exact ofMembers_eq_error_iff
    | null | bool | number | text | array =>
      constructor
      · rintro ⟨⟩
        exact .noObject nofun
      · rintro ⟨⟩
        rfl

/-! ## Nothing else counts -/

theorem ofMembers_congr {members others : List (String × Json)}
    (h : ∀ name ∈ required, Fields.value? name members = Fields.value? name others) :
    ofMembers members = ofMembers others := by
  have hfield : ∀ name ∈ required, field members name = field others name := by
    intro name hname
    unfold field
    rw [h name hname]
  unfold ofMembers
  rw [hfield "device_id" (by decide), hfield "metric_id" (by decide),
    hfield "timestamp" (by decide), hfield "value" (by decide), hfield "labels" (by decide)]

/-- **The outcome of decoding is the verdict on the value.** It is the same for every object that
has the same required members, in whatever order and with whatever others. -/
theorem decode_precedence (v : Json) :
    (∀ outcome, decode v = outcome ↔ Verdict v outcome) ∧
    ∀ members others, v = .object members →
      (Fields.names members).Nodup → (Fields.names others).Nodup →
      (∀ name ∈ required, ∀ x, (name, x) ∈ members ↔ (name, x) ∈ others) →
      decode (.object others) = decode v := by
  refine ⟨fun outcome => decode_eq_iff, ?_⟩
  rintro members others rfl hmembers hothers hsame
  refine (ofMembers_congr fun name hname => ?_).symm
  exact Fields.value?_eq_of_mem_iff hmembers hothers (hsame name hname)

/-- The members of an object with two faults, in the order of the wire. -/
def faulty : List (String × Json) :=
  [("timestamp", .text "0000-01-01T00:00:00Z"), ("metric_id", .text "power"),
    ("device_id", .text "taurus-7"), ("value", .int (-1)), ("labels", .object [])]

/-- A time in the year 0 decides over a negative value, also if the value stands first and there is
another member. -/
theorem decode_precedence_faulty :
    Verdict (.object faulty) (.error (.fault .yearZero)) ∧
    decode (.object (("unit", .null) :: faulty.reverse)) = .error (.fault .yearZero) := by
  have hdecode : decode (.object faulty) = .error (.fault .yearZero) := by decide +kernel
  obtain ⟨hverdict, hsame⟩ := decode_precedence (.object faulty)
  refine ⟨(hverdict _).mp hdecode, ?_⟩
  rw [← hdecode]
  refine hsame _ _ rfl (by decide) (by decide) fun name hname x => ?_
  have hother : name ≠ "unit" := fun heq => absurd (heq ▸ hname) (by decide)
  rw [List.mem_cons, List.mem_reverse, Prod.mk.injEq]
  exact (or_iff_right fun h => hother h.1).symm

end Record

end MeterFeed
