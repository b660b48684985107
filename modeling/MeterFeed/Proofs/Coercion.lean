import Mathlib.Data.Rat.Floor
import MeterFeed.Proofs.Emission
import MeterFeed.Proofs.Precedence

/-!
# Points are well typed

A record becomes a point of its metric. What the value of the point is, is told from the exact value
of the record's value, a rational number (`Number.rational?`): a metric of naturals stores its
integer part, and refuses what has no value, is negative or has more than 64 bits
(`Number.toUnsigned_stores`); a metric of doubles stores any value. The attributes are the labels of
the record without the origin, and the name of the metric (`Mapper.Describes`).

`Mapper.map_exact` says of every record that was decoded when it is dropped, and what its point is
if it is not.
-/

namespace MeterFeed

/-! ## The exact value of a number -/

/-- The exact value of a double; infinities and what is no number have none. -/
def Binary64.rational? : Binary64 → Option ℚ
  | .finite negative m e => some ((if negative then -1 else 1) * m * (2 : ℚ) ^ e)
  | _ => none

def Number.rational? : Number → Option ℚ
  | .int n => some n
  | .real x => x.rational?

theorem two_zpow_eq_div (e : ℤ) : (2 : ℚ) ^ e = (2 ^ e.toNat : ℕ) / (2 ^ (-e).toNat : ℕ) := by
  conv_lhs => rw [← Int.toNat_sub_toNat_neg e]
  rw [zpow_sub₀ two_ne_zero, zpow_natCast, zpow_natCast]
  push_cast
  rfl

namespace Number

theorem rational?_eq (n : Number) :
    n.rational? = n.ratio?.map fun ratio => (ratio.1 : ℚ) / ratio.2 := by
  cases n with
  | int k =>
    show some (k : ℚ) = some ((k : ℚ) / (1 : ℕ))
    rw [Nat.cast_one, div_one]
  | real x =>
    cases x with
    | nan | inf => rfl
    | finite negative m e =>
      show some _ = some _
      rw [two_zpow_eq_div, ← mul_div_assoc]
      cases negative <;> push_cast <;> simp

theorem ratio?_den_pos {n : Number} {num : Int} {den : Nat} (h : n.ratio? = some (num, den)) :
    0 < den := by
  cases n with
  | int k =>
    cases h
    exact Nat.one_pos
  | real x =>
    cases x with
    | nan | inf => cases h
    | finite negative m e =>
      cases h
      exact Nat.two_pow_pos _

/-! ## Values of metrics -/

/-- What a number comes to as a natural of 64 bits. -/
inductive Stores (n : Number) : Except (Halt MapError) Number → Prop where
  | notFinite (valueless : n.rational? = none) : Stores n (.error (.error (.notFinite n)))
  | outOfRange {q : ℚ} (value : n.rational? = some q) (out : q < 0 ∨ unsignedMax < q) :
    Stores n (.error (.error (.outOfRange n)))
  | integerPart {q : ℚ} (value : n.rational? = some q) (nonneg : 0 ≤ q) (fits : q ≤ unsignedMax) :
    Stores n (.ok (.int ⌊q⌋))

theorem toUnsigned_stores (n : Number) : n.Stores n.toUnsigned := by
  have hvalue := n.rational?_eq
  unfold toUnsigned
  cases hratio : n.ratio? with
  | none =>
    rw [hratio] at hvalue
    exact .notFinite hvalue
  | some ratio =>
    obtain ⟨num, den⟩ := ratio
    rw [hratio] at hvalue
    have hden : (0 : ℚ) < den := Nat.cast_pos.mpr (ratio?_den_pos hratio)
    have hnegative : (num : ℚ) / den < 0 ↔ num < 0 := by
      rw [div_lt_iff₀ hden, zero_mul, Int.cast_lt_zero]
    have hlarge : (unsignedMax : ℚ) < num / den ↔ (unsignedMax : Int) * den < num := by
      rw [lt_div_iff₀ hden]
      exact_mod_cast Iff.rfl
    dsimp only
    split
    · rename_i hout
      exact .outOfRange hvalue (hout.imp hnegative.mpr hlarge.mpr)
    · rename_i hfits
      obtain ⟨hnonneg, hmax⟩ := not_or.mp hfits
      have hpart : num.tdiv den = ⌊(num : ℚ) / den⌋ := by
        rw [Rat.floor_intCast_div_natCast, Int.tdiv_eq_ediv_of_nonneg (not_lt.mp hnonneg)]
      rw [hpart]
      exact .integerPart hvalue (not_lt.mp (hnegative.not.mpr hnonneg))
        (not_lt.mp (hlarge.not.mpr hmax))

theorem stored_of_toUnsigned {n value : Number} (h : n.toUnsigned = .ok value) :
    ∃ (q : ℚ) (k : Int), n.rational? = some q ∧ value = .int k ∧ k = ⌊q⌋ ∧ 0 ≤ k ∧
      k ≤ unsignedMax ∧ ∀ m, n = .int m → value = n := by
  have hstores := h ▸ n.toUnsigned_stores
  cases hstores with
  | @integerPart q value nonneg fits =>
    refine ⟨q, ⌊q⌋, value, rfl, rfl, Int.floor_nonneg.mpr nonneg, ?_, ?_⟩
    · exact Int.floor_le_iff.mpr (by push_cast; linarith)
    · rintro m rfl
      cases value
      rw [Int.floor_intCast]

theorem reading?_int {n : Number} {k : Int} (h : n.reading? = .ok (some (.int k))) :
    0 ≤ k ∧ k ≤ unsignedMax := by
  cases reading?_eq_iff.mp h with
  | natural nonneg fits => exact ⟨nonneg, fits⟩

end Number

/-! ## Attributes -/

/-- A boolean, a double, a text or a natural of 64 bits. -/
def Label.Typed : Label → Prop
  | .number (.int n) => 0 ≤ n ∧ n ≤ Number.unsignedMax
  | _ => True

theorem Label.typed_of_decode {x : Json} {label : Label} (h : Label.decode x = .ok label) :
    label.Typed := by
  cases x with
  | number n =>
    obtain ⟨reading, hreading, rfl⟩ := Label.decode_number_eq_ok_iff.mp h
    cases reading with
    | int k => exact Number.reading?_int hreading
    | real x => trivial
  | bool | text | array =>
    cases h
    trivial
  | null | object => cases h

theorem Record.typed_of_decodeMembers {members : List (String × Json)} {labels : Fields Label}
    (h : decodeMembers members = .ok labels) : ∀ field ∈ labels, field.2.Typed := by
  have heach := decodeMembers_eq_ok_iff.mp h
  clear h
  induction heach with
  | nil => exact nofun
  | cons hlabel _ ih => exact List.forall_mem_cons.mpr ⟨Label.typed_of_decode hlabel.2, ih⟩

theorem Record.typed_of_decode {v : Json} {r : Record} (h : decode v = .ok r) :
    ∀ field ∈ r.labels, field.2.Typed := by
  obtain ⟨members, time, value, labels, -, -, -, -, hlabels⟩ := decode_eq_ok_iff.mp h
  obtain ⟨ms, -, hlabels⟩ := decodeLabels_eq_ok_iff.mp hlabels
  exact typed_of_decodeMembers hlabels

namespace Mapper

/-- True of the records that are dropped: their metric is not in the table, or it is one of naturals
and their value is not finite, negative or too large. -/
def Drops (mapper : Mapper) (r : Record) : Prop :=
  Fields.value? r.metricId mapper.table = none ∨
    ∃ metric, Fields.value? r.metricId mapper.table = some metric ∧
      metric.valueType = .unsigned ∧
      ∀ q, r.value.rational? = some q → q < 0 ∨ Number.unsignedMax < q

/-- What the attributes of a record are: the labels but for the origin, and the name of the metric,
which takes the place of a label of that name. -/
structure Annotates (r : Record) (annotations : Fields Label) : Prop where
  typed : ∀ a ∈ annotations, a.2.Typed
  values : ∀ name, Fields.value? name annotations =
    if name = metricAttribute then some (.text r.metricId)
    else if name = originLabel then none
    else Fields.value? name r.labels
  names : Fields.names annotations =
    let others := (Fields.names r.labels).filter (· != originLabel)
    if metricAttribute ∈ others then others else others ++ [metricAttribute]

/-- What the point of a record is. -/
structure Describes (mapper : Mapper) (r : Record) (p : Point) : Prop where
  metric : Fields.value? r.metricId mapper.table = some p.metric
  /-- A metric of doubles holds the value, or the double next to it if it is an integer. -/
  real : p.metric.valueType = .real → ∃ x, p.value = .real x ∧ r.value.toReal? = .ok x
  /-- A metric of naturals holds the integer part of the value, so the value if it is an integer. -/
  unsigned : p.metric.valueType = .unsigned → ∃ (q : ℚ) (n : Int), r.value.rational? = some q ∧
    p.value = .int n ∧ n = ⌊q⌋ ∧ 0 ≤ n ∧ n ≤ Number.unsignedMax ∧
    ∀ k, r.value = .int k → p.value = r.value
  attributes : Annotates r p.attributes

theorem value?_attributes (r : Record) (name : String) :
    Fields.value? name (attributes r) =
      if name = metricAttribute then some (.text r.metricId)
      else if name = originLabel then none
      else Fields.value? name r.labels := by
  unfold attributes
  split
  · subst name
    exact Fields.value?_put_self _ _ _
  · rename_i hmetric
    rw [Fields.value?_put_of_ne hmetric]
    split
    · subst name
      exact Fields.value?_without_self _ _
    · rename_i horigin
      exact Fields.value?_without_of_ne horigin _

theorem annotates_attributes {v : Json} {r : Record} (h : Record.decode v = .ok r) :
    Annotates r (attributes r) where
  typed := by
    intro a hmem
    rcases Fields.eq_or_mem_of_mem_put hmem with rfl | hlabel
    · trivial
    · exact Record.typed_of_decode h _ (List.mem_filter.mp hlabel).1
  values := value?_attributes r
  names := by
    unfold attributes
    rw [Fields.names_put, Fields.names_without]

/-! ## Mapping -/

section

variable {mapper : Mapper} {r : Record} {metric : Metric}

theorem map_of_unfit (table : Fields.value? r.metricId mapper.table = some metric)
    {halt : Halt MapError} (unfit : r.value.fit metric.valueType = .error halt)
    (time : DateTime) : mapper.map r time = .error halt := by
  unfold map
  rw [table]
  dsimp only
  rw [unfit]

theorem map_of_fit (table : Fields.value? r.metricId mapper.table = some metric) {value : Number}
    (fits : r.value.fit metric.valueType = .ok value) (time : DateTime) :
    ∃ p, mapper.map r time = .ok p ∧ p.metric = metric ∧ p.value = value ∧
      p.attributes = attributes r := by
  unfold map
  rw [table]
  dsimp only
  rw [fits]
  exact ⟨_, rfl, rfl, rfl, rfl⟩

theorem drops_iff (table : Fields.value? r.metricId mapper.table = some metric) :
    mapper.Drops r ↔ metric.valueType = .unsigned ∧
      ∀ q, r.value.rational? = some q → q < 0 ∨ Number.unsignedMax < q := by
  unfold Drops
  simp [table]

theorem map_real (htable : Fields.value? r.metricId mapper.table = some metric)
    (htype : metric.valueType = .real) {v : Json} (h : Record.decode v = .ok r)
    (time : DateTime) :
    ∃ p, mapper.map r time = .ok p ∧ ¬ mapper.Drops r ∧ mapper.Describes r p := by
  obtain ⟨x, hx⟩ := Record.toReal?_of_decode h
  have hfit : r.value.fit metric.valueType = .ok (.real x) := by
    rw [htype]
    show r.value.toDouble = _
    unfold Number.toDouble
    rw [hx]
  obtain ⟨p, hp, rfl, hvalue, hattributes⟩ := map_of_fit htable hfit time
  refine ⟨p, hp, ?_, htable, fun _ => ⟨x, hvalue, hx⟩, ?_, hattributes ▸ annotates_attributes h⟩
  · rw [drops_iff htable, htype]
    exact fun hdrops => nomatch hdrops.1
  · rw [htype]
    exact nofun

theorem map_unsigned (htable : Fields.value? r.metricId mapper.table = some metric)
    (htype : metric.valueType = .unsigned) {v : Json} (h : Record.decode v = .ok r)
    (time : DateTime) :
    (∃ e, mapper.map r time = .error (.error e) ∧ mapper.Drops r) ∨
      ∃ p, mapper.map r time = .ok p ∧ ¬ mapper.Drops r ∧ mapper.Describes r p := by
  have hfit : r.value.fit metric.valueType = r.value.toUnsigned := by rw [htype]; rfl
  rcases hstored : r.value.toUnsigned with halt | value
  · have hunfit := map_of_unfit htable (hfit.trans hstored) time
    have hstores := hstored ▸ r.value.toUnsigned_stores
    refine .inl ?_
    rw [drops_iff htable]
    cases hstores with
    | notFinite valueless =>
      exact ⟨_, hunfit, htype, fun q hq => nomatch valueless.symm.trans hq⟩
    | outOfRange value out =>
      exact ⟨_, hunfit, htype, fun q hq => Option.some.inj (value.symm.trans hq) ▸ out⟩
  · obtain ⟨p, hp, rfl, hvalue, hattributes⟩ := map_of_fit htable (hfit.trans hstored) time
    have hholds := Number.stored_of_toUnsigned hstored
    have hstores := hstored ▸ r.value.toUnsigned_stores
    refine .inr ⟨p, hp, ?_, htable, ?_, fun _ => hvalue ▸ hholds,
      hattributes ▸ annotates_attributes h⟩
    · rw [drops_iff htable]
      rintro ⟨-, hout⟩
      cases hstores with
      | integerPart value nonneg fits =>
        rcases hout _ value with hnegative | hlarge
        · exact absurd hnegative (not_lt.mpr nonneg)
        · exact absurd hlarge (not_lt.mpr fits)
    · rw [htype]
      exact nofun

/-- A record that was decoded is dropped or described by its point. -/
theorem map_cases {v : Json} (h : Record.decode v = .ok r) (mapper : Mapper) (time : DateTime) :
    (∃ e, mapper.map r time = .error (.error e) ∧ mapper.Drops r) ∨
      ∃ p, mapper.map r time = .ok p ∧ ¬ mapper.Drops r ∧ mapper.Describes r p := by
  cases htable : Fields.value? r.metricId mapper.table with
  | none =>
    refine .inl ⟨.unknownMetric r.metricId, ?_, .inl htable⟩
    unfold map
    rw [htable]
  | some metric =>
    cases htype : metric.valueType with
    | real => exact .inr (map_real htable htype h time)
    | unsigned => exact map_unsigned htable htype h time

end

/-- **Records that were decoded are dropped or become well-typed points.** A record is dropped
exactly if its metric is not in the table, or is one of naturals and the value is not finite,
negative or too large. Nothing else stops a record, and its point is the one described. -/
theorem map_exact {v : Json} {r : Record} (h : Record.decode v = .ok r) (mapper : Mapper)
    (time : DateTime) :
    ((∃ e, mapper.map r time = .error (.error e)) ↔ mapper.Drops r) ∧
    (∀ f, mapper.map r time ≠ .error (.fault f)) ∧
    (¬ mapper.Drops r → ∃ p, mapper.map r time = .ok p) ∧
    ∀ p, mapper.map r time = .ok p → mapper.Describes r p := by
  refine ⟨?_, map_ne_fault h mapper time, ?_⟩
  · rcases map_cases h mapper time with ⟨e, hmap, hdrops⟩ | ⟨p, hmap, hkept, -⟩
    · exact iff_of_true ⟨e, hmap⟩ hdrops
    · refine iff_of_false ?_ hkept
      rintro ⟨e, herror⟩
      exact nomatch hmap.symm.trans herror
  · rcases map_cases h mapper time with ⟨e, hmap, hdrops⟩ | ⟨p, hmap, -, hdescribes⟩
    · refine ⟨fun hkept => absurd hdrops hkept, fun p hp => ?_⟩
      exact nomatch hmap.symm.trans hp
    · refine ⟨fun _ => ⟨p, hmap⟩, fun p' hp' => ?_⟩
      exact Except.ok.inj (hmap.symm.trans hp') ▸ hdescribes

namespace Sample

/-- A record of a negative zero, with labels of the two names that mean something to points. -/
def measure : Json :=
  .object [("device_id", .text "taurus-7"), ("metric_id", .text "power"),
    ("timestamp", .text "2025-07-21T16:15:31+02:00"), ("value", .real (.zero true)),
    ("labels", .object [("metric_id", .bool true), ("_device_orig", .text "port6"),
      ("slot", .int (2 ^ 64 - 1))])]

def mapper : Mapper := ⟨[("power", ⟨0, "power", .unsigned, "", ""⟩)], false⟩

end Sample

open Sample in
/-- A negative zero is stored as zero; the name of the metric replaces the label of its name. -/
theorem map_exact_negative_zero : ∃ r p, Record.decode measure = .ok r ∧
    mapper.map r r.time = .ok p ∧ mapper.Describes r p ∧ p.value = .int 0 ∧
    p.attributes = [("metric_id", .text "power"), ("slot", .number (.int (2 ^ 64 - 1)))] := by
  have hpoint : ((Record.decode measure).toOption.bind fun r =>
      (mapper.map r r.time).toOption.map fun p => (p.value, p.attributes)) =
      some (.int 0, [("metric_id", .text "power"), ("slot", .number (.int (2 ^ 64 - 1)))]) := by
    decide +kernel
  obtain ⟨r, hr, hpoint⟩ := Option.bind_eq_some_iff.mp hpoint
  obtain ⟨p, hp, hpoint⟩ := Option.map_eq_some_iff.mp hpoint
  have hdecode := toOption_eq_some_iff.mp hr
  have hmap := toOption_eq_some_iff.mp hp
  obtain ⟨hvalue, hattributes⟩ := Prod.mk.inj hpoint
  exact ⟨r, p, hdecode, hmap, (map_exact hdecode mapper r.time).2.2.2 p hmap, hvalue, hattributes⟩

end Mapper

end MeterFeed
