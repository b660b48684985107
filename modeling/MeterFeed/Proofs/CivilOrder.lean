import MeterFeed.Proofs.Clock
import MeterFeed.Proofs.Decimal
import MeterFeed.Time.ApiTime

/-!
# Civil times in the order of their texts

A query writes an instant as a civil time, to the second below. The civil time is the instant two
hours on (`DateTime.atOffset_ticks`); from the year 1000 on all of its texts have one length, and they
are in the order of the instants (`ApiTime.text_le_text`).
-/

namespace MeterFeed

namespace DateTime

/-! ## Three numbers with a separator between them -/

def triple (separator : Char) (w a b c : Nat) : List Char :=
  padded w a ++ separator :: padded 2 b ++ separator :: padded 2 c

theorem length_triple {separator : Char} {w a b c : Nat} (hw : 0 < w) (ha : a < 10 ^ w)
    (hb : b < 100) (hc : c < 100) : (triple separator w a b c).length = w + 6 := by
  unfold triple
  rw [List.length_append, List.length_append, List.length_cons, List.length_cons,
    length_padded hw ha, length_padded (by decide) hb, length_padded (by decide) hc]

theorem triple_lt_triple {separator : Char} {w a b c a' b' c' : Nat} (hw : 0 < w)
    (ha' : a' < 10 ^ w) (hb' : b' < 100) (hc' : c' < 100)
    (h : a < a' ∨ a = a' ∧ (b < b' ∨ b = b' ∧ c < c')) :
    triple separator w a b c < triple separator w a' b' c' := by
  unfold triple
  simp only [List.append_assoc, List.cons_append]
  rcases h with ha | ⟨rfl, hb | ⟨rfl, hc⟩⟩
  · refine append_lt_append ?_ (padded_lt_padded hw ha ha') _ _
    rw [length_padded hw (Nat.lt_trans ha ha'), length_padded hw ha']
  · refine List.append_left_lt (List.cons_lt_cons_iff.mpr (.inr ⟨rfl, ?_⟩))
    refine append_lt_append ?_ (padded_lt_padded (by decide) hb hb') _ _
    rw [length_padded (by decide) (Nat.lt_trans hb hb'), length_padded (by decide) hb']
  · refine List.append_left_lt (List.cons_lt_cons_iff.mpr (.inr ⟨rfl, ?_⟩))
    refine List.append_left_lt (List.cons_lt_cons_iff.mpr (.inr ⟨rfl, ?_⟩))
    exact padded_lt_padded (by decide) hc hc'

theorem digits_eq_padded {n : Nat} (hfrom : 1000 ≤ n) (hto : n < 10000) :
    Layout.digits n = padded 4 n := by
  have hlength : ¬ (Layout.digits n).length ≤ 3 := by
    unfold Layout.digits
    rw [Nat.length_toDigits_le_iff (by decide) (by decide)]
    omega
  unfold padded Layout.padded
  rw [Nat.sub_eq_zero_of_le (by omega)]
  rfl

/-! ## Instants -/

def NotAfter (a b : DateTime) : Prop :=
  ∃ i j, a.instant? = some i ∧ b.instant? = some j ∧ i ≤ j

theorem NotAfter.trans {a b c : DateTime} (hab : a.NotAfter b) (hbc : b.NotAfter c) :
    a.NotAfter c := by
  obtain ⟨i, j, ha, hb, hij⟩ := hab
  obtain ⟨j', k, hb', hc, hjk⟩ := hbc
  obtain rfl : j = j' := Option.some.inj (hb.symm.trans hb')
  exact ⟨i, k, ha, hc, Int.le_trans hij hjk⟩

theorem notAfter_of_orderKey {a b : DateTime} (ha : a.offset.isSome) (hb : b.offset.isSome)
    (h : a.orderKey ≤ b.orderKey) : a.NotAfter b := by
  obtain ⟨x, hx⟩ := Option.isSome_iff_exists.mp ha
  obtain ⟨y, hy⟩ := Option.isSome_iff_exists.mp hb
  refine ⟨_, _, congrArg (Option.map _) hx, congrArg (Option.map _) hy, ?_⟩
  simpa [orderKey, instant?, hx, hy] using h

/-- The clock of another offset shows an instant that lies in the calendar of both clocks, that of
UTC and its own. -/
theorem atOffset_eq {t : DateTime} {i : Int} (hi : t.instant? = some i) (offset : Int) :
    t.atOffset offset =
      match (ofTicks? i (some 0)).bind fun _ => ofTicks? (i + offset) (some offset) with
      | some civil => .ok civil
      | none => .error .dateOutOfRange := by
  unfold atOffset toUtc
  rw [hi]
  dsimp only
  cases hutc : ofTicks? i (some 0) with
  | none => rfl
  | some utc =>
    obtain rfl : (utc.ticks : Int) = i := (ofTicks?_eq_some hutc).1
    rfl

theorem atOffset_ticks {t civil : DateTime} {offset i : Int} (hi : t.instant? = some i)
    (h : t.atOffset offset = .ok civil) : (civil.ticks : Int) = i + offset := by
  rw [atOffset_eq hi] at h
  split at h
  · rename_i hshown
    cases h
    obtain ⟨-, -, hcivil⟩ := Option.bind_eq_some_iff.mp hshown
    exact (ofTicks?_eq_some hcivil).1
  · cases h

/-! ## Seconds -/

theorem date_eq_date {a b : DateTime} (h : a.ticks / second = b.ticks / second) :
    a.date = b.date := by
  have hday : a.ticks / dayLength = b.ticks / dayLength := by
    simp only [second, dayLength] at h ⊢
    omega
  unfold date
  rw [hday]

/-- An earlier second lies on an earlier day, or on the same day at an earlier time. -/
theorem before_of_second_lt {a b : DateTime} (h : a.ticks / second < b.ticks / second) :
    a.date.Before b.date ∨ a.date = b.date ∧
      (a.timeOfDay.hour < b.timeOfDay.hour ∨ a.timeOfDay.hour = b.timeOfDay.hour ∧
        (a.timeOfDay.minute < b.timeOfDay.minute ∨ a.timeOfDay.minute = b.timeOfDay.minute ∧
          a.timeOfDay.second < b.timeOfDay.second)) := by
  rcases Nat.lt_trichotomy (a.ticks / dayLength) (b.ticks / dayLength) with hlt | heq | hgt
  · exact .inl (Date.before_ofDayNumber hlt)
  · refine .inr ⟨congrArg Date.ofDayNumber heq, ?_⟩
    simp only [timeOfDay, TimeOfDay.ofMicros, second, dayLength] at h heq ⊢
    omega
  · simp only [second, dayLength] at h hgt
    omega

end DateTime

namespace ApiTime

open DateTime

/-! ## The text of a civil time -/

theorem write_eq {t : DateTime} (h : 1000 ≤ t.date.year) : write t =
    triple '-' 4 t.date.year t.date.month t.date.day ++
      'T' :: triple ':' 2 t.timeOfDay.hour t.timeOfDay.minute t.timeOfDay.second := by
  unfold write
  dsimp only
  rw [digits_eq_padded h (Nat.lt_succ_of_le t.year_le)]
  rfl

theorem write_eq_write {a b : DateTime} (h : a.ticks / second = b.ticks / second) :
    write a = write b := by
  have htime : writeTime a.timeOfDay = writeTime b.timeOfDay := by
    have hhour : a.timeOfDay.hour = b.timeOfDay.hour := by
      simp only [timeOfDay, TimeOfDay.ofMicros, second, dayLength] at h ⊢
      omega
    have hminute : a.timeOfDay.minute = b.timeOfDay.minute := by
      simp only [timeOfDay, TimeOfDay.ofMicros, second, dayLength] at h ⊢
      omega
    have hsecond : a.timeOfDay.second = b.timeOfDay.second := by
      simp only [timeOfDay, TimeOfDay.ofMicros, second, dayLength] at h ⊢
      omega
    unfold writeTime
    rw [hhour, hminute, hsecond]
  unfold write
  rw [date_eq_date h, htime]

/-- From the year 1000 on, texts are in the order of their seconds. -/
theorem write_lt_write {a b : DateTime} (hyear : 1000 ≤ a.date.year)
    (h : a.ticks / second < b.ticks / second) : write a < write b := by
  obtain ⟨hmonth, hday⟩ := b.date_bounds
  have hmonth' := a.date_bounds
  have hbefore := before_of_second_lt h
  have hyear' : a.date.year ≤ b.date.year := by
    rcases hbefore with (hlt | ⟨heq, -⟩) | ⟨heq, -⟩
    · exact Nat.le_of_lt hlt
    · exact Nat.le_of_eq heq
    · exact Nat.le_of_eq (congrArg Date.year heq)
  have hto : b.date.year < 10 ^ 4 := Nat.lt_succ_of_le b.year_le
  rw [write_eq hyear, write_eq (Nat.le_trans hyear hyear')]
  rcases hbefore with hdate | ⟨hdate, htime⟩
  · refine append_lt_append ?_ (triple_lt_triple (by decide) hto hmonth hday hdate) _ _
    rw [length_triple (by decide) (Nat.lt_of_le_of_lt hyear' hto) hmonth'.1 hmonth'.2,
      length_triple (by decide) hto hmonth hday]
  · obtain ⟨hhours, hminutes, hseconds, -⟩ := (TimeOfDay.isValid_iff _).mp b.isValid_timeOfDay
    rw [hdate]
    refine List.append_left_lt (List.cons_lt_cons_iff.mpr (.inr ⟨rfl, ?_⟩))
    exact triple_lt_triple (by decide) (by omega) (by omega) (by omega) htime

/-! ## The text of an instant -/

theorem ofList_le_ofList {xs ys : List Char} (h : xs = ys ∨ xs < ys) :
    String.ofList xs ≤ String.ofList ys := by
  rcases h with rfl | hlt
  · exact String.le_refl _
  · refine String.lt_asymm ?_
    show (String.ofList xs).toList < (String.ofList ys).toList
    rwa [String.toList_ofList, String.toList_ofList]

theorem text_eq_ok {t : DateTime} {s : String} (h : text t = .ok s) :
    ∃ civil, t.atOffset offset = .ok civil ∧ s = String.ofList (write civil) := by
  unfold text at h
  cases hcivil : t.atOffset offset with
  | error fault =>
    rw [hcivil] at h
    cases h
  | ok civil =>
    rw [hcivil] at h
    cases h
    exact ⟨civil, rfl, rfl⟩

def HasFullYear (t : DateTime) : Prop :=
  ∀ civil, t.atOffset offset = .ok civil → 1000 ≤ civil.date.year

/-- **From the year 1000 on, texts are in the order of their instants.** -/
theorem text_le_text {a b : DateTime} {s t : String} (h : a.NotAfter b) (ha : text a = .ok s)
    (hb : text b = .ok t) (hyear : HasFullYear a) : s ≤ t := by
  obtain ⟨i, j, hi, hj, hij⟩ := h
  obtain ⟨ca, hca, rfl⟩ := text_eq_ok ha
  obtain ⟨cb, hcb, rfl⟩ := text_eq_ok hb
  have hticks : ca.ticks ≤ cb.ticks := by
    have := atOffset_ticks hi hca
    have := atOffset_ticks hj hcb
    omega
  refine ofList_le_ofList ?_
  rcases Nat.eq_or_lt_of_le (Nat.div_le_div_right (c := second) hticks) with heq | hlt
  · exact .inl (write_eq_write heq)
  · exact .inr (write_lt_write (hyear ca hca) hlt)

end ApiTime

end MeterFeed
