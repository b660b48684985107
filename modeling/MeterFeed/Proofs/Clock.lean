import MeterFeed.Proofs.Calendar
import MeterFeed.Time.DateTime

/-!
# A clock is a date and a time of day

The date and the time of day that a clock shows exist, in the years 1 to 9999, and make up the
clock (`DateTime.ofFields?_views`); and every date of those years with every time of day is shown by
a clock (`DateTime.ofFields?_eq_some`).
-/

namespace MeterFeed

namespace TimeOfDay

theorem isValid_iff (t : TimeOfDay) : t.isValid = true ↔
    t.hour ≤ 23 ∧ t.minute ≤ 59 ∧ t.second ≤ 59 ∧ t.micro < 1000000 := by
  simp [isValid, and_assoc]

theorem micros_lt {t : TimeOfDay} (h : t.isValid = true) : t.micros < dayLength := by
  have hbounds := (isValid_iff t).mp h
  unfold micros dayLength
  omega

theorem isValid_ofMicros {n : Nat} (h : n < dayLength) : (ofMicros n).isValid = true := by
  rw [isValid_iff]
  simp only [ofMicros, dayLength] at h ⊢
  omega

theorem micros_ofMicros (n : Nat) : (ofMicros n).micros = n := by
  simp only [ofMicros, micros]
  omega

theorem ofMicros_micros {t : TimeOfDay} (h : t.isValid = true) : ofMicros t.micros = t := by
  have hbounds := (isValid_iff t).mp h
  obtain ⟨hour, minute, second, micro⟩ := t
  simp only [ofMicros, micros, mk.injEq] at hbounds ⊢
  omega

end TimeOfDay

theorem Date.bounds_of_isValid {d : Date} (h : d.isValid = true) : d.month < 100 ∧ d.day < 100 := by
  obtain ⟨hmonth, hday⟩ := (Date.isValid_iff d).mp h
  have hlength := monthLength_le d.year d.month
  omega

namespace DateTime

/-! ## What a clock shows -/

theorem day_lt (t : DateTime) : t.ticks / dayLength < 3652059 :=
  Nat.div_lt_of_lt_mul (Nat.mul_comm .. ▸ t.ticks_lt)

theorem proper_date (t : DateTime) : t.date.Proper :=
  Date.proper_ofDayNumber _

theorem year_le (t : DateTime) : t.date.year ≤ 9999 :=
  Date.year_ofDayNumber_le t.day_lt

theorem date_bounds (t : DateTime) : t.date.month < 100 ∧ t.date.day < 100 :=
  Date.bounds_of_isValid t.proper_date.2

theorem isValid_timeOfDay (t : DateTime) : t.timeOfDay.isValid = true :=
  TimeOfDay.isValid_ofMicros (Nat.mod_lt _ (by decide))

theorem ticks_eq (t : DateTime) :
    t.ticks = t.date.dayNumber * dayLength + t.timeOfDay.micros := by
  unfold date timeOfDay
  rw [Date.dayNumber_ofDayNumber, TimeOfDay.micros_ofMicros, Nat.mul_comm]
  exact (Nat.div_add_mod t.ticks dayLength).symm

/-! ## The clock that shows something -/

theorem ofTicks?_eq_some {ticks : Int} {offset : Option Int} {t : DateTime}
    (h : ofTicks? ticks offset = some t) : (t.ticks : Int) = ticks ∧ t.offset = offset := by
  unfold ofTicks? at h
  split at h
  · rename_i hrange
    cases h
    exact ⟨Int.toNat_of_nonneg hrange.1, rfl⟩
  · cases h

theorem ofTicks?_natCast {n : Nat} (h : n < clockSpan) (offset : Option Int) :
    ofTicks? n offset = some ⟨n, offset, h⟩ := by
  unfold ofTicks?
  rw [dif_pos ⟨Int.natCast_nonneg n, Int.ofNat_lt.mpr h⟩]
  rfl

/-- A date of the years 1 to 9999 and a time of day are shown by a clock. -/
theorem ofFields?_eq_some {date : Date} {time : TimeOfDay} (offset : Option Int)
    (hdate : date.Proper) (hyear : date.year ≤ 9999) (htime : time.isValid = true) :
    ∃ t, ofFields? date time offset = some t ∧ t.date = date ∧ t.timeOfDay = time ∧
      t.offset = offset := by
  have hmicros := TimeOfDay.micros_lt htime
  have hday : date.dayNumber < 3652059 := by
    have hend : Date.daysBeforeYear (date.year + 1) ≤ Date.daysBeforeYear 10000 :=
      Date.daysBeforeYear_le (by omega) (by omega)
    have hdays : Date.daysBeforeYear 10000 = 3652059 := rfl
    have := hdate.dayNumber_lt_year
    omega
  have hspan : date.dayNumber * dayLength + time.micros < clockSpan := by
    unfold dayLength at hmicros
    unfold clockSpan dayLength
    omega
  have hdiv : (date.dayNumber * dayLength + time.micros) / dayLength = date.dayNumber := by
    unfold dayLength at hmicros ⊢
    omega
  have hmod : (date.dayNumber * dayLength + time.micros) % dayLength = time.micros := by
    unfold dayLength at hmicros ⊢
    omega
  refine ⟨⟨_, offset, hspan⟩, ?_, ?_, ?_, rfl⟩
  · unfold ofFields?
    have hfields : (date.isValid && time.isValid && decide (1 ≤ date.year)) = true := by
      rw [hdate.2, htime, decide_eq_true hdate.1]
      rfl
    rw [if_pos hfields]
    exact ofTicks?_natCast hspan offset
  · show Date.ofDayNumber (_ / dayLength) = date
    rw [hdiv, Date.ofDayNumber_dayNumber hdate]
  · show TimeOfDay.ofMicros (_ % dayLength) = time
    rw [hmod, TimeOfDay.ofMicros_micros htime]

/-- **What a clock shows gives the clock back.** -/
theorem ofFields?_views (t : DateTime) : ofFields? t.date t.timeOfDay t.offset = some t := by
  obtain ⟨s, hs, hdate, htime, hoffset⟩ :=
    ofFields?_eq_some t.offset t.proper_date t.year_le t.isValid_timeOfDay
  have hticks : s.ticks = t.ticks := by
    rw [s.ticks_eq, t.ticks_eq, hdate, htime]
  rw [hs]
  cases s
  cases t
  simp only [Option.some.injEq, mk.injEq]
  exact ⟨hticks, hoffset⟩

end DateTime

end MeterFeed
