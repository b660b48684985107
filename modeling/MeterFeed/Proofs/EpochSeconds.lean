import MeterFeed.Proofs.Decoding

/-!
# Epoch seconds and time texts

A payload tells a time by an integer of seconds since the begin of 1970, or by a text. The two are
read by ways of their own: the seconds by taking a day number apart, the text by its digits.
`Epoch.Counts` says by the calendar's rule for the day after how many seconds a date and a time of
day lie after the begin of 1970, and the clock that shows them counts the same
(`Epoch.counts_iff`). So an integer is decoded exactly, and a text that is decoded too denotes the
same instant if and only if its date and time of day count that many seconds at its offset
(`Record.decodeTime_seconds`).
-/

namespace MeterFeed

namespace Epoch

def day : Date := ⟨1970, 1, 1⟩

theorem proper_day : day.Proper := by
  unfold Date.Proper
  decide

/-- A date and a time of day without microseconds lie a number of seconds after the begin of 1970 on
one clock: so many days later by the calendar, and the rest after midnight. -/
structure Counts (seconds : Int) (date : Date) (time : TimeOfDay) : Prop where
  days : ∃ days : Int, Date.DaysAfter days day date ∧
    seconds = days * 86400 + (time.hour * 3600 + time.minute * 60 + time.second : Nat)
  whole : time.micro = 0

/-- **What a clock shows counts the seconds that the clock is made of.** -/
theorem counts_iff {t : DateTime} {seconds : Int} :
    Counts seconds t.date t.timeOfDay ↔ (t.ticks : Int) = (seconds + start) * 1000000 := by
  have hdays : ∀ days : Int, Date.DaysAfter days day t.date ↔
      (t.date.dayNumber : Int) = 719162 + days := by
    intro days
    have hday : day.dayNumber = 719162 := by decide
    rw [Date.daysAfter_iff proper_day t.proper_date, hday]
    rfl
  obtain ⟨hhour, hminute, hsecond, hmicro⟩ := (TimeOfDay.isValid_iff _).mp t.isValid_timeOfDay
  have hticks := t.ticks_eq
  unfold TimeOfDay.micros dayLength at hticks
  have hstart : start = 62135596800 := rfl
  constructor
  · rintro ⟨⟨days, hafter, rfl⟩, hwhole⟩
    rw [hdays] at hafter
    omega
  · intro h
    refine ⟨⟨t.date.dayNumber - 719162, ?_, ?_⟩, ?_⟩
    · rw [hdays]
      omega
    · omega
    · omega

theorem time?_int_eq_some_iff {n : Int} {t : DateTime} : time? (.int n) = some t ↔
    t.offset = some 0 ∧ (t.ticks : Int) = (n + start) * 1000000 := by
  show ofSecondsAndMicros? n 0 = some t ↔ _
  unfold ofSecondsAndMicros?
  rw [Int.add_zero]
  constructor
  · intro h
    exact (DateTime.ofTicks?_eq_some h).symm
  · rintro ⟨hoffset, hticks⟩
    rw [← hticks, DateTime.ofTicks?_natCast t.ticks_lt, ← hoffset]

theorem exists_time?_int_iff {n : Int} :
    (∃ t, time? (.int n) = some t) ↔ -62135596800 ≤ n ∧ n ≤ 253402300799 := by
  have hstart : start = 62135596800 := rfl
  have hspan : clockSpan = 315537897600000000 := rfl
  constructor
  · rintro ⟨t, ht⟩
    have hticks := (time?_int_eq_some_iff.mp ht).2
    have hto := t.ticks_lt
    omega
  · rintro ⟨hfrom, hto⟩
    refine ⟨⟨((n + start) * 1000000).toNat, some 0, by omega⟩, time?_int_eq_some_iff.mpr ⟨rfl, ?_⟩⟩
    exact Int.toNat_of_nonneg (by omega)

end Epoch

namespace Record

variable {n : Int} {t : DateTime}

theorem decodeTime_int_eq_ok_iff :
    decodeTime (.number (.int n)) = .ok t ↔ Epoch.time? (.int n) = some t := by
  unfold decodeTime
  cases htime : Epoch.time? (.int n) <;> simp [htime]

theorem decodeTime_int_eq_error_iff : decodeTime (.number (.int n)) =
    .error (.error (.badTime (.epochOutOfRange (.int n)))) ↔ ¬ ∃ t, Epoch.time? (.int n) = some t := by
  unfold decodeTime
  cases htime : Epoch.time? (.int n) <;> simp [htime]

theorem decodeTime_text_eq_ok_iff {text : String} :
    decodeTime (.text text) = .ok t ↔ Rfc3339.read text.toList = .time t := by
  unfold decodeTime
  cases hread : Rfc3339.read text.toList <;> simp [hread]

theorem isBefore_of_decodeTime_int {m : Int} {s : DateTime}
    (hs : decodeTime (.number (.int m)) = .ok s) (ht : decodeTime (.number (.int n)) = .ok t) :
    s.isBefore t = .ok (decide (m < n)) := by
  obtain ⟨hsoffset, hsticks⟩ := Epoch.time?_int_eq_some_iff.mp (decodeTime_int_eq_ok_iff.mp hs)
  obtain ⟨htoffset, htticks⟩ := Epoch.time?_int_eq_some_iff.mp (decodeTime_int_eq_ok_iff.mp ht)
  have hkeys : s.orderKey < t.orderKey ↔ m < n := by
    simp only [DateTime.orderKey, DateTime.instant?, hsoffset, htoffset, hsticks, htticks,
      Option.map_some, Option.getD_some]
    omega
  have haware : (s.offset.isSome == t.offset.isSome) = true := by rw [hsoffset, htoffset]; rfl
  unfold DateTime.isBefore
  rw [if_pos haware, decide_eq_decide.mpr hkeys]

/-- A time with an offset denotes the instant of a number of epoch seconds if what its clock shows
counts them at that offset. -/
theorem instant?_eq_iff {u : DateTime} {seconds : Int}
    (ht : decodeTime (.number (.int n)) = .ok t) (hoffset : u.offset = some (seconds * 1000000)) :
    u.instant? = t.instant? ↔ Epoch.Counts (n + seconds) u.date u.timeOfDay := by
  obtain ⟨htoffset, htticks⟩ := Epoch.time?_int_eq_some_iff.mp (decodeTime_int_eq_ok_iff.mp ht)
  rw [Epoch.counts_iff]
  simp only [DateTime.instant?, hoffset, htoffset, htticks, Option.map_some, Option.some.injEq]
  omega

/-- **Epoch seconds are exact, and agree with time texts.** An integer is decoded if it lies in the
years 1 to 9999, and refused otherwise. The time is one in UTC, with the date and the time of day
that lie so many seconds after the begin of 1970, and more seconds give a later time. A text that is
decoded gives the same instant if and only if what is written in it counts these seconds, at the
whole seconds of the offset that is written. -/
theorem decodeTime_seconds (n : Int) :
    ((∃ t, decodeTime (.number (.int n)) = .ok t) ↔ -62135596800 ≤ n ∧ n ≤ 253402300799) ∧
    (decodeTime (.number (.int n)) = .error (.error (.badTime (.epochOutOfRange (.int n)))) ↔
      ¬ (-62135596800 ≤ n ∧ n ≤ 253402300799)) ∧
    ∀ t, decodeTime (.number (.int n)) = .ok t →
      (t.offset = some 0 ∧ Epoch.Counts n t.date t.timeOfDay) ∧
      (∀ m s, decodeTime (.number (.int m)) = .ok s → s.isBefore t = .ok (decide (m < n))) ∧
      ∀ text u, decodeTime (.text text) = .ok u → ∃ seconds : Int,
        u.offset = some (seconds * 1000000) ∧
        Rfc3339.Denotes text.toList u.date u.timeOfDay (seconds * 1000000) ∧
        (u.instant? = t.instant? ↔ Epoch.Counts (n + seconds) u.date u.timeOfDay) := by
  refine ⟨?_, ?_, fun t ht => ⟨?_, fun m s hs => isBefore_of_decodeTime_int hs ht, ?_⟩⟩
  · simp only [decodeTime_int_eq_ok_iff]
    exact Epoch.exists_time?_int_iff
  · rw [decodeTime_int_eq_error_iff, Epoch.exists_time?_int_iff]
  · obtain ⟨hoffset, hticks⟩ := Epoch.time?_int_eq_some_iff.mp (decodeTime_int_eq_ok_iff.mp ht)
    exact ⟨hoffset, Epoch.counts_iff.mpr hticks⟩
  · intro text u hu
    obtain ⟨offset, hoffset, hdenotes⟩ :=
      Rfc3339.read_eq_time_iff.mp (decodeTime_text_eq_ok_iff.mp hu)
    obtain ⟨seconds, rfl⟩ := hdenotes.exists_seconds
    exact ⟨seconds, hoffset, hdenotes, instant?_eq_iff ht hoffset⟩

/-- The last second before 1970, and a text for it from an hour ahead. -/
theorem decodeTime_seconds_before_epoch : ∃ t u, decodeTime (.number (.int (-1))) = .ok t ∧
    decodeTime (.text "1970-01-01T00:59:59+01:00") = .ok u ∧
      Epoch.Counts (-1) t.date t.timeOfDay ∧ u.instant? = t.instant? := by
  let t : DateTime := ⟨62135596799000000, some 0, by decide⟩
  let u : DateTime := ⟨62135600399000000, some 3600000000, by decide⟩
  have ht : decodeTime (.number (.int (-1))) = .ok t := by decide
  have hu : decodeTime (.text "1970-01-01T00:59:59+01:00") = .ok u := by decide +kernel
  obtain ⟨⟨-, hcounts⟩, -, htext⟩ := (decodeTime_seconds (-1)).2.2 t ht
  obtain ⟨seconds, hoffset, -, hsame⟩ := htext _ u hu
  obtain rfl : 3600 = seconds := by
    have heq := Option.some.inj hoffset
    omega
  have hday : Date.DaysAfter 0 Epoch.day u.date := by
    unfold Date.DaysAfter
    decide
  exact ⟨t, u, ht, hu, hcounts, hsame.mpr ⟨⟨0, hday, by decide⟩, by decide⟩⟩

end Record

end MeterFeed
