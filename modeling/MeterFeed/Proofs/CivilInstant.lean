import MeterFeed.Proofs.Arming
import MeterFeed.Proofs.CivilOrder
import MeterFeed.Proofs.Grammar

/-!
# The civil time of an instant

The time texts of queries say nothing about the offset that a time came with: the text depends on
the instant alone. With zeros in front of the year and the offset behind it the text is a time text
as any other, and is read back as the instant, rounded down to the second (`ApiTime.civil?_of_text`);
so two texts are equal if and only if their instants lie in one second (`ApiTime.text_eq_text_iff`).
Together with the range of the instants that are shown and with the order of the texts this makes
up `ApiTime.text_of_instant`.
-/

namespace MeterFeed

namespace ApiTime

open DateTime

/-! ## Reading a civil time -/

def zone : List Char := ['+', '0', '2', ':', '0', '0']

/-- The time that the text of a query denotes, in the years 1 to 9999. -/
def civil? (s : String) : Option DateTime :=
  ofIso? (String.ofList (Layout.padded 19 s.toList ++ zone))

theorem ofIso?_of_takeClock {s : String} {digits : TimeDigits} {zone : List Char} {date : Date}
    {time : TimeOfDay} {offset : OffsetDigits} {micros : Int}
    (hclock : takeClock ['T'] s.toList = some (digits, zone)) (hdate : digits.date? = some date)
    (htime : digits.timeOfDay? = some time) (hzone : zone ≠ [] ∧ zone ≠ ['Z'])
    (hoffset : takeOffset zone = some (offset, [])) (hmicros : offset.micros? = some micros) :
    ofIso? s = ofFields? date time (some micros) := by
  have hnonempty : ¬ zone.isEmpty = true := by
    rw [List.isEmpty_iff]
    exact hzone.1
  have hnone : takeOffsetSeconds offset [] = some (offset, []) := rfl
  unfold ofIso?
  simp only [hclock, Option.bind_eq_bind, Option.bind_some]
  rw [hdate, Option.bind_some, htime, Option.bind_some, if_neg hnonempty, if_neg hzone.2, hoffset,
    Option.bind_some, hnone, Option.bind_some, hmicros, Option.bind_some]
  exact if_pos rfl

theorem padded_append (width : Nat) (cs rest : List Char) :
    Layout.padded (width + rest.length) (cs ++ rest) = Layout.padded width cs ++ rest := by
  unfold Layout.padded
  rw [List.length_append, Nat.add_sub_add_right, List.append_assoc]

/-- With zeros in front of the year, the text is the clock of a time text. -/
theorem padded_write (t : DateTime) :
    Layout.padded 19 (write t) = writeDate t.date ++ 'T' :: writeTime t.timeOfDay := by
  obtain ⟨hmonth, hday⟩ := t.date_bounds
  obtain ⟨hhour, hminute, hsecond, -⟩ := (TimeOfDay.isValid_iff _).mp t.isValid_timeOfDay
  have hrest : ('-' :: padded 2 t.date.month ++ '-' :: padded 2 t.date.day ++
      'T' :: writeTime t.timeOfDay).length = 15 := by
    unfold writeTime
    simp only [List.length_append, List.length_cons, length_padded (w := 2) (by decide) hmonth,
      length_padded (w := 2) (by decide) hday,
      length_padded (w := 2) (by decide) (Nat.lt_of_le_of_lt hhour (by decide)),
      length_padded (w := 2) (by decide) (Nat.lt_of_le_of_lt hminute (by decide)),
      length_padded (w := 2) (by decide) (Nat.lt_of_le_of_lt hsecond (by decide))]
  have hpadded := padded_append 4 (Layout.digits t.date.year)
    ('-' :: padded 2 t.date.month ++ '-' :: padded 2 t.date.day ++ 'T' :: writeTime t.timeOfDay)
  rw [hrest] at hpadded
  have hyear : Layout.padded 4 (Layout.digits t.date.year) = padded 4 t.date.year := rfl
  unfold write writeDate
  simpa only [List.append_assoc, List.cons_append, Nat.reduceAdd, hyear] using hpadded

def floor (t : DateTime) : DateTime where
  ticks := t.ticks / second * second
  offset := some offset
  ticks_lt := Nat.lt_of_le_of_lt (Nat.div_mul_le_self t.ticks second) t.ticks_lt

theorem date_floor (t : DateTime) : (floor t).date = t.date := by
  refine date_eq_date ?_
  exact Nat.mul_div_cancel _ (by decide)

theorem timeOfDay_floor (t : DateTime) :
    (floor t).timeOfDay = { t.timeOfDay with micro := 0 } := by
  simp only [timeOfDay, TimeOfDay.ofMicros, floor, second, dayLength, TimeOfDay.mk.injEq]
  omega

/-- **The text of a civil time is read as that time at the second below.** -/
theorem civil?_write (t : DateTime) : civil? (String.ofList (write t)) = some (floor t) := by
  have hclock : takeClock ['T'] (String.ofList (Layout.padded 19 (write t) ++ zone)).toList =
      some (clockDigits (floor t).date (floor t).timeOfDay, zone) := by
    rw [String.toList_ofList, padded_write, takeClock_written rfl t.year_le t.date_bounds
      t.isValid_timeOfDay, date_floor, timeOfDay_floor]
    rfl
  have hdate := Rfc3339.date?_clockDigits (floor t).timeOfDay (floor t).year_le
    (floor t).proper_date.2
  have hmicro : fractionMicros? [] = some (floor t).timeOfDay.micro := by
    rw [timeOfDay_floor]
    rfl
  have htime : (clockDigits (floor t).date (floor t).timeOfDay).timeOfDay? =
      some (floor t).timeOfDay :=
    Rfc3339.timeOfDay?_clockDigits (floor t).date (floor t).isValid_timeOfDay hmicro
  unfold civil?
  rw [String.toList_ofList, ofIso?_of_takeClock hclock hdate htime (by decide) rfl rfl]
  exact ofFields?_views (floor t)

/-! ## The text of an instant -/

section Instant
variable {a b : DateTime} {i j : Int} {s t : String}

/-- The instants that queries show. The last ones of the calendar are not among them: in the civil
time of queries these lie beyond it. -/
def Shows (i : Int) : Prop :=
  ∃ first limit, (ofIso? "0001-01-01T00:00:00Z").bind instant? = some first ∧
    (ofIso? "9999-12-31T22:00:00Z").bind instant? = some limit ∧ first ≤ i ∧ i < limit

theorem shows_iff : Shows i ↔ 0 ≤ i ∧ i + offset < clockSpan := by
  have hfirst : (ofIso? "0001-01-01T00:00:00Z").bind instant? = some 0 := by decide +kernel
  have hlimit : (ofIso? "9999-12-31T22:00:00Z").bind instant? = some 315537890400000000 := by
    decide +kernel
  have hspan : clockSpan = 315537897600000000 := rfl
  have hoffset : offset = 7200000000 := rfl
  unfold Shows
  rw [hfirst, hlimit]
  constructor
  · rintro ⟨first, limit, hfirst, hlimit, hfrom, hto⟩
    cases hfirst
    cases hlimit
    omega
  · rintro ⟨hfrom, hto⟩
    exact ⟨_, _, rfl, rfl, hfrom, by omega⟩

theorem inRange_iff_shows (hi : a.instant? = some i) : a.InRange ↔ Shows i := by
  rw [shows_iff]
  constructor
  · rintro ⟨i', hi', hfrom, hto⟩
    cases hi.symm.trans hi'
    exact ⟨hfrom, hto⟩
  · rintro ⟨hfrom, hto⟩
    exact ⟨i, hi, hfrom, hto⟩

theorem aware_of_instant? (hi : a.instant? = some i) : a.offset.isSome := by
  obtain ⟨offset, hoffset, -⟩ := Option.map_eq_some_iff.mp hi
  exact Option.isSome_of_eq_some hoffset

theorem text_cases (hi : a.instant? = some i) :
    (Shows i ∧ ∃ s, text a = .ok s) ∨ (¬ Shows i ∧ text a = .error .dateOutOfRange) := by
  by_cases hrange : a.InRange
  · exact .inl ⟨(inRange_iff_shows hi).mp hrange, (showable_iff.mpr hrange).2⟩
  · exact .inr ⟨mt (inRange_iff_shows hi).mpr hrange,
      text_of_not_inRange (aware_of_instant? hi) hrange⟩

/-- **The text says nothing about the offset that a time came with.** -/
theorem text_congr (hi : a.instant? = some i) (hj : b.instant? = some i) : text a = text b := by
  unfold text
  rw [atOffset_eq hi, atOffset_eq hj]

/-- **A text is read back as the instant, at the second below.** -/
theorem civil?_of_text (hi : a.instant? = some i) (h : text a = .ok s) :
    ∃ civil, civil? s = some civil ∧ civil.offset = some offset ∧
      civil.instant? = some (i / 1000000 * 1000000) := by
  obtain ⟨civil, hcivil, rfl⟩ := text_eq_ok h
  refine ⟨floor civil, civil?_write civil, rfl, ?_⟩
  have hticks := atOffset_ticks hi hcivil
  have hoffset : offset = 7200000000 := rfl
  have hfloor : (((civil.ticks / second * second : Nat) : Int) - offset) =
      i / 1000000 * 1000000 := by
    unfold second
    omega
  exact congrArg some hfloor

/-- **Texts are equal if their instants lie in one second.** -/
theorem text_eq_text_iff (hi : a.instant? = some i) (hj : b.instant? = some j)
    (ha : text a = .ok s) (hb : text b = .ok t) : s = t ↔ i / 1000000 = j / 1000000 := by
  constructor
  · rintro rfl
    obtain ⟨ca, hca, -, hfloor⟩ := civil?_of_text hi ha
    obtain ⟨cb, hcb, -, hfloor'⟩ := civil?_of_text hj hb
    obtain rfl := Option.some.inj (hca.symm.trans hcb)
    have hseconds := Option.some.inj (hfloor.symm.trans hfloor')
    omega
  · intro hseconds
    obtain ⟨ca, hca, rfl⟩ := text_eq_ok ha
    obtain ⟨cb, hcb, rfl⟩ := text_eq_ok hb
    have hticks := atOffset_ticks hi hca
    have hticks' := atOffset_ticks hj hcb
    have hoffset : offset = 7200000000 := rfl
    refine congrArg String.ofList (write_eq_write ?_)
    unfold second
    omega

theorem hasFullYear_of_civil? {civil : DateTime} (ha : text a = .ok s) (h : civil? s = some civil)
    (hyear : 1000 ≤ civil.date.year) : HasFullYear a := by
  obtain ⟨ca, hca, rfl⟩ := text_eq_ok ha
  rw [civil?_write] at h
  cases h
  intro c hc
  cases hca.symm.trans hc
  rwa [date_floor] at hyear

/-- **The time texts of queries depend on the instant alone and keep the order.** Two times that
denote one instant have the same outcome, whatever their offsets. An instant is shown if it lies in
the years that UTC and the civil time of queries both have, and refused as out of range otherwise.
Read as a civil time, the text is the instant rounded down to the second; two texts are equal if
their instants lie in one second; and from the civil year 1000 on they are in the order of their
instants. -/
theorem text_of_instant (a b : DateTime) (i j : Int) (hi : a.instant? = some i)
    (hj : b.instant? = some j) :
    (i = j → text a = text b) ∧
    ((∃ s, text a = .ok s) ↔ Shows i) ∧ (text a = .error .dateOutOfRange ↔ ¬ Shows i) ∧
    ∀ s, text a = .ok s →
      (∃ civil, civil? s = some civil ∧ civil.offset = some 7200000000 ∧
        civil.instant? = some (i / 1000000 * 1000000)) ∧
      ∀ t, text b = .ok t → (s = t ↔ i / 1000000 = j / 1000000) ∧
        ∀ civil, civil? s = some civil → 1000 ≤ civil.date.year → i ≤ j → s ≤ t := by
  refine ⟨?_, ?_, ?_, fun s hs => ⟨civil?_of_text hi hs, fun t ht => ⟨?_, ?_⟩⟩⟩
  · rintro rfl
    exact text_congr hi hj
  · rcases text_cases hi with ⟨hshows, hok⟩ | ⟨hrefused, herror⟩
    · exact iff_of_true hok hshows
    · exact iff_of_false (fun ⟨s, hs⟩ => by cases herror.symm.trans hs) hrefused
  · rcases text_cases hi with ⟨hshows, s, hs⟩ | ⟨hrefused, herror⟩
    · exact iff_of_false (fun herror => by cases hs.symm.trans herror) (not_not_intro hshows)
    · exact iff_of_true herror hrefused
  · exact text_eq_text_iff hi hj hs ht
  · intro civil hcivil hyear hij
    exact text_le_text ⟨i, j, hi, hj, hij⟩ hs ht (hasFullYear_of_civil? hs hcivil hyear)

/-- Half a second before a midnight, on a clock ahead of UTC by an hour and a half and a microsecond,
and on one five hours behind it. -/
theorem text_of_instant_before_midnight : ∃ (a b : DateTime) (i : Int),
    (a.offset = some 5400000001 ∧ b.offset = some (-18000000000)) ∧
    (a.instant? = some i ∧ b.instant? = some i) ∧ text a = .ok "2024-03-01T00:29:59" ∧
      text a = text b ∧ ∃ civil, civil? "2024-03-01T00:29:59" = some civil ∧
        civil.offset = some 7200000000 ∧ civil.instant? = some (i / 1000000 * 1000000) := by
  let a : DateTime := ⟨63844847999500001, some 5400000001, by decide⟩
  let b : DateTime := ⟨63844824599500000, some (-18000000000), by decide⟩
  have hi : a.instant? = some 63844842599500000 := by decide
  have hj : b.instant? = some 63844842599500000 := by decide
  have htext : text a = .ok "2024-03-01T00:29:59" := by decide +kernel
  obtain ⟨hsame, -, -, hread⟩ := text_of_instant a b _ _ hi hj
  exact ⟨a, b, _, ⟨rfl, rfl⟩, ⟨hi, hj⟩, htext, hsame rfl, (hread _ htext).1⟩

end Instant

end ApiTime

end MeterFeed
