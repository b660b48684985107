import MeterFeed.Proofs.Clock
import MeterFeed.Proofs.Decimal
import MeterFeed.Time.Rfc3339

/-!
# The grammar of time texts

`Rfc3339.Denotes` says in one piece how a time text is written and what it denotes: the date, a `T`
or a space, the time of day, possibly a point and a fraction (`Rfc3339.Fraction`), and `Z` or an
offset (`Rfc3339.Zone`), all in ASCII digits, of a date and a time of day that exist.

Reading checks the shape first, in which digits of any script count, and what the digits denote
after that. Together that is the grammar (`Rfc3339.denotes_iff`): what is read as a time is written
by the grammar and nothing else is (`Rfc3339.reads_read`), except for the year 0, which no time has.
-/

namespace MeterFeed

namespace DateTime

/-! ## Reading the clock -/

theorem takeOne_of_contains {allowed : List Char} {c : Char} (h : allowed.contains c = true)
    (cs : List Char) : takeOne allowed (c :: cs) = some cs :=
  if_pos h

theorem takeOne_self (c : Char) (cs : List Char) : takeOne [c] (c :: cs) = some cs :=
  takeOne_of_contains (by simp) cs

def clockDigits (d : Date) (t : TimeOfDay) : TimeDigits where
  year := padded 4 d.year
  month := padded 2 d.month
  day := padded 2 d.day
  hour := padded 2 t.hour
  minute := padded 2 t.minute
  second := padded 2 t.second
  fraction := []
  offset := none

/-- The numbers of a written clock are taken one after the other. -/
theorem takeClock_written {separators : List Char} {separator : Char}
    (hseparator : separators.contains separator = true) {d : Date} {t : TimeOfDay}
    (hyear : d.year ≤ 9999) (hdate : d.month < 100 ∧ d.day < 100) (htime : t.isValid = true)
    (rest : List Char) :
    takeClock separators (writeDate d ++ separator :: writeTime t ++ rest) =
      (takeFraction rest).map fun taken =>
        ({ clockDigits d t with fraction := taken.1 }, taken.2) := by
  have hyear' : d.year < 10 ^ 4 := Nat.lt_succ_of_le hyear
  obtain ⟨hmonth, hday⟩ := hdate
  obtain ⟨hhour, hminute, hsecond, -⟩ := (TimeOfDay.isValid_iff t).mp htime
  unfold takeClock writeDate writeTime
  simp only [List.append_assoc, List.cons_append, Option.bind_eq_bind, Option.bind_some,
    takeDigits_padded (w := 4) (by decide) hyear', takeDigits_padded (w := 2) (by decide) hmonth,
    takeDigits_padded (w := 2) (by decide) hday,
    takeDigits_padded (w := 2) (by decide) (Nat.lt_of_le_of_lt hhour (by decide)),
    takeDigits_padded (w := 2) (by decide) (Nat.lt_of_le_of_lt hminute (by decide)),
    takeDigits_padded (w := 2) (by decide) (Nat.lt_of_le_of_lt hsecond (by decide)),
    takeOne_self, takeOne_of_contains hseparator]
  cases takeFraction rest <;> rfl

theorem takeFraction_padded {w n : Nat} (hw : 0 < w ∧ w ≤ 6) (hn : n < 10 ^ w)
    {rest : List Char} (hrest : ∀ c ∈ rest.head?, DecimalDigit.isDecimal c = false) :
    takeFraction ('.' :: padded w n ++ rest) = some (padded w n, rest) := by
  obtain ⟨htake, hdrop⟩ := span_append (isDecimal_of_mem_padded hw.1 hn) hrest
  have hlength := length_padded hw.1 hn
  have hbounds : ((padded w n).isEmpty || decide (6 < (padded w n).length)) = false := by
    rw [hlength, Bool.or_eq_false_iff, List.isEmpty_eq_false_iff, ← List.length_pos_iff, hlength,
      decide_eq_false_iff_not]
    omega
  have hpoint : takeFraction ('.' :: (padded w n ++ rest)) =
      if ((padded w n ++ rest).takeWhile DecimalDigit.isDecimal).isEmpty ||
        6 < ((padded w n ++ rest).takeWhile DecimalDigit.isDecimal).length then none
      else some ((padded w n ++ rest).takeWhile DecimalDigit.isDecimal,
        (padded w n ++ rest).dropWhile DecimalDigit.isDecimal) := rfl
  rw [List.cons_append, hpoint, htake, hdrop, hbounds]
  rfl

/-! ## Reading the offset -/

section Offset
variable {hours minutes : Nat}

theorem size_eq (hours minutes : Nat) :
    (((hours : Int) * 60 + minutes) * 60 + (0 : Nat)) * 1000000 + (0 : Nat) =
      ((hours * 60 + minutes) * 60000000 : Nat) := by
  omega

theorem takeOffset_padded {sign : Char} (hsign : ['+', '-'].contains sign = true)
    (hhours : hours ≤ 23) (hminutes : minutes ≤ 59) :
    takeOffset (sign :: padded 2 hours ++ ':' :: padded 2 minutes) =
      some (⟨sign == '-', padded 2 hours, padded 2 minutes, ['0'], []⟩, []) := by
  have hhours' : hours < 10 ^ 2 := by omega
  have hminutes' : minutes < 10 ^ 2 := by omega
  have hlast := takeDigits_padded (w := 2) (by decide) hminutes' []
  rw [List.append_nil] at hlast
  unfold takeOffset
  simp only [List.cons_append, takeOne_of_contains hsign, Option.bind_eq_bind, Option.bind_some,
    takeDigits_padded (w := 2) (by decide) hhours', takeOne_self, hlast]
  rfl

theorem micros?_padded (negative : Bool) (hhours : hours ≤ 23) (hminutes : minutes ≤ 59) :
    OffsetDigits.micros? ⟨negative, padded 2 hours, padded 2 minutes, ['0'], []⟩ =
      some (if negative then -(((hours * 60 + minutes) * 60000000 : Nat) : Int)
        else ((hours * 60 + minutes) * 60000000 : Nat)) := by
  have hhours' : hours < 10 ^ 2 := by omega
  have hminutes' : minutes < 10 ^ 2 := by omega
  have hzero : asciiNumber? ['0'] = some 0 := rfl
  have hwhole : fractionMicros? [] = some 0 := rfl
  have hbounds : (decide (23 < hours) || decide (59 < minutes) || decide (59 < 0)) = false := by
    simp only [Bool.or_eq_false_iff, decide_eq_false_iff_not]
    omega
  unfold OffsetDigits.micros?
  simp only [asciiNumber?_padded (w := 2) (by decide) hhours',
    asciiNumber?_padded (w := 2) (by decide) hminutes', hzero, hwhole, Option.bind_eq_bind,
    Option.bind_some, hbounds, size_eq]
  exact if_neg Bool.false_ne_true

end Offset

/-! ## What reading takes apart -/

theorem takeOne_eq_some {allowed cs rest : List Char} (h : takeOne allowed cs = some rest) :
    ∃ c ∈ allowed, cs = c :: rest := by
  cases cs with
  | nil => cases h
  | cons c cs =>
    have hone : takeOne allowed (c :: cs) = if allowed.contains c then some cs else none := rfl
    rw [hone] at h
    split at h
    · rename_i hallowed
      obtain rfl := Option.some.inj h
      exact ⟨c, List.contains_iff_mem.mp hallowed, rfl⟩
    · cases h

theorem takeOne_singleton {c : Char} {cs rest : List Char} (h : takeOne [c] cs = some rest) :
    cs = c :: rest := by
  obtain ⟨c', hc, rfl⟩ := takeOne_eq_some h
  rw [List.mem_singleton.mp hc]

/-- A text is a clock, with the rest behind it. -/
structure ClockText (separators : List Char) (digits : TimeDigits) (rest cs : List Char) :
    Prop where
  text : ∃ separator ∈ separators, ∃ fraction,
    cs = digits.year ++ '-' :: digits.month ++ '-' :: digits.day ++ separator :: digits.hour ++
      ':' :: digits.minute ++ ':' :: digits.second ++ fraction ++ rest ∧
    (fraction = [] ∧ digits.fraction = [] ∨ fraction = '.' :: digits.fraction ∧
      0 < digits.fraction.length ∧ digits.fraction.length ≤ 6)
  date : digits.year.length = 4 ∧ digits.month.length = 2 ∧ digits.day.length = 2
  time : digits.hour.length = 2 ∧ digits.minute.length = 2 ∧ digits.second.length = 2
  offset : digits.offset = none

/-- A text is an offset, with the rest behind it. -/
structure OffsetText (digits : OffsetDigits) (rest cs : List Char) : Prop where
  text : cs =
    (if digits.negative then '-' else '+') :: digits.hours ++ ':' :: digits.minutes ++ rest
  widths : digits.hours.length = 2 ∧ digits.minutes.length = 2
  whole : digits.seconds = ['0'] ∧ digits.fraction = []

theorem of_takeFraction {ds cs rest : List Char} (h : takeFraction cs = some (ds, rest)) :
    ∃ fraction, cs = fraction ++ rest ∧
      (fraction = [] ∧ ds = [] ∨ fraction = '.' :: ds ∧ 0 < ds.length ∧ ds.length ≤ 6) := by
  unfold takeFraction at h
  split at h
  · rename_i cs
    dsimp only at h
    split at h
    · cases h
    · rename_i hbounds
      cases h
      simp only [Bool.or_eq_true, decide_eq_true_eq, not_or, List.isEmpty_iff] at hbounds
      refine ⟨_, ?_, .inr ⟨rfl, List.length_pos_iff.mpr hbounds.1, Nat.not_lt.mp hbounds.2⟩⟩
      rw [List.cons_append, List.takeWhile_append_dropWhile]
  · cases h
    exact ⟨[], rfl, .inl ⟨rfl, rfl⟩⟩

theorem of_takeClock {separators cs rest : List Char} {digits : TimeDigits}
    (h : takeClock separators cs = some (digits, rest)) : ClockText separators digits rest cs := by
  unfold takeClock at h
  simp only [Option.bind_eq_bind, Option.bind_eq_some_iff] at h
  obtain ⟨⟨year, cs₁⟩, hyear, _, hdash, ⟨month, cs₂⟩, hmonth, _, hdash', ⟨day, cs₃⟩, hday, _,
    hseparator, ⟨hour, cs₄⟩, hhour, _, hcolon, ⟨minute, cs₅⟩, hminute, _, hcolon',
    ⟨second, cs₆⟩, hsecond, ⟨ds, cs₇⟩, htaken, h⟩ := h
  cases h
  obtain ⟨fraction, rfl, hfraction⟩ := of_takeFraction htaken
  obtain ⟨rfl, year_length⟩ := takeDigits_eq_some hyear
  obtain rfl := takeOne_singleton hdash
  obtain ⟨rfl, month_length⟩ := takeDigits_eq_some hmonth
  obtain rfl := takeOne_singleton hdash'
  obtain ⟨rfl, day_length⟩ := takeDigits_eq_some hday
  obtain ⟨separator, hmem, rfl⟩ := takeOne_eq_some hseparator
  obtain ⟨rfl, hour_length⟩ := takeDigits_eq_some hhour
  obtain rfl := takeOne_singleton hcolon
  obtain ⟨rfl, minute_length⟩ := takeDigits_eq_some hminute
  obtain rfl := takeOne_singleton hcolon'
  obtain ⟨rfl, second_length⟩ := takeDigits_eq_some hsecond
  exact ⟨⟨separator, hmem, fraction, by simp only [List.append_assoc, List.cons_append], hfraction⟩,
    ⟨year_length, month_length, day_length⟩, ⟨hour_length, minute_length, second_length⟩, rfl⟩

theorem of_takeOffset {cs rest : List Char} {digits : OffsetDigits}
    (h : takeOffset cs = some (digits, rest)) : OffsetText digits rest cs := by
  unfold takeOffset at h
  simp only [Option.bind_eq_bind, Option.bind_eq_some_iff] at h
  obtain ⟨_, hsign, ⟨hours, _⟩, hhours, _, hcolon, ⟨minutes, _⟩, hminutes, h⟩ := h
  cases h
  obtain ⟨sign, hmem, rfl⟩ := takeOne_eq_some hsign
  obtain ⟨rfl, hours_length⟩ := takeDigits_eq_some hhours
  obtain rfl := takeOne_singleton hcolon
  obtain ⟨rfl, minutes_length⟩ := takeDigits_eq_some hminutes
  refine ⟨?_, ⟨hours_length, minutes_length⟩, rfl, rfl⟩
  simp only [List.mem_cons, List.not_mem_nil, or_false] at hmem
  rcases hmem with rfl | rfl <;> simp

theorem of_micros? {digits : OffsetDigits} {offset : Int}
    (hwhole : digits.seconds = ['0'] ∧ digits.fraction = [])
    (h : digits.micros? = some offset) : ∃ hours minutes,
      asciiNumber? digits.hours = some hours ∧ asciiNumber? digits.minutes = some minutes ∧
      hours ≤ 23 ∧ minutes ≤ 59 ∧
      offset = if digits.negative then -(((hours * 60 + minutes) * 60000000 : Nat) : Int)
        else ((hours * 60 + minutes) * 60000000 : Nat) := by
  unfold OffsetDigits.micros? at h
  rw [hwhole.1, hwhole.2] at h
  simp only [Option.bind_eq_bind, Option.bind_eq_some_iff] at h
  obtain ⟨hours, hhours, minutes, hminutes, seconds, hseconds, micros, hmicros, h⟩ := h
  obtain rfl : 0 = seconds := Option.some.inj hseconds
  obtain rfl : 0 = micros := Option.some.inj hmicros
  rw [size_eq] at h
  split at h
  · cases h
  · rename_i hbounds
    simp only [Bool.or_eq_true, decide_eq_true_iff, not_or] at hbounds
    cases h
    exact ⟨hours, minutes, hhours, hminutes, by omega, by omega, rfl⟩

end DateTime

namespace Rfc3339

open DateTime

theorem of_shape? {cs : List Char} {digits : TimeDigits} (h : shape? cs = some digits) :
    ∃ clock rest, ClockText ['T', ' '] clock rest cs ∧
      (rest = ['Z'] ∧ digits = clock ∨
        ∃ offset, OffsetText offset [] rest ∧ digits = { clock with offset := some offset }) := by
  unfold shape? at h
  simp only [Option.bind_eq_bind, Option.bind_eq_some_iff] at h
  obtain ⟨⟨clock, rest⟩, hclock, h⟩ := h
  refine ⟨clock, rest, of_takeClock hclock, ?_⟩
  dsimp only at h
  split at h
  · cases h
    exact .inl ⟨rfl, rfl⟩
  · obtain ⟨⟨offset, rest'⟩, htaken, h⟩ := Option.bind_eq_some_iff.mp h
    dsimp only at h
    split at h
    · rename_i hempty
      cases h
      obtain rfl := List.isEmpty_iff.mp hempty
      exact .inr ⟨offset, of_takeOffset htaken, rfl⟩
    · cases h

theorem of_fields? {digits : TimeDigits} {date : Date} {time : TimeOfDay} {offset : Int}
    (h : fields? digits = some (date, time, offset)) :
    digits.date? = some date ∧ digits.timeOfDay? = some time ∧ offset? digits = some offset ∧
      date.isValid = true ∧ time.isValid = true := by
  unfold fields? at h
  simp only [Option.bind_eq_bind, Option.bind_eq_some_iff] at h
  obtain ⟨date', hdate, time', htime, offset', hoffset, h⟩ := h
  split at h
  · rename_i hvalid
    rw [Bool.and_eq_true] at hvalid
    cases h
    exact ⟨hdate, htime, hoffset, hvalid⟩
  · cases h

theorem fields?_of_valid {digits : TimeDigits} {date : Date} {time : TimeOfDay} {offset : Int}
    (hdate : digits.date? = some date) (htime : digits.timeOfDay? = some time)
    (hoffset : offset? digits = some offset) (hproper : date.isValid = true)
    (hvalid : time.isValid = true) : fields? digits = some (date, time, offset) := by
  unfold fields?
  simp only [hdate, htime, hoffset, Option.bind_eq_bind, Option.bind_some, hproper, hvalid]
  rfl

/-! ## The grammar -/

/-- A fraction of a second, and its microseconds: a point and one to six digits, or nothing. -/
inductive Fraction : List Char → Nat → Prop where
  | whole : Fraction [] 0
  | part (width n : Nat) (hwidth : 0 < width ∧ width ≤ 6) (hn : n < 10 ^ width) :
    Fraction ('.' :: padded width n) (n * 10 ^ (6 - width))

/-- An offset, and its microseconds: `Z`, or a sign and hours and minutes below a day. -/
inductive Zone : List Char → Int → Prop where
  | utc : Zone ['Z'] 0
  | ahead (hours minutes : Nat) (hhours : hours ≤ 23) (hminutes : minutes ≤ 59) :
    Zone ('+' :: padded 2 hours ++ ':' :: padded 2 minutes)
      ((hours * 60 + minutes) * 60000000 : Nat)
  | behind (hours minutes : Nat) (hhours : hours ≤ 23) (hminutes : minutes ≤ 59) :
    Zone ('-' :: padded 2 hours ++ ':' :: padded 2 minutes)
      (-((hours * 60 + minutes) * 60000000 : Nat))

/-- A text denotes a date of the years 0 to 9999 and a time of day, at an offset. -/
structure Denotes (cs : List Char) (date : Date) (time : TimeOfDay) (offset : Int) : Prop where
  text : ∃ separator ∈ ['T', ' '], ∃ fraction zone,
    Fraction fraction time.micro ∧ Zone zone offset ∧
      cs = writeDate date ++ separator :: writeTime time ++ fraction ++ zone
  year : date.year ≤ 9999
  date : date.isValid = true
  time : time.isValid = true

/-! ## What is written by the grammar is read -/

theorem fractionMicros?_padded {w n : Nat} (hw : 0 < w) (hn : n < 10 ^ w) :
    fractionMicros? (padded w n) = some (n * 10 ^ (6 - w)) := by
  unfold fractionMicros?
  rw [length_padded hw hn, asciiNumber?_append_zeros, asciiNumber?_padded hw hn]
  rfl

namespace Zone

variable {zone : List Char} {offset : Int}

theorem head (h : Zone zone offset) : ∀ c ∈ zone.head?, DecimalDigit.isDecimal c = false := by
  cases h <;> intro c hc <;> cases hc <;> rfl

theorem take (h : Zone zone offset) : zone = ['Z'] ∧ offset = 0 ∨
    zone ≠ ['Z'] ∧ ∃ digits, takeOffset zone = some (digits, []) ∧
      digits.micros? = some offset := by
  cases h with
  | utc => exact .inl ⟨rfl, rfl⟩
  | ahead hours minutes hhours hminutes =>
    refine .inr ⟨fun h => absurd (List.head_eq_of_cons_eq h) (by decide), _,
      takeOffset_padded rfl hhours hminutes, ?_⟩
    rw [micros?_padded _ hhours hminutes, if_neg (by decide)]
  | behind hours minutes hhours hminutes =>
    refine .inr ⟨fun h => absurd (List.head_eq_of_cons_eq h) (by decide), _,
      takeOffset_padded rfl hhours hminutes, ?_⟩
    rw [micros?_padded _ hhours hminutes, if_pos (by decide)]

end Zone

theorem Fraction.take {fraction zone : List Char} {micro : Nat} {offset : Int}
    (h : Fraction fraction micro) (hzone : Zone zone offset) :
    ∃ ds, fractionMicros? ds = some micro ∧ takeFraction (fraction ++ zone) = some (ds, zone) := by
  cases h with
  | whole =>
    refine ⟨[], rfl, ?_⟩
    cases hzone <;> rfl
  | part width n hwidth hn =>
    exact ⟨_, fractionMicros?_padded hwidth.1 hn, takeFraction_padded hwidth hn hzone.head⟩

section Denotes
variable {cs : List Char} {date : Date} {time : TimeOfDay} {offset : Int} {zone ds : List Char}

theorem date?_clockDigits (time : TimeOfDay) (hyear : date.year ≤ 9999)
    (hdate : date.isValid = true) : (clockDigits date time).date? = some date := by
  have hyear' : date.year < 10 ^ 4 := Nat.lt_succ_of_le hyear
  obtain ⟨hmonth, hday⟩ := Date.bounds_of_isValid hdate
  unfold TimeDigits.date? clockDigits
  simp only [asciiNumber?_padded (w := 4) (by decide) hyear',
    asciiNumber?_padded (w := 2) (by decide) hmonth, asciiNumber?_padded (w := 2) (by decide) hday]
  rfl

theorem timeOfDay?_clockDigits (date : Date) (htime : time.isValid = true)
    (hmicro : fractionMicros? ds = some time.micro) :
    TimeDigits.timeOfDay? { clockDigits date time with fraction := ds } = some time := by
  obtain ⟨hhour, hminute, hsecond, -⟩ := (TimeOfDay.isValid_iff _).mp htime
  unfold TimeDigits.timeOfDay? clockDigits
  simp only [hmicro,
    asciiNumber?_padded (w := 2) (by decide) (Nat.lt_of_le_of_lt hhour (by decide)),
    asciiNumber?_padded (w := 2) (by decide) (Nat.lt_of_le_of_lt hminute (by decide)),
    asciiNumber?_padded (w := 2) (by decide) (Nat.lt_of_le_of_lt hsecond (by decide))]
  rfl

theorem shape?_of_takeClock {clock : TimeDigits}
    (hclock : takeClock ['T', ' '] cs = some (clock, zone)) (hnone : clock.offset = none)
    (hzone : Zone zone offset) :
    ∃ offset', shape? cs = some { clock with offset := offset' } ∧
      offset? { clock with offset := offset' } = some offset := by
  unfold shape?
  simp only [hclock, Option.bind_eq_bind, Option.bind_some]
  rcases hzone.take with ⟨rfl, rfl⟩ | ⟨hne, digits, htaken, hmicros⟩
  · refine ⟨none, ?_, rfl⟩
    rw [← hnone]
    rfl
  · refine ⟨some digits, ?_, hmicros⟩
    split
    · exact absurd rfl hne
    · rw [htaken]
      rfl

theorem Denotes.shape (h : Denotes cs date time offset) :
    ∃ digits, shape? cs = some digits ∧ fields? digits = some (date, time, offset) := by
  obtain ⟨⟨separator, hseparator, fraction, zone, hfraction, hzone, rfl⟩, hyear, hdate, htime⟩ := h
  obtain ⟨ds, hmicro, htake⟩ := hfraction.take hzone
  have hclock : takeClock ['T', ' ']
      (writeDate date ++ separator :: writeTime time ++ fraction ++ zone) =
        some ({ clockDigits date time with fraction := ds }, zone) := by
    rw [List.append_assoc, takeClock_written (List.contains_iff_mem.mpr hseparator) hyear
      (Date.bounds_of_isValid hdate) htime, htake]
    rfl
  obtain ⟨offset', hshape, hoffset⟩ := shape?_of_takeClock hclock rfl hzone
  refine ⟨_, hshape, fields?_of_valid ?_ ?_ hoffset hdate htime⟩
  · exact date?_clockDigits time hyear hdate
  · exact timeOfDay?_clockDigits date htime hmicro

end Denotes

/-! ## What is read is written by the grammar -/

theorem fraction_of_digits {fraction ds : List Char} {micro : Nat}
    (h : fraction = [] ∧ ds = [] ∨ fraction = '.' :: ds ∧ 0 < ds.length ∧ ds.length ≤ 6)
    (hmicro : fractionMicros? ds = some micro) : Fraction fraction micro := by
  rcases h with ⟨rfl, rfl⟩ | ⟨rfl, hwidth⟩
  · obtain rfl : 0 = micro := Option.some.inj hmicro
    exact .whole
  · unfold fractionMicros? at hmicro
    rw [asciiNumber?_append_zeros] at hmicro
    obtain ⟨n, hn, rfl⟩ := Option.map_eq_some_iff.mp hmicro
    have hpart := Fraction.part ds.length n hwidth (asciiNumber?_lt hn)
    rwa [← eq_padded_of_asciiNumber? hwidth.1 rfl hn] at hpart

theorem zone_of_offsetText {zone : List Char} {digits : OffsetDigits} {offset : Int}
    (h : OffsetText digits [] zone) (hmicros : digits.micros? = some offset) :
    Zone zone offset := by
  obtain ⟨rfl, ⟨hwidth, hwidth'⟩, hwhole⟩ := h
  obtain ⟨hours, minutes, hhours, hminutes, hbound, hbound', rfl⟩ := of_micros? hwhole hmicros
  rw [eq_padded_of_asciiNumber? (by decide) hwidth hhours,
    eq_padded_of_asciiNumber? (by decide) hwidth' hminutes, List.append_nil]
  cases digits.negative with
  | true =>
    rw [if_pos rfl, if_pos rfl]
    exact .behind hours minutes hbound hbound'
  | false =>
    rw [if_neg Bool.false_ne_true, if_neg Bool.false_ne_true]
    exact .ahead hours minutes hbound hbound'

theorem of_date? {digits : TimeDigits} {d : Date} (h : digits.date? = some d) :
    asciiNumber? digits.year = some d.year ∧ asciiNumber? digits.month = some d.month ∧
      asciiNumber? digits.day = some d.day := by
  unfold TimeDigits.date? at h
  simp only [Option.bind_eq_bind, Option.bind_eq_some_iff] at h
  obtain ⟨year, hyear, month, hmonth, day, hday, h⟩ := h
  cases h
  exact ⟨hyear, hmonth, hday⟩

theorem of_timeOfDay? {digits : TimeDigits} {t : TimeOfDay} (h : digits.timeOfDay? = some t) :
    (asciiNumber? digits.hour = some t.hour ∧ asciiNumber? digits.minute = some t.minute ∧
      asciiNumber? digits.second = some t.second) ∧
    fractionMicros? digits.fraction = some t.micro := by
  unfold TimeDigits.timeOfDay? at h
  simp only [Option.bind_eq_bind, Option.bind_eq_some_iff] at h
  obtain ⟨hour, hhour, minute, hminute, second, hsecond, micro, hmicro, h⟩ := h
  cases h
  exact ⟨⟨hhour, hminute, hsecond⟩, hmicro⟩

section Denotes
variable {cs : List Char} {date : Date} {time : TimeOfDay} {offset : Int} {digits : TimeDigits}

/-- A clock whose digits denote something, with an offset behind it, is written by the grammar. -/
theorem denotes_of_clockText {clock : TimeDigits} {zone : List Char}
    (h : ClockText ['T', ' '] clock zone cs) (hzone : Zone zone offset)
    (hdate : clock.date? = some date) (htime : clock.timeOfDay? = some time)
    (hproper : date.isValid = true) (hvalid : time.isValid = true) :
    Denotes cs date time offset := by
  obtain ⟨⟨separator, hseparator, fraction, rfl, hfraction⟩, ⟨wyear, wmonth, wday⟩,
    ⟨whour, wminute, wsecond⟩, -⟩ := h
  obtain ⟨hyear, hmonth, hday⟩ := of_date? hdate
  obtain ⟨⟨hhour, hminute, hsecond⟩, hmicro⟩ := of_timeOfDay? htime
  have hto : date.year < 10 ^ clock.year.length := asciiNumber?_lt hyear
  rw [wyear] at hto
  refine ⟨⟨separator, hseparator, fraction, zone, fraction_of_digits hfraction hmicro, hzone, ?_⟩,
    Nat.le_of_lt_succ hto, hproper, hvalid⟩
  unfold writeDate writeTime
  rw [eq_padded_of_asciiNumber? (by decide) wyear hyear,
    eq_padded_of_asciiNumber? (by decide) wmonth hmonth,
    eq_padded_of_asciiNumber? (by decide) wday hday,
    eq_padded_of_asciiNumber? (by decide) whour hhour,
    eq_padded_of_asciiNumber? (by decide) wminute hminute,
    eq_padded_of_asciiNumber? (by decide) wsecond hsecond]
  simp only [List.append_assoc, List.cons_append]

theorem denotes_of_shape? (hshape : shape? cs = some digits)
    (hfields : fields? digits = some (date, time, offset)) : Denotes cs date time offset := by
  obtain ⟨hdate, htime, hoffset, hproper, hvalid⟩ := of_fields? hfields
  obtain ⟨clock, zone, hclock, ⟨rfl, rfl⟩ | ⟨offsetDigits, htext, rfl⟩⟩ := of_shape? hshape
  · have hzone : Zone ['Z'] offset := by
      unfold offset? at hoffset
      rw [hclock.offset] at hoffset
      obtain rfl : 0 = offset := Option.some.inj hoffset
      exact .utc
    exact denotes_of_clockText hclock hzone hdate htime hproper hvalid
  · exact denotes_of_clockText hclock (zone_of_offsetText htext hoffset) hdate htime hproper hvalid

/-- **The shape and the fields that are read are the grammar.** -/
theorem denotes_iff : Denotes cs date time offset ↔
    ∃ digits, shape? cs = some digits ∧ fields? digits = some (date, time, offset) :=
  ⟨Denotes.shape, fun ⟨_, hshape, hfields⟩ => denotes_of_shape? hshape hfields⟩

/-! ## What reading comes to -/

theorem Denotes.read_eq_time (h : Denotes cs date time offset) {t : DateTime}
    (ht : ofFields? date time (some offset) = some t) : Rfc3339.read cs = .time t := by
  obtain ⟨digits, hshape, hfields⟩ := h.shape
  unfold Rfc3339.read
  rw [hshape]
  dsimp only
  rw [hfields]
  dsimp only
  rw [ht]

theorem Denotes.read_of_pos (h : Denotes cs date time offset) (hpos : 1 ≤ date.year) :
    ∃ t, Rfc3339.read cs = .time t ∧ t.date = date ∧ t.timeOfDay = time ∧
      t.offset = some offset := by
  obtain ⟨t, ht, hviews⟩ := ofFields?_eq_some (some offset) ⟨hpos, h.date⟩ h.year h.time
  exact ⟨t, h.read_eq_time ht, hviews⟩

theorem Denotes.read_of_yearZero (h : Denotes cs date time offset) (hzero : date.year = 0) :
    Rfc3339.read cs = .yearZero := by
  have hnone : ofFields? date time (some offset) = none := by
    unfold ofFields?
    rw [hzero]
    simp
  obtain ⟨digits, hshape, hfields⟩ := h.shape
  unfold Rfc3339.read
  rw [hshape]
  dsimp only
  rw [hfields]
  dsimp only
  rw [hnone]

/-- What reading a text comes to: what it denotes, or a refusal if it denotes nothing. -/
inductive Reads (cs : List Char) : Outcome → Prop where
  | time (t : DateTime) (offset : Int) (aware : t.offset = some offset)
    (denotes : Denotes cs t.date t.timeOfDay offset) : Reads cs (.time t)
  | yearZero (date : Date) (time : TimeOfDay) (offset : Int)
    (denotes : Denotes cs date time offset) (zero : date.year = 0) : Reads cs .yearZero
  | misshapen (senseless : ¬ ∃ date time offset, Denotes cs date time offset) :
    Reads cs .misshapen
  | impossible (senseless : ¬ ∃ date time offset, Denotes cs date time offset) :
    Reads cs .impossible

theorem reads_read (cs : List Char) : Reads cs (read cs) := by
  by_cases hdenotes : ∃ date time offset, Denotes cs date time offset
  · obtain ⟨date, time, offset, hdenotes⟩ := hdenotes
    rcases Nat.eq_zero_or_pos date.year with hzero | hpos
    · rw [hdenotes.read_of_yearZero hzero]
      exact .yearZero date time offset hdenotes hzero
    · obtain ⟨t, hread, rfl, rfl, hoffset⟩ := hdenotes.read_of_pos hpos
      rw [hread]
      exact .time t offset hoffset hdenotes
  · unfold read
    cases hshape : shape? cs with
    | none => exact .misshapen hdenotes
    | some digits =>
      dsimp only
      cases hfields : fields? digits with
      | none => exact .impossible hdenotes
      | some fields =>
        obtain ⟨date, time, offset⟩ := fields
        exact absurd ⟨date, time, offset, denotes_of_shape? hshape hfields⟩ hdenotes

/-- **What is read as a time.** -/
theorem read_eq_time_iff {t : DateTime} : read cs = .time t ↔
    ∃ offset, t.offset = some offset ∧ Denotes cs t.date t.timeOfDay offset := by
  constructor
  · intro h
    have hreads := reads_read cs
    rw [h] at hreads
    cases hreads with
    | time _ offset aware denotes => exact ⟨offset, aware, denotes⟩
  · rintro ⟨offset, hoffset, hdenotes⟩
    exact hdenotes.read_eq_time (by rw [← hoffset, ofFields?_views])

/-- **What is read as a time of the year 0.** -/
theorem read_eq_yearZero_iff_denotes : read cs = .yearZero ↔
    ∃ date time offset, Denotes cs date time offset ∧ date.year = 0 := by
  constructor
  · intro h
    have hreads := reads_read cs
    rw [h] at hreads
    cases hreads with
    | yearZero date time offset denotes zero => exact ⟨date, time, offset, denotes, zero⟩
  · rintro ⟨date, time, offset, hdenotes, hzero⟩
    exact hdenotes.read_of_yearZero hzero

/-- **What is refused.** -/
theorem read_refused_iff : (read cs = .misshapen ∨ read cs = .impossible) ↔
    ¬ ∃ date time offset, Denotes cs date time offset := by
  have hreads := reads_read cs
  generalize read cs = outcome at hreads ⊢
  cases hreads with
  | time t offset _ denotes =>
    exact iff_of_false (by simp) (not_not_intro ⟨t.date, t.timeOfDay, offset, denotes⟩)
  | yearZero date time offset denotes =>
    exact iff_of_false (by simp) (not_not_intro ⟨date, time, offset, denotes⟩)
  | misshapen senseless => exact iff_of_true (.inl rfl) senseless
  | impossible senseless => exact iff_of_true (.inr rfl) senseless

end Denotes

end Rfc3339

end MeterFeed
