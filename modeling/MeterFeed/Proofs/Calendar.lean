import Mathlib.Data.List.GetD
import Mathlib.Logic.Function.Iterate
import Mathlib.Tactic.SplitIfs
import MeterFeed.Time.Civil

/-!
# The calendar counts days

`Date.ofDayNumber` and `Date.dayNumber` are inverse to each other: the date of a day number exists
and lies in a year from 1 on (`proper_ofDayNumber`), it has that day number
(`dayNumber_ofDayNumber`), and no other date has it (`ofDayNumber_dayNumber`). A later date has a
greater number (`Date.Before.dayNumber_lt`), so days come in the order of their dates
(`before_ofDayNumber`). The numbers count by the calendar's own rule for the day after
(`ofDayNumber_add`).
-/

namespace MeterFeed

/-! ## Lengths of years and months -/

def yearLength (year : Nat) : Nat :=
  if isLeapYear year then 366 else 365

theorem length_monthLengths (year : Nat) : (monthLengths year).length = 12 := rfl

theorem totalDays_monthLengths (year : Nat) :
    totalDays (monthLengths year) = yearLength year := by
  unfold monthLengths yearLength
  split <;> rfl

theorem totalDays_cons (length : Nat) (lengths : List Nat) :
    totalDays (length :: lengths) = length + totalDays lengths := rfl

theorem totalDays_append_singleton (lengths : List Nat) (length : Nat) :
    totalDays (lengths ++ [length]) = totalDays lengths + length := by
  induction lengths with
  | nil => exact Nat.add_comm length 0
  | cons l ls ih => rw [List.cons_append, totalDays_cons, totalDays_cons, ih, Nat.add_assoc]

theorem monthLength_le (year month : Nat) : monthLength year month ≤ 31 := by
  unfold monthLength
  rcases Nat.lt_or_ge (month - 1) 12 with h | h
  · have hall : ∀ n ∈ monthLengths year, n ≤ 31 := by
      unfold monthLengths
      split <;> decide
    rw [List.getD_eq_getElem _ 0 (by rwa [length_monthLengths])]
    exact hall _ (List.getElem_mem _)
  · rw [List.getD_eq_default _ 0 (by rwa [length_monthLengths])]
    exact Nat.zero_le 31

theorem isLeapYear_iff (year : Nat) :
    isLeapYear year = true ↔ year % 4 = 0 ∧ (year % 100 ≠ 0 ∨ year % 400 = 0) := by
  simp [isLeapYear]

namespace Date

theorem daysBeforeYear_eq (year : Nat) : daysBeforeYear year =
    (year - 1) * 365 + (year - 1) / 4 - (year - 1) / 100 + (year - 1) / 400 := rfl

theorem daysBeforeYear_cycles {cycle century leapCycle single : Nat} (hcentury : century ≤ 3)
    (hleap : leapCycle ≤ 24) (hsingle : single ≤ 3) :
    daysBeforeYear (cycle * 400 + century * 100 + leapCycle * 4 + single + 1) =
      cycle * 146097 + century * 36524 + leapCycle * 1461 + single * 365 := by
  rw [daysBeforeYear_eq]
  omega

/-- What a step past a multiple of `n` adds to a quotient by `n`. -/
def passed (n year : Nat) : Nat :=
  if year % n = 0 then 1 else 0

theorem succ_div_eq (year n : Nat) : (year + 1) / n = year / n + passed n (year + 1) := by
  unfold passed
  rw [Nat.succ_div]
  simp only [Nat.dvd_iff_mod_eq_zero]

theorem passed_century_le (year : Nat) : passed 100 year ≤ passed 4 year := by
  unfold passed
  split_ifs <;> omega

theorem yearLength_eq (year : Nat) :
    yearLength year = 365 + passed 4 year - passed 100 year + passed 400 year := by
  unfold yearLength passed
  simp only [isLeapYear_iff]
  split_ifs <;> omega

theorem daysBeforeYear_succ {year : Nat} (h : 1 ≤ year) :
    daysBeforeYear (year + 1) = daysBeforeYear year + yearLength year := by
  obtain ⟨y, rfl⟩ : ∃ y, year = y + 1 := ⟨year - 1, by omega⟩
  have hcenturies : y / 100 ≤ y / 4 := Nat.div_le_div_left (by decide) (by decide)
  have hpassed := passed_century_le (y + 1)
  rw [daysBeforeYear_eq, daysBeforeYear_eq, Nat.add_sub_cancel, Nat.add_sub_cancel,
    succ_div_eq y 4, succ_div_eq y 100, succ_div_eq y 400, yearLength_eq]
  omega

/-! ## Counting days into months -/

theorem countMonths_spec (lengths : List Nat) (month n : Nat) (h : n < totalDays lengths) :
    month ≤ (countMonths month lengths n).1 ∧
    (countMonths month lengths n).1 < month + lengths.length ∧
    1 ≤ (countMonths month lengths n).2 ∧
    (countMonths month lengths n).2 ≤ lengths.getD ((countMonths month lengths n).1 - month) 0 ∧
    totalDays (lengths.take ((countMonths month lengths n).1 - month)) +
      ((countMonths month lengths n).2 - 1) = n := by
  induction lengths generalizing month n with
  | nil => exact absurd h (Nat.not_lt_zero n)
  | cons length rest ih =>
    rw [totalDays_cons] at h
    unfold countMonths
    split
    · rename_i hlt
      simp [totalDays]
      omega
    · rename_i hge
      obtain ⟨h₁, h₂, h₃, h₄, h₅⟩ := ih (month + 1) (n - length) (by omega)
      have hsplit : (countMonths (month + 1) rest (n - length)).1 - month =
          (countMonths (month + 1) rest (n - length)).1 - (month + 1) + 1 := by omega
      rw [hsplit, List.getD_cons_succ, List.take_succ_cons, totalDays_cons,
        List.length_cons]
      exact ⟨by omega, by omega, h₃, h₄, by omega⟩

/-! ## The date of a day number -/

theorem ofDayNumber_parts (n : Nat) :
    ∃ year inYear, 1 ≤ year ∧ inYear < yearLength year ∧ daysBeforeYear year + inYear = n ∧
      ofDayNumber n = ⟨year, (countMonths 1 (monthLengths year) inYear).1,
        (countMonths 1 (monthLengths year) inYear).2⟩ := by
  refine ⟨_, _, ?_, ?_, ?_, rfl⟩
  · omega
  · have hleap := isLeapYear_iff (n / 146097 * 400 + min (n % 146097 / 36524) 3 * 100 +
      (n % 146097 - min (n % 146097 / 36524) 3 * 36524) / 1461 * 4 +
      min ((n % 146097 - min (n % 146097 / 36524) 3 * 36524) % 1461 / 365) 3 + 1)
    unfold yearLength
    split
    · omega
    · rename_i hyear
      have := mt hleap.mpr hyear
      omega
  · rw [daysBeforeYear_cycles] <;> omega

/-- **The date of a day number has that number.** -/
theorem dayNumber_ofDayNumber (n : Nat) : (ofDayNumber n).dayNumber = n := by
  obtain ⟨year, inYear, _, hinYear, hn, hparts⟩ := ofDayNumber_parts n
  rw [← totalDays_monthLengths] at hinYear
  obtain ⟨_, _, _, _, hmonths⟩ := countMonths_spec (monthLengths year) 1 inYear hinYear
  rw [hparts, ← hn]
  exact (Nat.add_assoc _ _ _).trans (congrArg (daysBeforeYear year + ·) hmonths)

/-! ## Dates in their order -/

def Proper (d : Date) : Prop :=
  1 ≤ d.year ∧ d.isValid = true

def Before (a b : Date) : Prop :=
  a.year < b.year ∨ a.year = b.year ∧ (a.month < b.month ∨ a.month = b.month ∧ a.day < b.day)

theorem isValid_iff (d : Date) : d.isValid = true ↔
    (1 ≤ d.month ∧ d.month ≤ 12) ∧ 1 ≤ d.day ∧ d.day ≤ monthLength d.year d.month := by
  simp [isValid, and_assoc]

/-- **Every day number has a date.** -/
theorem proper_ofDayNumber (n : Nat) : (ofDayNumber n).Proper := by
  obtain ⟨year, inYear, hyear, hinYear, _, hparts⟩ := ofDayNumber_parts n
  rw [← totalDays_monthLengths] at hinYear
  obtain ⟨hfrom, hto, hfirst, hlast, _⟩ := countMonths_spec (monthLengths year) 1 inYear hinYear
  rw [length_monthLengths] at hto
  refine ⟨?_, ?_⟩
  · rw [hparts]
    exact hyear
  · rw [isValid_iff, hparts]
    exact ⟨⟨hfrom, Nat.lt_succ_iff.mp hto⟩, hfirst, hlast⟩

theorem daysBeforeYear_le {a b : Nat} (ha : 1 ≤ a) (h : a ≤ b) :
    daysBeforeYear a ≤ daysBeforeYear b := by
  induction h with
  | refl => exact Nat.le_refl _
  | @step b hab ih =>
    rw [daysBeforeYear_succ (Nat.le_trans ha hab)]
    exact Nat.le_add_right_of_le ih

theorem daysBeforeMonth_succ {year month : Nat} (hfrom : 1 ≤ month) (hto : month ≤ 12) :
    daysBeforeMonth year (month + 1) = daysBeforeMonth year month + monthLength year month := by
  obtain ⟨m, rfl⟩ : ∃ m, month = m + 1 := ⟨month - 1, by omega⟩
  have hm : m < (monthLengths year).length := by
    rw [length_monthLengths]
    omega
  unfold daysBeforeMonth monthLength
  rw [Nat.add_sub_cancel, Nat.add_sub_cancel, List.take_succ_eq_append_getElem hm,
    totalDays_append_singleton, List.getD_eq_getElem _ 0 hm]

theorem daysBeforeMonth_le {year a b : Nat} (ha : 1 ≤ a) (h : a ≤ b) (hb : b ≤ 13) :
    daysBeforeMonth year a ≤ daysBeforeMonth year b := by
  induction h with
  | refl => exact Nat.le_refl _
  | @step b hab ih =>
    have hmonth : b ≤ 12 := by omega
    rw [daysBeforeMonth_succ (Nat.le_trans ha hab) hmonth]
    exact Nat.le_add_right_of_le (ih (Nat.le_succ_of_le hmonth))

theorem daysBeforeMonth_thirteen (year : Nat) : daysBeforeMonth year 13 = yearLength year := by
  rw [← totalDays_monthLengths]
  rfl

theorem Proper.dayNumber_lt_month {d : Date} (h : d.Proper) :
    d.dayNumber < daysBeforeYear d.year + daysBeforeMonth d.year (d.month + 1) := by
  obtain ⟨hmonth, hday⟩ := (isValid_iff d).mp h.2
  rw [daysBeforeMonth_succ hmonth.1 hmonth.2]
  unfold dayNumber
  omega

theorem Proper.dayNumber_lt_year {d : Date} (h : d.Proper) :
    d.dayNumber < daysBeforeYear (d.year + 1) := by
  obtain ⟨hmonth, _⟩ := (isValid_iff d).mp h.2
  have hlt := h.dayNumber_lt_month
  have hle : daysBeforeMonth d.year (d.month + 1) ≤ daysBeforeMonth d.year 13 :=
    daysBeforeMonth_le (by omega) (by omega) (by omega)
  rw [daysBeforeMonth_thirteen] at hle
  rw [daysBeforeYear_succ h.1]
  omega

/-- **A later date has a greater number.** -/
theorem Before.dayNumber_lt {a b : Date} (ha : a.Proper) (hb : b.Proper) (h : a.Before b) :
    a.dayNumber < b.dayNumber := by
  obtain ⟨hmonth, hday⟩ := (isValid_iff b).mp hb.2
  obtain ⟨ay, am, ad⟩ := a
  obtain ⟨bY, bm, bd⟩ := b
  rcases h with hyear | ⟨rfl, hmonths | ⟨rfl, hdays⟩⟩
  · have hend := ha.dayNumber_lt_year
    have hbegin : daysBeforeYear (ay + 1) ≤ daysBeforeYear bY :=
      daysBeforeYear_le (by omega) hyear
    have hfrom : daysBeforeYear bY ≤ dayNumber ⟨bY, bm, bd⟩ :=
      Nat.le_trans (Nat.le_add_right _ _) (Nat.le_add_right _ _)
    exact Nat.lt_of_lt_of_le hend (Nat.le_trans hbegin hfrom)
  · have hend := ha.dayNumber_lt_month
    have hbegin : daysBeforeMonth ay (am + 1) ≤ daysBeforeMonth ay bm :=
      daysBeforeMonth_le (by omega) hmonths (by exact Nat.le_succ_of_le hmonth.2)
    simp only [dayNumber] at hend ⊢
    omega
  · have hfirst : 1 ≤ ad := ((isValid_iff _).mp ha.2).2.1
    simp only [dayNumber] at hdays ⊢
    omega

theorem before_or_eq_or_before (a b : Date) : a.Before b ∨ a = b ∨ b.Before a := by
  obtain ⟨ay, am, ad⟩ := a
  obtain ⟨bY, bm, bd⟩ := b
  simp only [Before, mk.injEq]
  omega

theorem before_ofDayNumber {m n : Nat} (h : m < n) : (ofDayNumber m).Before (ofDayNumber n) := by
  rcases before_or_eq_or_before (ofDayNumber m) (ofDayNumber n) with hlt | heq | hgt
  · exact hlt
  · have hnumber := congrArg dayNumber heq
    rw [dayNumber_ofDayNumber, dayNumber_ofDayNumber] at hnumber
    omega
  · have hnumber := hgt.dayNumber_lt (proper_ofDayNumber n) (proper_ofDayNumber m)
    rw [dayNumber_ofDayNumber, dayNumber_ofDayNumber] at hnumber
    omega

/-- **No two dates have one number.** -/
theorem ofDayNumber_dayNumber {d : Date} (h : d.Proper) : ofDayNumber d.dayNumber = d := by
  have hproper := proper_ofDayNumber d.dayNumber
  have hnumber := dayNumber_ofDayNumber d.dayNumber
  rcases before_or_eq_or_before (ofDayNumber d.dayNumber) d with hlt | heq | hgt
  · have := hlt.dayNumber_lt hproper h
    omega
  · exact heq
  · have := hgt.dayNumber_lt h hproper
    omega

theorem year_ofDayNumber_le {n : Nat} (h : n < 3652059) : (ofDayNumber n).year ≤ 9999 := by
  apply Nat.le_of_not_lt
  intro hyear
  have hle : daysBeforeYear 10000 ≤ daysBeforeYear (ofDayNumber n).year :=
    daysBeforeYear_le (by decide) (by omega)
  have hfrom : daysBeforeYear (ofDayNumber n).year ≤ (ofDayNumber n).dayNumber :=
    Nat.le_trans (Nat.le_add_right _ _) (Nat.le_add_right _ _)
  rw [dayNumber_ofDayNumber] at hfrom
  have hdays : daysBeforeYear 10000 = 3652059 := rfl
  omega

/-! ## The day after -/

theorem monthLength_pos (year : Nat) {month : Nat} (hfrom : 1 ≤ month) (hto : month ≤ 12) :
    1 ≤ monthLength year month := by
  have hall : ∀ n ∈ monthLengths year, 1 ≤ n := by
    unfold monthLengths
    split <;> decide
  unfold monthLength
  rw [List.getD_eq_getElem _ 0 (by rw [length_monthLengths]; omega)]
  exact hall _ (List.getElem_mem _)

/-- **The day after a date has the next number.** -/
theorem Proper.next {d : Date} (h : d.Proper) :
    d.next.Proper ∧ d.next.dayNumber = d.dayNumber + 1 := by
  obtain ⟨hyear, hvalid⟩ := h
  obtain ⟨⟨hfrom, hto⟩, hday, hlast⟩ := (isValid_iff d).mp hvalid
  obtain ⟨year, month, day⟩ := d
  dsimp only at hyear hfrom hto hday hlast
  unfold Date.next
  split
  · rename_i hlt
    refine ⟨⟨hyear, (isValid_iff _).mpr ⟨⟨hfrom, hto⟩, Nat.le_add_left 1 day, hlt⟩⟩, ?_⟩
    unfold dayNumber
    dsimp only
    omega
  · rename_i hge
    split
    · rename_i hmonth
      have hlength := monthLength_pos year (Nat.le_add_left 1 month) hmonth
      refine ⟨⟨hyear, (isValid_iff _).mpr
        ⟨⟨Nat.le_add_left 1 month, hmonth⟩, Nat.le_refl 1, hlength⟩⟩, ?_⟩
      unfold dayNumber
      dsimp only at hge ⊢
      rw [daysBeforeMonth_succ hfrom hto]
      omega
    · rename_i hmonth
      obtain rfl : month = 12 := Nat.le_antisymm hto (Nat.not_lt.mp hmonth)
      have hlength := monthLength_pos (year + 1) (Nat.le_refl 1) (by decide)
      refine ⟨⟨Nat.le_add_left 1 year, (isValid_iff _).mpr
        ⟨⟨Nat.le_refl 1, Nat.le_add_left 1 11⟩, Nat.le_refl 1, hlength⟩⟩, ?_⟩
      have hyears : daysBeforeMonth year 12 + monthLength year 12 = yearLength year := by
        rw [← daysBeforeMonth_succ (by decide) (by decide), daysBeforeMonth_thirteen]
      unfold dayNumber
      dsimp only at hge ⊢
      rw [daysBeforeYear_succ hyear]
      have hzero : daysBeforeMonth (year + 1) 1 = 0 := rfl
      omega

/-- Days are counted by the rule of the calendar for the day after. -/
theorem ofDayNumber_add (m n : Nat) : ofDayNumber (m + n) = Date.next^[n] (ofDayNumber m) := by
  induction n with
  | zero => rfl
  | succ n ih =>
    obtain ⟨hproper, hnumber⟩ := (proper_ofDayNumber (m + n)).next
    rw [Function.iterate_succ_apply', ← ih, ← ofDayNumber_dayNumber hproper, hnumber,
      dayNumber_ofDayNumber, Nat.add_assoc]

/-- One date lies a number of days after another one, or before it if that is negative, by the rule
of the calendar for the day after. -/
def DaysAfter (days : Int) (d e : Date) : Prop :=
  Date.next^[days.toNat] d = Date.next^[(-days).toNat] e

theorem daysAfter_iff {days : Int} {d e : Date} (hd : d.Proper) (he : e.Proper) :
    DaysAfter days d e ↔ (e.dayNumber : Int) = d.dayNumber + days := by
  have hcount : ∀ {x : Date} (n : Nat), x.Proper →
      Date.next^[n] x = ofDayNumber (x.dayNumber + n) := by
    intro x n hx
    rw [ofDayNumber_add, ofDayNumber_dayNumber hx]
  unfold DaysAfter
  rw [hcount _ hd, hcount _ he]
  constructor
  · intro h
    have hnumber := congrArg dayNumber h
    rw [dayNumber_ofDayNumber, dayNumber_ofDayNumber] at hnumber
    omega
  · intro h
    refine congrArg ofDayNumber ?_
    omega

end Date

end MeterFeed
