import MeterFeed.Proofs.Grammar

/-!
# Time texts of the wire read back

A time whose offset is a whole number of minutes below a day (`DateTime.OnMinutes`) is read back
from the text with its microseconds (`Rfc3339.read_isoMicros`), and what is read is such a time
(`Rfc3339.onMinutes_of_read`). A text is read as one of the year 0 exactly when its digits say so
(`Rfc3339.read_eq_yearZero_iff`).
-/

namespace MeterFeed

namespace DateTime

/-- The offset of a time is a whole number of minutes, less than a day. -/
def OnMinutes (t : DateTime) : Prop :=
  ∃ offset : Int, t.offset = some offset ∧ offset % 60000000 = 0 ∧ offset.natAbs < dayLength

theorem writeOffset_eq {offset : Int} (h : offset % 60000000 = 0) : writeOffset offset =
    (if offset < 0 then '-' else '+') :: padded 2 (offset.natAbs / 3600000000) ++
      ':' :: padded 2 (offset.natAbs / 60000000 % 60) := by
  have hseconds : offset.natAbs % 60000000 = 0 := by omega
  unfold writeOffset
  dsimp only
  rw [if_pos hseconds]
  exact List.append_nil _

end DateTime

namespace Rfc3339

open DateTime

/-! ## Times on whole minutes -/

theorem zone_writeOffset {offset : Int} (hminutes : offset % 60000000 = 0)
    (hsize : offset.natAbs < dayLength) : Zone (writeOffset offset) offset := by
  have hday : dayLength = 86400000000 := rfl
  rw [writeOffset_eq hminutes]
  by_cases hneg : offset < 0
  · have hzone := Zone.behind (offset.natAbs / 3600000000) (offset.natAbs / 60000000 % 60)
      (by omega) (by omega)
    rw [if_pos hneg]
    convert hzone using 1
    omega
  · have hzone := Zone.ahead (offset.natAbs / 3600000000) (offset.natAbs / 60000000 % 60)
      (by omega) (by omega)
    rw [if_neg hneg]
    convert hzone using 1
    omega

theorem Zone.onMinutes {zone : List Char} {offset : Int} (h : Zone zone offset) :
    offset % 60000000 = 0 ∧ offset.natAbs < dayLength := by
  have hday : dayLength = 86400000000 := rfl
  cases h with
  | utc => decide
  | ahead hours minutes hhours hminutes | behind hours minutes hhours hminutes => omega

theorem Denotes.exists_seconds {cs : List Char} {date : Date} {time : TimeOfDay} {offset : Int}
    (h : Denotes cs date time offset) : ∃ seconds : Int, offset = seconds * 1000000 := by
  obtain ⟨_, _, _, _, _, hzone, _⟩ := h.text
  have hminutes := hzone.onMinutes.1
  exact ⟨offset / 1000000, by omega⟩

theorem fraction_writeMicros {micro : Nat} (h : micro < 1000000) :
    Fraction (writeMicros micro) micro := by
  have hpart := Fraction.part 6 micro (by decide) h
  rwa [Nat.sub_self, Nat.pow_zero, Nat.mul_one] at hpart

/-- **A time on whole minutes is read back from its text.** -/
theorem read_isoMicros {t : DateTime} (h : t.OnMinutes) : read t.isoMicros = .time t := by
  obtain ⟨offset, hoffset, hminutes, hsize⟩ := h
  have htime := t.isValid_timeOfDay
  obtain ⟨-, -, -, hmicro⟩ := (TimeOfDay.isValid_iff _).mp htime
  refine read_eq_time_iff.mpr ⟨offset, hoffset, ?_, t.year_le, t.proper_date.2, htime⟩
  refine ⟨'T', by decide, writeMicros t.timeOfDay.micro, writeOffset offset,
    fraction_writeMicros hmicro, zone_writeOffset hminutes hsize, ?_⟩
  unfold isoMicros
  rw [hoffset]
  rfl

theorem onMinutes_of_read {cs : List Char} {t : DateTime} (h : read cs = .time t) :
    t.OnMinutes := by
  obtain ⟨offset, hoffset, ⟨_, _, _, _, _, hzone, _⟩, -, -, -⟩ := read_eq_time_iff.mp h
  exact ⟨offset, hoffset, hzone.onMinutes⟩

/-! ## The year 0 -/

/-- The digits of a text are those of a date, a time of day and an offset, but in the year 0. -/
def NamesYearZero (cs : List Char) : Prop :=
  ∃ digits date time offset, shape? cs = some digits ∧
    fields? digits = some (date, time, offset) ∧ date.year = 0

/-- **Only the year 0 is read as such.** -/
theorem read_eq_yearZero_iff {cs : List Char} : read cs = .yearZero ↔ NamesYearZero cs := by
  rw [read_eq_yearZero_iff_denotes]
  constructor
  · rintro ⟨date, time, offset, hdenotes, hzero⟩
    obtain ⟨digits, hshape, hfields⟩ := denotes_iff.mp hdenotes
    exact ⟨digits, date, time, offset, hshape, hfields, hzero⟩
  · rintro ⟨digits, date, time, offset, hshape, hfields, hzero⟩
    exact ⟨date, time, offset, denotes_iff.mpr ⟨digits, hshape, hfields⟩, hzero⟩

end Rfc3339

end MeterFeed
