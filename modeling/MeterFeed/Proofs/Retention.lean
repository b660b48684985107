import MeterFeed.Sink

/-!
# What a sink keeps

A sink is a window that slides along the history of its points: it holds the newest ones of all that
were ever written, as many as its capacity allows. `Newest` says what these are, and `newest_iff`
that there is just one such list.

A write forgets all points at once that are too many. `Sink.push` takes in one point, and forgets
one if there are too many then; `Sink.write_eq_foldl_push` says that a write comes to pushing its
points. So only the order of the points counts, and not how they were split into writes
(`Sink.foldl_write`). `Sink.slides` adds what is handed out to whoever asks for the last few.
-/

namespace MeterFeed

/-! ## The newest elements of a list -/

section Lists
variable {α : Type}

/-- The elements at the end of a list: as many as there is room for, or all of them. -/
structure Newest (room : Option Nat) (xs ys : List α) : Prop where
  at_end : xs <:+ ys
  length : xs.length = match room with
    | none => ys.length
    | some n => min n ys.length

theorem length_lastOf (n : Nat) (xs : List α) : (lastOf n xs).length = min n xs.length := by
  unfold lastOf
  rw [List.length_drop]
  omega

theorem lastOf_of_length_le {n : Nat} {xs : List α} (h : xs.length ≤ n) : lastOf n xs = xs := by
  unfold lastOf
  rw [Nat.sub_eq_zero_of_le h, List.drop_zero]

theorem lastOf_lastOf_append (n : Nat) (xs ys : List α) :
    lastOf n (lastOf n xs ++ ys) = lastOf n (xs ++ ys) := by
  unfold lastOf
  rw [← List.drop_append_of_le_length (Nat.sub_le xs.length n), List.drop_drop]
  congr 1
  simp only [List.length_drop, List.length_append]
  omega

namespace Sink

theorem keep_nil (capacity : Option Nat) : keep capacity ([] : List α) = [] := by
  cases capacity with
  | none => rfl
  | some n => exact List.drop_nil

theorem keep_keep_append (capacity : Option Nat) (xs ys : List α) :
    keep capacity (keep capacity xs ++ ys) = keep capacity (xs ++ ys) := by
  cases capacity with
  | none => rfl
  | some n => exact lastOf_lastOf_append n xs ys

end Sink

/-- The newest elements are those that a sink keeps. -/
theorem newest_iff {room : Option Nat} {xs ys : List α} :
    Newest room xs ys ↔ xs = Sink.keep room ys := by
  cases room with
  | none => exact ⟨fun h => h.at_end.eq_of_length h.length, fun h => h ▸ ⟨List.suffix_rfl, rfl⟩⟩
  | some n =>
    constructor
    · intro h
      have hdropped : ys.length - xs.length = ys.length - n := by
        have hlength : xs.length = min n ys.length := h.length
        omega
      rw [List.suffix_iff_eq_drop.mp h.at_end, hdropped]
      rfl
    · rintro rfl
      exact ⟨List.drop_suffix _ _, length_lastOf n ys⟩

end Lists

/-! ## Writes -/

namespace Sink

variable {α : Type} {s : Sink α}

def Fits (s : Sink α) : Prop :=
  ∀ n ∈ s.capacity, s.points.length ≤ n

/-- Takes in one point at the end, and forgets the oldest one if there are too many then. -/
def push (s : Sink α) (point : α) : Sink α :=
  let points := s.points ++ [point]
  match s.capacity with
  | none => { s with points }
  | some n => { s with points := if n < points.length then points.tail else points }

theorem fits_write (s : Sink α) (points : List α) : (s.write points).Fits := by
  obtain ⟨capacity, held⟩ := s
  rintro n ⟨⟩
  show (lastOf n _).length ≤ n
  rw [length_lastOf]
  exact Nat.min_le_left _ _

theorem write_nil (h : s.Fits) : s.write [] = s := by
  obtain ⟨capacity, held⟩ := s
  cases capacity with
  | none => simp [write, keep]
  | some n => simp [write, keep, lastOf_of_length_le (h n rfl)]

theorem write_write (s : Sink α) (xs ys : List α) : (s.write xs).write ys = s.write (xs ++ ys) := by
  unfold write
  dsimp only
  rw [keep_keep_append, List.append_assoc]

theorem write_singleton (h : s.Fits) (point : α) : s.write [point] = s.push point := by
  obtain ⟨capacity, held⟩ := s
  cases capacity with
  | none => rfl
  | some n =>
    have hheld : held.length ≤ n := h n rfl
    have hlength : (held ++ [point]).length = held.length + 1 := List.length_append
    unfold write push keep
    dsimp only
    congr 1
    split
    · have hone : (held ++ [point]).length - n = 1 := by omega
      unfold lastOf
      rw [hone, List.drop_one]
    · exact lastOf_of_length_le (by omega)

/-- **Points are forgotten one by one.** A write comes to pushing its points, each in its turn. -/
theorem write_eq_foldl_push (h : s.Fits) (points : List α) :
    s.write points = points.foldl push s := by
  induction points generalizing s with
  | nil => exact write_nil h
  | cons point rest ih =>
    calc s.write (point :: rest)
        = (s.write [point]).write rest := (write_write s [point] rest).symm
      _ = rest.foldl push (s.write [point]) := ih (fits_write s [point])
      _ = (point :: rest).foldl push s := by rw [write_singleton h]; rfl

theorem foldl_write (h : s.Fits) (writes : List (List α)) :
    writes.foldl write s = s.write writes.flatten := by
  induction writes generalizing s with
  | nil => exact (write_nil h).symm
  | cons points rest ih =>
    calc (points :: rest).foldl write s
        = (s.write points).write rest.flatten := ih (fits_write s points)
      _ = s.write (points :: rest).flatten := write_write s points rest.flatten

/-! ## Capacities -/

theorem fits_empty (capacity : Option Nat) : (⟨capacity, []⟩ : Sink α).Fits :=
  fun n _ => Nat.zero_le n

theorem ofCapacity_eq_ok_iff (capacity : Option Nat) :
    ofCapacity (capacity.map Int.ofNat) = .ok (⟨capacity, []⟩ : Sink α) ↔
      ∀ n ∈ capacity, n ≤ Word.size.greatest := by
  cases capacity with
  | none => simp [ofCapacity]
  | some n =>
    have hholds : Word.size.holds n = true ↔ n ≤ Word.size.greatest := by
      unfold Word.holds Word.least
      rw [Bool.and_eq_true, decide_eq_true_eq, decide_eq_true_eq]
      omega
    by_cases h : n ≤ Word.size.greatest
    · simp [ofCapacity, hholds.mpr h, h]
    · simp [ofCapacity, mt hholds.mp h, h]

/-- **A sink is a sliding window of its history.** Of every sink that can be made, and whatever is
written to it: it holds the newest of all points that were written, as many as its capacity allows,
as if they had been pushed one by one; and whoever asks for the last few gets the newest of these,
in the order in which they were written, and nothing without a positive limit. -/
theorem slides (capacity : Option Nat) :
    (ofCapacity (capacity.map Int.ofNat) = .ok (⟨capacity, []⟩ : Sink α) ↔
      ∀ n ∈ capacity, n ≤ Word.size.greatest) ∧
    ∀ writes : List (List α),
      let s := writes.foldl write ⟨capacity, []⟩
      s = writes.flatten.foldl push ⟨capacity, []⟩ ∧
      Newest capacity (s.recent none) writes.flatten ∧
      ∀ limit : Int,
        (0 < limit → Newest (some limit.toNat) (s.recent (some limit)) (s.recent none)) ∧
        (limit ≤ 0 → s.recent (some limit) = []) := by
  refine ⟨ofCapacity_eq_ok_iff capacity, ?_⟩
  intro writes s
  have hs : s = write ⟨capacity, []⟩ writes.flatten := foldl_write (fits_empty capacity) writes
  refine ⟨hs.trans (write_eq_foldl_push (fits_empty capacity) _), ?_, fun limit => ⟨?_, ?_⟩⟩
  · rw [hs]
    exact newest_iff.mpr rfl
  · intro _
    exact newest_iff.mpr rfl
  · intro hlimit
    show lastOf limit.toNat s.points = []
    rw [Int.toNat_of_nonpos hlimit]
    exact List.drop_length

/-- Three writes to a sink for two points, one of them too large and one empty, and the last three
points of it. -/
theorem slides_past_capacity :
    let s := [["a"], ["b", "c", "d"], [], ["e"]].foldl write ⟨some 2, []⟩
    s.recent none = ["d", "e"] ∧ Newest (some 2) ["d", "e"] ["a", "b", "c", "d", "e"] ∧
      (0 : Int) < 3 ∧ Newest (some 3) (s.recent (some 3)) ["d", "e"] ∧
      (-1 : Int) ≤ 0 ∧ s.recent (some (-1)) = [] := by
  intro s
  obtain ⟨-, hslides⟩ := slides (α := String) (some 2)
  obtain ⟨-, hheld, hlimits⟩ := hslides [["a"], ["b", "c", "d"], [], ["e"]]
  exact ⟨rfl, hheld, by decide, (hlimits 3).1 (by decide), by decide, (hlimits (-1)).2 (by decide)⟩

end Sink

end MeterFeed
