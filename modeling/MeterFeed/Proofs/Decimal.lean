import Mathlib.Data.List.Induction
import MeterFeed.Time.Iso

/-!
# Decimal digits with zeros in front

`DateTime.padded w n` writes a natural below `10 ^ w` in exactly `w` ASCII digits
(`length_padded`). Reading the digits gives the natural back (`asciiNumber?_padded`), and digits
that read as a natural are the ones that it is written in (`eq_padded_of_asciiNumber?`). The order of
the naturals is the order of their texts (`padded_lt_padded`), also with something behind them
(`append_lt_append`).
-/

namespace MeterFeed

theorem span_append {p : Char → Bool} {cs rest : List Char} (hcs : ∀ c ∈ cs, p c = true)
    (hrest : ∀ c ∈ rest.head?, p c = false) :
    (cs ++ rest).takeWhile p = cs ∧ (cs ++ rest).dropWhile p = rest := by
  rw [List.takeWhile_append_of_pos hcs, List.dropWhile_append_of_pos hcs]
  cases rest with
  | nil => exact ⟨List.append_nil cs, rfl⟩
  | cons c rest =>
    have hc : ¬ p c = true := Bool.eq_false_iff.mp (hrest c rfl)
    rw [List.takeWhile_cons_of_neg hc, List.dropWhile_cons_of_neg hc]
    exact ⟨List.append_nil cs, rfl⟩

theorem Layout.isDigit_of_mem_digits {c : Char} {n : Nat} (h : c ∈ digits n) : c.isDigit = true :=
  Nat.isDigit_of_mem_toDigits (by decide) (by decide) h

theorem Layout.padded_toDigits_succ {b w : Nat} (hb : 1 < b) (hw : 0 < w) (n : Nat) :
    padded (w + 1) (Nat.toDigits b n) =
      padded w (Nat.toDigits b (n / b)) ++ [(n % b).digitChar] := by
  unfold padded
  by_cases h : n < b
  · rw [Nat.toDigits_of_lt_base h, Nat.div_eq_of_lt h, Nat.mod_eq_of_lt h, Nat.toDigits_zero,
      List.length_singleton, List.length_singleton, Nat.add_sub_cancel]
    congr 1
    obtain ⟨v, rfl⟩ : ∃ v, w = v + 1 := ⟨w - 1, by omega⟩
    exact List.replicate_succ'
  · rw [Nat.toDigits_of_base_le hb (by omega), List.length_append, List.length_singleton,
      Nat.add_sub_add_right, List.append_assoc]

namespace DateTime

/-! ## One digit -/

theorem ascii?_digitChar {d : Nat} (h : d < 10) : DecimalDigit.ascii? d.digitChar = some d := by
  have hd : d.digitChar.toNat = 48 + d := Nat.toNat_digitChar_of_lt_ten h
  unfold DecimalDigit.ascii?
  rw [hd, if_pos (by omega)]
  congr 1
  omega

theorem eq_digitChar_of_ascii? {c : Char} {d : Nat} (h : DecimalDigit.ascii? c = some d) :
    d < 10 ∧ c = d.digitChar := by
  unfold DecimalDigit.ascii? at h
  split at h
  · cases h
    have hdigit : c.toNat - 48 < 10 := by omega
    refine ⟨hdigit, Char.toNat_inj.mp ?_⟩
    rw [Nat.toNat_digitChar_of_lt_ten hdigit]
    omega
  · cases h

theorem isDecimal_of_ascii? {c : Char} {d : Nat} (h : DecimalDigit.ascii? c = some d) :
    DecimalDigit.isDecimal c = true := by
  unfold DecimalDigit.isDecimal
  rw [DecimalDigit.value?_of_ascii? h]
  rfl

theorem digitChar_lt_digitChar {c d : Nat} (hcd : c < d) (hd : d < 10) :
    c.digitChar < d.digitChar := by
  show c.digitChar.toNat < d.digitChar.toNat
  rw [Nat.toNat_digitChar_of_lt_ten (by omega), Nat.toNat_digitChar_of_lt_ten hd]
  omega

/-! ## The last digit of a padded text -/

theorem padded_one {n : Nat} (h : n < 10) : padded 1 n = [n.digitChar] := by
  unfold padded Layout.padded Layout.digits
  rw [Nat.toDigits_of_lt_base h]
  rfl

theorem padded_succ {w : Nat} (hw : 0 < w) (n : Nat) :
    padded (w + 1) n = padded w (n / 10) ++ [(n % 10).digitChar] :=
  Layout.padded_toDigits_succ (by decide) hw n

/-- Induction over the digits of a padded text, from the first one on. -/
theorem padded_induction {P : Nat → Nat → Prop} (one : ∀ n < 10, P 1 n)
    (succ : ∀ w > 0, ∀ n, n < 10 ^ (w + 1) → P w (n / 10) → P (w + 1) n) :
    ∀ w > 0, ∀ n < 10 ^ w, P w n := by
  intro w hw
  induction w with
  | zero => exact absurd hw (Nat.lt_irrefl 0)
  | succ w ih =>
    intro n hn
    by_cases hzero : w = 0
    · subst hzero
      exact one n (by simpa using hn)
    · have hpos : 0 < w := Nat.pos_of_ne_zero hzero
      refine succ w hpos n hn (ih hpos _ ?_)
      rw [Nat.pow_succ] at hn
      omega

/-! ## Reading back -/

theorem length_padded {w n : Nat} (hw : 0 < w) (h : n < 10 ^ w) : (padded w n).length = w := by
  refine padded_induction (P := fun w n => (padded w n).length = w) ?_ ?_ w hw n h
  · intro n hn
    rw [padded_one hn]
    rfl
  · intro w hw n _ ih
    rw [padded_succ hw, List.length_append, ih]
    rfl

theorem ascii_of_mem_padded {w n : Nat} (hw : 0 < w) (h : n < 10 ^ w) :
    ∀ c ∈ padded w n, ∃ d, DecimalDigit.ascii? c = some d := by
  refine padded_induction
    (P := fun w n => ∀ c ∈ padded w n, ∃ d, DecimalDigit.ascii? c = some d) ?_ ?_ w hw n h
  · intro n hn c hc
    rw [padded_one hn, List.mem_singleton] at hc
    exact ⟨n, hc ▸ ascii?_digitChar hn⟩
  · intro w hw n _ ih c hc
    rw [padded_succ hw, List.mem_append, List.mem_singleton] at hc
    rcases hc with hc | rfl
    · exact ih c hc
    · exact ⟨n % 10, ascii?_digitChar (Nat.mod_lt _ (by decide))⟩

theorem isDecimal_of_mem_padded {w n : Nat} (hw : 0 < w) (h : n < 10 ^ w) :
    ∀ c ∈ padded w n, DecimalDigit.isDecimal c = true := by
  intro c hc
  obtain ⟨d, hd⟩ := ascii_of_mem_padded hw h c hc
  exact isDecimal_of_ascii? hd

theorem asciiNumber?_append_singleton (ds : List Char) (c : Char) : asciiNumber? (ds ++ [c]) =
    (asciiNumber? ds).bind fun n => (DecimalDigit.ascii? c).map (n * 10 + ·) := by
  unfold asciiNumber?
  rw [List.foldl_append, List.foldl_cons, List.foldl_nil]
  cases hdigit : DecimalDigit.ascii? c <;> simp

theorem asciiNumber?_concat {ds : List Char} {n d : Nat} (hds : asciiNumber? ds = some n)
    (hd : d < 10) : asciiNumber? (ds ++ [d.digitChar]) = some (n * 10 + d) := by
  rw [asciiNumber?_append_singleton, hds, ascii?_digitChar hd]
  rfl

theorem asciiNumber?_lt {ds : List Char} {n : Nat} (h : asciiNumber? ds = some n) :
    n < 10 ^ ds.length := by
  induction ds using List.reverseRecOn generalizing n with
  | nil =>
    cases h
    exact Nat.one_pos
  | append_singleton ds c ih =>
    rw [asciiNumber?_append_singleton] at h
    obtain ⟨m, hm, h⟩ := Option.bind_eq_some_iff.mp h
    obtain ⟨d, hd, rfl⟩ := Option.map_eq_some_iff.mp h
    have hdigit : d < 10 := (eq_digitChar_of_ascii? hd).1
    have hmore := ih hm
    rw [List.length_append, List.length_singleton, Nat.pow_succ]
    omega

/-- **Padded digits read back.** -/
theorem asciiNumber?_padded {w n : Nat} (hw : 0 < w) (h : n < 10 ^ w) :
    asciiNumber? (padded w n) = some n := by
  refine padded_induction (P := fun w n => asciiNumber? (padded w n) = some n) ?_ ?_ w hw n h
  · intro n hn
    rw [padded_one hn]
    have hnothing : asciiNumber? [] = some 0 := rfl
    have hdigit := asciiNumber?_concat hnothing hn
    rwa [Nat.zero_mul, Nat.zero_add] at hdigit
  · intro w hw n _ ih
    rw [padded_succ hw, asciiNumber?_concat ih (Nat.mod_lt _ (by decide))]
    congr 1
    omega

/-- **Digits that denote a number are its padded digits.** -/
theorem eq_padded_of_asciiNumber? {w n : Nat} {ds : List Char} (hw : 0 < w)
    (hlength : ds.length = w) (h : asciiNumber? ds = some n) : ds = padded w n := by
  induction ds using List.reverseRecOn generalizing w n with
  | nil => exact absurd hlength (Nat.ne_of_lt hw)
  | append_singleton ds c ih =>
    rw [asciiNumber?_append_singleton] at h
    obtain ⟨m, hm, h⟩ := Option.bind_eq_some_iff.mp h
    obtain ⟨d, hd, rfl⟩ := Option.map_eq_some_iff.mp h
    obtain ⟨hdigit, rfl⟩ := eq_digitChar_of_ascii? hd
    rw [List.length_append, List.length_singleton] at hlength
    subst hlength
    rcases Nat.eq_zero_or_pos ds.length with hzero | hpos
    · obtain rfl := List.length_eq_zero_iff.mp hzero
      obtain rfl : 0 = m := Option.some.inj hm
      rw [Nat.zero_mul, Nat.zero_add]
      exact (padded_one hdigit).symm
    · have hdiv : (m * 10 + d) / 10 = m := by omega
      have hmod : (m * 10 + d) % 10 = d := by omega
      rw [padded_succ hpos, hdiv, hmod, ← ih hpos rfl hm]

theorem asciiNumber?_append_zeros (ds : List Char) (k : Nat) :
    asciiNumber? (ds ++ List.replicate k '0') = (asciiNumber? ds).map (· * 10 ^ k) := by
  induction k with
  | zero => simp
  | succ k ih =>
    have hzero : DecimalDigit.ascii? '0' = some 0 := rfl
    rw [List.replicate_succ', ← List.append_assoc, asciiNumber?_append_singleton, ih, hzero]
    cases asciiNumber? ds with
    | none => rfl
    | some n =>
      show some (n * 10 ^ k * 10 + 0) = some (n * 10 ^ (k + 1))
      rw [Nat.add_zero, Nat.pow_succ, Nat.mul_assoc]

theorem takeDigits_eq_some {n : Nat} {cs ds rest : List Char}
    (h : takeDigits n cs = some (ds, rest)) : cs = ds ++ rest ∧ ds.length = n := by
  induction n generalizing cs ds with
  | zero =>
    cases h
    exact ⟨rfl, rfl⟩
  | succ n ih =>
    cases cs with
    | nil => cases h
    | cons c cs =>
      unfold takeDigits at h
      split at h
      · obtain ⟨⟨ds', rest'⟩, htaken, heq⟩ := Option.map_eq_some_iff.mp h
        cases heq
        obtain ⟨rfl, rfl⟩ := ih htaken
        exact ⟨rfl, rfl⟩
      · cases h

/-- Taking digits stops where their number says. -/
theorem takeDigits_append {ds : List Char} (h : ∀ c ∈ ds, DecimalDigit.isDecimal c = true)
    (rest : List Char) : takeDigits ds.length (ds ++ rest) = some (ds, rest) := by
  induction ds with
  | nil => rfl
  | cons c cs ih =>
    have hc : DecimalDigit.isDecimal c = true := h c List.mem_cons_self
    have hcs := ih fun x hx => h x (List.mem_cons_of_mem c hx)
    rw [List.cons_append, List.length_cons, takeDigits, if_pos hc, hcs]
    rfl

theorem takeDigits_padded {w n : Nat} (hw : 0 < w) (h : n < 10 ^ w) (rest : List Char) :
    takeDigits w (padded w n ++ rest) = some (padded w n, rest) := by
  have htaken := takeDigits_append (isDecimal_of_mem_padded hw h) rest
  rwa [length_padded hw h] at htaken

/-! ## Order -/

/-- What stands behind texts of one length does not change their order. -/
theorem append_lt_append {a b : List Char} (hlength : a.length = b.length) (h : a < b)
    (s t : List Char) : a ++ s < b ++ t := by
  induction a generalizing b with
  | nil =>
    obtain rfl : b = [] := List.length_eq_zero_iff.mp hlength.symm
    exact absurd h (List.lt_irrefl [])
  | cons x xs ih =>
    cases b with
    | nil => cases hlength
    | cons y ys =>
      rcases List.cons_lt_cons_iff.mp h with hxy | ⟨rfl, hrest⟩
      · exact List.cons_lt_cons_iff.mpr (.inl hxy)
      · exact List.cons_lt_cons_iff.mpr (.inr ⟨rfl, ih (Nat.succ.inj hlength) hrest⟩)

/-- **Padded digits are in the order of their numbers.** -/
theorem padded_lt_padded {w m n : Nat} (hw : 0 < w) (hmn : m < n) (hn : n < 10 ^ w) :
    padded w m < padded w n := by
  refine padded_induction (P := fun w n => ∀ m < n, padded w m < padded w n) ?_ ?_ w hw n hn m hmn
  · intro n hn m hmn
    rw [padded_one hn, padded_one (by omega)]
    exact List.cons_lt_cons_iff.mpr (.inl (digitChar_lt_digitChar hmn hn))
  · intro w hw n hn ih m hmn
    rw [padded_succ hw, padded_succ hw]
    have hpow : 10 ^ (w + 1) = 10 ^ w * 10 := Nat.pow_succ 10 w
    by_cases htens : m / 10 = n / 10
    · rw [htens]
      refine List.append_left_lt (List.cons_lt_cons_iff.mpr (.inl ?_))
      exact digitChar_lt_digitChar (by omega) (by omega)
    · refine append_lt_append ?_ (ih _ (by omega)) _ _
      rw [length_padded hw (by omega), length_padded hw (by omega)]

end DateTime

end MeterFeed
