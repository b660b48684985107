import MeterFeed.Number.Binary64

/-!
# Where the doubles end

An integer has a double next to it as long as its size is below `Binary64.beyond`, the middle
between the greatest double and `2 ^ 1024`; the middle itself is rounded up, to the even one of its
neighbours (`Binary64.ofInt?_eq_none_iff`).
-/

namespace MeterFeed

/-! ## Rounding up to a power of two -/

/-- The last quotient before `2 ^ 53` is rounded up from the middle on. -/
theorem roundDiv_eq_iff {n h : Nat} (hn : n < 2 ^ 53 * (2 * h)) :
    roundDiv n (2 * h) = 2 ^ 53 ↔ (2 ^ 53 - 1) * (2 * h) + h ≤ n := by
  have hsplit : 2 * h * (n / (2 * h)) + n % (2 * h) = n := Nat.div_add_mod n (2 * h)
  have hq : n / (2 * h) < 2 ^ 53 := by
    rw [Nat.mul_comm] at hn
    exact Nat.div_lt_of_lt_mul hn
  have hr : n % (2 * h) < 2 * h := by
    refine Nat.mod_lt n (Nat.pos_of_ne_zero fun hzero => ?_)
    rw [hzero, Nat.mul_zero] at hn
    exact absurd hn (Nat.not_lt_zero n)
  have hmiddle : (2 ^ 53 - 1) * (2 * h) + h ≤ n ↔
      n / (2 * h) = 2 ^ 53 - 1 ∧ h ≤ n % (2 * h) := by
    constructor
    · intro hle
      have hlast : 2 ^ 53 - 1 ≤ n / (2 * h) := by
        refine (Nat.le_div_iff_mul_le (by omega)).mpr ?_
        omega
      have heq : n / (2 * h) = 2 ^ 53 - 1 := by omega
      rw [heq, Nat.mul_comm] at hsplit
      exact ⟨heq, by omega⟩
    · rintro ⟨heq, hhalf⟩
      rw [heq, Nat.mul_comm] at hsplit
      omega
  rw [hmiddle]
  unfold roundDiv
  dsimp only
  split
  · omega
  · split
    · omega
    · split <;> omega

namespace Binary64

/-! ## The exponent of an integer -/

theorem exponentFor_one {n : Nat} (h : n ≠ 0) : exponentFor n 1 = (n.log2 : Int) - 52 := by
  have hlow : 2 ^ n.log2 ≤ n := Nat.log2_self_le h
  have hone : Nat.log2 1 = 0 := by decide
  unfold exponentFor
  simp only [hone, Nat.div_one, Nat.one_mul]
  have hscaled : ¬ (if (n.log2 : Int) - (0 : Nat) - 52 < 0
      then n * 2 ^ (-((n.log2 : Int) - (0 : Nat) - 52)).toNat
      else n / 2 ^ ((n.log2 : Int) - (0 : Nat) - 52).toNat) < 2 ^ 52 := by
    rw [Nat.not_lt]
    split
    · have hexp : 2 ^ n.log2 * 2 ^ (52 - n.log2) = 2 ^ 52 := by
        rw [← Nat.pow_add]
        congr 1
        omega
      have htoNat : (-((n.log2 : Int) - (0 : Nat) - 52)).toNat = 52 - n.log2 := by omega
      rw [htoNat, ← hexp]
      exact Nat.mul_le_mul_right _ hlow
    · have hexp : 2 ^ 52 * 2 ^ (n.log2 - 52) = 2 ^ n.log2 := by
        rw [← Nat.pow_add]
        congr 1
        omega
      have htoNat : ((n.log2 : Int) - (0 : Nat) - 52).toNat = n.log2 - 52 := by omega
      rw [htoNat, Nat.le_div_iff_mul_le (Nat.pow_pos (by decide)), hexp]
      exact hlow
  rw [if_neg hscaled]
  omega

theorem isFinite_carried (negative : Bool) (m : Nat) (e : Int) :
    isFinite (match (if m = 2 ^ 53 then (2 ^ 52, e + 1) else (m, e)) with
      | (m, e) => if 971 < e then .inf negative else .finite negative m e) = true ↔
      e < 971 ∨ e = 971 ∧ m ≠ 2 ^ 53 := by
  by_cases hm : m = 2 ^ 53
  · rw [if_pos hm]
    dsimp only
    by_cases he : 971 < e + 1
    · rw [if_pos he]
      simp only [isFinite, Bool.false_eq_true, false_iff]
      omega
    · rw [if_neg he]
      simp only [isFinite, true_iff]
      omega
  · rw [if_neg hm]
    dsimp only
    by_cases he : 971 < e
    · rw [if_pos he]
      simp only [isFinite, Bool.false_eq_true, false_iff]
      omega
    · rw [if_neg he]
      simp only [isFinite, true_iff]
      omega

theorem two_pow_toNat {e : Int} {k : Nat} (h : e = k + 1) : 2 ^ e.toNat = 2 * 2 ^ k := by
  have htoNat : e.toNat = k + 1 := by omega
  rw [htoNat, Nat.pow_succ']

theorem isFinite_ofRatio_one (negative : Bool) {n : Nat} (h : n ≠ 0) :
    (ofRatio negative n 1).isFinite = true ↔
      n.log2 < 1023 ∨ n.log2 = 1023 ∧ roundDiv n (2 * 2 ^ 970) ≠ 2 ^ 53 := by
  unfold ofRatio
  rw [if_neg h, exponentFor_one h]
  dsimp only
  rw [isFinite_carried]
  by_cases hk : n.log2 = 1023
  · have hnonneg : ¬ (n.log2 : Int) - 52 < 0 := by omega
    have hexponent : (n.log2 : Int) - 52 = (970 : Nat) + 1 := by omega
    rw [if_neg hnonneg, Nat.one_mul, two_pow_toNat hexponent]
    omega
  · omega

/-! ## The middle -/

/-- The middle between the greatest double and `2 ^ 1024`. -/
def beyond : Nat := 2 ^ 1024 - 2 ^ 970

theorem beyond_eq : beyond = (2 ^ 53 - 1) * (2 * 2 ^ 970) + 2 ^ 970 := by
  decide +kernel

theorem ofInt?_eq_none {n : Int} :
    ofInt? n = none ↔ (ofRatio (decide (n < 0)) n.natAbs 1).isFinite = false := by
  unfold ofInt?
  cases ofRatio (decide (n < 0)) n.natAbs 1 <;> simp [isFinite]

/-- **An integer has a double next to it unless it is beyond all doubles.** -/
theorem ofInt?_eq_none_iff (n : Int) : ofInt? n = none ↔ beyond ≤ n.natAbs := by
  rw [ofInt?_eq_none]
  generalize n.natAbs = k
  by_cases hk : k = 0
  · have hzero : ofRatio (decide (n < 0)) 0 1 = zero (decide (n < 0)) := rfl
    have hbeyond : ¬ beyond ≤ 0 := by decide +kernel
    rw [hk, hzero]
    exact iff_of_false Bool.noConfusion hbeyond
  · have hbeyond : 2 ^ 1023 ≤ beyond ∧ beyond ≤ 2 ^ 1024 := by
      decide +kernel
    rw [← Bool.not_eq_true, isFinite_ofRatio_one _ hk]
    rcases Nat.lt_trichotomy k.log2 1023 with hlt | heq | hgt
    · have hsmall : k < 2 ^ 1023 := (Nat.log2_lt (k := 1023) hk).mp hlt
      have hbelow : k < beyond := Nat.lt_of_lt_of_le hsmall hbeyond.1
      exact iff_of_false (fun hnot => hnot (.inl hlt)) (Nat.not_le.mpr hbelow)
    · have htop : k < 2 ^ 53 * (2 * 2 ^ 970) := by
        have hpow : (2 : Nat) ^ 1024 = 2 ^ 53 * (2 * 2 ^ 970) := by decide +kernel
        rw [← hpow]
        exact (Nat.log2_lt (k := 1024) hk).mp (heq ▸ Nat.lt_succ_self 1023)
      rw [beyond_eq, ← roundDiv_eq_iff htop]
      omega
    · have hlarge : 2 ^ 1024 ≤ k := (Nat.le_log2 (k := 1024) hk).mp hgt
      refine iff_of_true ?_ (Nat.le_trans hbeyond.2 hlarge)
      omega

end Binary64

end MeterFeed
