import RowFilter.Number.Double

/-! Whole numbers rounded to doubles. Of two whole numbers the greater one never has the smaller double, and
    those up to `2 ^ 53` are doubles themselves. -/

namespace RowFilter.Double

variable {m n den units : Nat}

/-! ### Quotients -/

theorem div_le_roundQuotient (num den : Nat) : num / den ≤ roundQuotient num den := by
  unfold roundQuotient
  dsimp only
  split
  · omega
  · split <;> omega

theorem roundQuotient_le (num den : Nat) : roundQuotient num den ≤ num / den + 1 := by
  unfold roundQuotient
  dsimp only
  split
  · omega
  · split <;> omega

theorem roundQuotient_mono (h : m ≤ n) : roundQuotient m den ≤ roundQuotient n den := by
  rcases Nat.lt_or_eq_of_le (Nat.div_le_div_right (c := den) h) with hlt | heq
  · calc roundQuotient m den ≤ m / den + 1 := roundQuotient_le m den
      _ ≤ n / den := hlt
      _ ≤ roundQuotient n den := div_le_roundQuotient n den
  · have hm := Nat.div_add_mod m den
    have hn := Nat.div_add_mod n den
    have hremainder : m % den ≤ n % den := by
      rw [heq] at hm
      omega
    unfold roundQuotient
    dsimp only
    rw [heq]
    repeat' split
    all_goals omega

theorem roundQuotient_mul (k : Nat) (hden : 0 < den) : roundQuotient (k * den) den = k := by
  unfold roundQuotient
  dsimp only
  rw [Nat.mul_div_cancel k hden, Nat.mul_mod_left, if_pos (by omega)]

/-! ### Grains -/

theorem grain_pos (units : Nat) : 0 < grain units :=
  Nat.two_pow_pos _

theorem roundUnits_one (units : Nat) : roundUnits units 1 = roundQuotient units (grain units) * grain units := by
  rw [roundUnits, Nat.div_one, Nat.one_mul]

/-- Whole grains need no rounding. -/
theorem roundUnits_eq_self (h : grain units ∣ units) : roundUnits units 1 = units := by
  obtain ⟨k, hk⟩ := h
  have hround : roundQuotient units (grain units) = k := by
    rw [Nat.mul_comm] at hk
    conv => lhs; arg 1; rw [hk]
    exact roundQuotient_mul k (grain_pos units)
  rw [roundUnits_one, hround, Nat.mul_comm, ← hk]

theorem roundQuotient_two_pow {e k : Nat} (h : e ≤ k) : roundQuotient (2 ^ k) (2 ^ e) * 2 ^ e = 2 ^ k := by
  have hpow : 2 ^ k = 2 ^ (k - e) * 2 ^ e := by rw [← Nat.pow_add, Nat.sub_add_cancel h]
  rw [hpow, roundQuotient_mul _ (Nat.two_pow_pos e)]

theorem roundUnits_le_two_pow (units : Nat) : roundUnits units 1 ≤ 2 ^ (units.log2 + 1) := by
  calc roundUnits units 1 = roundQuotient units (grain units) * grain units := roundUnits_one units
    _ ≤ roundQuotient (2 ^ (units.log2 + 1)) (grain units) * grain units :=
      Nat.mul_le_mul_right _ (roundQuotient_mono (Nat.le_of_lt Nat.lt_log2_self))
    _ = 2 ^ (units.log2 + 1) := roundQuotient_two_pow (by omega)

theorem two_pow_le_roundUnits (h : units ≠ 0) : 2 ^ units.log2 ≤ roundUnits units 1 := by
  calc 2 ^ units.log2 = roundQuotient (2 ^ units.log2) (grain units) * grain units :=
      (roundQuotient_two_pow (by omega)).symm
    _ ≤ roundQuotient units (grain units) * grain units :=
      Nat.mul_le_mul_right _ (roundQuotient_mono (Nat.log2_self_le h))
    _ = roundUnits units 1 := (roundUnits_one units).symm

theorem log2_le_log2 (h : m ≤ n) : m.log2 ≤ n.log2 := by
  by_cases hm : m = 0
  · subst hm
    exact Nat.zero_le _
  · exact (Nat.le_log2 (by omega)).mpr (Nat.le_trans (Nat.log2_self_le hm) h)

theorem roundUnits_mono (h : m ≤ n) : roundUnits m 1 ≤ roundUnits n 1 := by
  rcases Nat.lt_or_eq_of_le (log2_le_log2 h) with hlt | heq
  · -- A power of two lies between the numbers, and rounding passes over none.
    have hn : n ≠ 0 := by
      rintro rfl
      exact Nat.not_lt_zero _ hlt
    calc roundUnits m 1 ≤ 2 ^ (m.log2 + 1) := roundUnits_le_two_pow m
      _ ≤ 2 ^ n.log2 := Nat.pow_le_pow_right (by decide) hlt
      _ ≤ roundUnits n 1 := two_pow_le_roundUnits hn
  · rw [roundUnits_one, roundUnits_one, grain, grain, heq]
    exact Nat.mul_le_mul_right _ (roundQuotient_mono h)

/-! ### Whole numbers of 53 bits -/

theorem grain_dvd (h : n ≤ 2 ^ 53) (e : Nat) : grain (n * 2 ^ e) ∣ n * 2 ^ e := by
  by_cases hn : n = 0
  · rw [hn, Nat.zero_mul]
    exact Nat.dvd_zero _
  · rcases Nat.lt_or_eq_of_le h with hlt | heq
    · have hlog : (n * 2 ^ e).log2 < 53 + e := by
        rw [Nat.log2_lt (Nat.mul_ne_zero hn (Nat.ne_of_gt (Nat.two_pow_pos e))), Nat.pow_add]
        exact Nat.mul_lt_mul_of_pos_right hlt (Nat.two_pow_pos e)
      exact Nat.dvd_mul_left_of_dvd (Nat.pow_dvd_pow 2 (by omega)) n
    · have hpow : n * 2 ^ e = 2 ^ (53 + e) := by rw [heq, ← Nat.pow_add]
      rw [hpow, grain, Nat.log2_two_pow]
      exact Nat.pow_dvd_pow 2 (Nat.sub_le _ _)

theorem mul_two_pow_lt (h : n ≤ 2 ^ 53) {e k : Nat} (hk : 53 + e < k) : n * 2 ^ e < 2 ^ k := by
  calc n * 2 ^ e ≤ 2 ^ 53 * 2 ^ e := Nat.mul_le_mul_right _ h
    _ = 2 ^ (53 + e) := (Nat.pow_add 2 53 e).symm
    _ < 2 ^ k := Nat.pow_lt_pow_right (by decide) hk

/-- A whole number of 53 bits is a double itself. -/
theorem ofInt_of_natAbs_le {i : Int} (h : i.natAbs ≤ 2 ^ 53) :
    ofInt i = finite (decide (i < 0)) (i.natAbs * one) := by
  have hround : roundUnits (i.natAbs * one) 1 = i.natAbs * one := by
    rw [one]
    exact roundUnits_eq_self (grain_dvd h 1074)
  have hbound : i.natAbs * one < bound := by
    rw [one, bound]
    exact mul_two_pow_lt h (e := 1074) (k := 2098) (by decide)
  rw [ofInt, ofQuotient, hround, ofUnits, if_pos hbound]

end RowFilter.Double
