import RowFilter.Number.Decimal

/-! Decimal digits read back as the number that they were written for, with zeros in front or
    without, and digits stand apart from what follows them. -/

namespace RowFilter

/-! ### Runs of characters -/

/-- A text does not begin with a character of a class. -/
def NotLed (p : Char → Bool) (cs : List Char) : Prop :=
  ∀ c ∈ cs.head?, p c = false

theorem notLed_nil (p : Char → Bool) : NotLed p [] := by
  simp [NotLed]

theorem notLed_cons {p : Char → Bool} {c : Char} {cs : List Char} : NotLed p (c :: cs) ↔ p c = false := by
  simp [NotLed]

theorem NotLed.takeWhile_append {p : Char → Bool} {ds rest : List Char} (hr : NotLed p rest)
    (hd : ∀ c ∈ ds, p c = true) : (ds ++ rest).takeWhile p = ds := by
  rw [List.takeWhile_append_of_pos hd]
  cases rest with
  | nil => simp
  | cons c cs =>
    rw [notLed_cons] at hr
    simp [hr]

theorem NotLed.dropWhile_append {p : Char → Bool} {ds rest : List Char} (hr : NotLed p rest)
    (hd : ∀ c ∈ ds, p c = true) : (ds ++ rest).dropWhile p = rest := by
  rw [List.dropWhile_append_of_pos hd]
  cases rest with
  | nil => simp
  | cons c cs =>
    rw [notLed_cons] at hr
    simp [hr]

/-- What is put behind a text does not lengthen the run at its front. -/
theorem NotLed.takeWhile_append_right {p : Char → Bool} {rest : List Char} (hr : NotLed p rest) (cs : List Char) :
    (cs ++ rest).takeWhile p = cs.takeWhile p := by
  induction cs with
  | nil => exact show ([] ++ rest).takeWhile p = [] from hr.takeWhile_append (List.forall_mem_nil _)
  | cons c cs ih => rw [List.cons_append, List.takeWhile_cons, List.takeWhile_cons, ih]

theorem NotLed.dropWhile_append_right {p : Char → Bool} {rest : List Char} (hr : NotLed p rest) (cs : List Char) :
    (cs ++ rest).dropWhile p = cs.dropWhile p ++ rest := by
  induction cs with
  | nil => exact show ([] ++ rest).dropWhile p = rest from hr.dropWhile_append (List.forall_mem_nil _)
  | cons c cs ih =>
    rw [List.cons_append, List.dropWhile_cons, List.dropWhile_cons, ih]
    split <;> rfl

theorem NotLed.take {p : Char → Bool} {cs : List Char} (h : NotLed p cs) (n : Nat) : NotLed p (cs.take n) := by
  cases n with
  | zero => exact notLed_nil p
  | succ n =>
    cases cs with
    | nil => exact notLed_nil p
    | cons c cs => exact notLed_cons.mpr (notLed_cons.mp h)

/-! ### Digits -/

namespace Decimal

theorem toNat_of_isDigit {c : Char} (h : c.isDigit = true) : 48 ≤ c.toNat ∧ c.toNat ≤ 57 := by
  simp only [Char.isDigit, Bool.and_eq_true, decide_eq_true_eq, ge_iff_le, UInt32.le_iff_toNat_le] at h
  exact h

theorem ne_of_isDigit {c d : Char} (h : c.isDigit = true) (hd : d.isDigit = false) : c ≠ d := by
  rintro rfl
  rw [h] at hd
  cases hd

theorem ofDigits_digits (n : Nat) : ofDigits (digits n) = n :=
  Nat.ofDigitChars_ten_toDigits

theorem digits_ne_nil (n : Nat) : digits n ≠ [] :=
  Nat.toDigits_ne_nil

theorem isDigit_of_mem_digits {n : Nat} {c : Char} (h : c ∈ digits n) : c.isDigit = true :=
  Nat.isDigit_of_mem_toDigits (by omega) (by omega) h

theorem ofDigits_padded (width n : Nat) : ofDigits (padded width n) = n := by
  show Nat.ofDigitChars 10 (List.replicate _ '0' ++ Nat.toDigits 10 n) 0 = n
  rw [Nat.ofDigitChars_append, Nat.ofDigitChars_replicate_zero, Nat.mul_zero, Nat.ofDigitChars_ten_toDigits]

theorem padded_ne_nil (width n : Nat) : padded width n ≠ [] := by
  simp [padded, digits_ne_nil]

theorem isDigit_of_mem_padded {width n : Nat} {c : Char} (h : c ∈ padded width n) : c.isDigit = true := by
  rcases List.mem_append.mp h with h | h
  · rw [List.eq_of_mem_replicate h]
    rfl
  · exact isDigit_of_mem_digits h

/-- A number below `10 ^ width` fills exactly the width. -/
theorem length_padded {width n : Nat} (hw : 0 < width) (h : n < 10 ^ width) : (padded width n).length = width := by
  have hl : (digits n).length ≤ width := (Nat.length_toDigits_le_iff (by omega) hw).mpr h
  simp only [padded, List.length_append, List.length_replicate]
  omega

/-- Digits write a number below the power of ten of their count. -/
theorem ofDigits_lt {ds : List Char} (hd : ∀ c ∈ ds, c.isDigit = true) : ofDigits ds < 10 ^ ds.length := by
  show Nat.ofDigitChars 10 ds 0 < 10 ^ ds.length
  induction ds with
  | nil => simp
  | cons c ds ih =>
    obtain ⟨h₁, h₂⟩ := toNat_of_isDigit (hd c List.mem_cons_self)
    have ih := ih fun d h => hd d (List.mem_cons_of_mem c h)
    have hzero : '0'.toNat = 48 := rfl
    have hle : 10 ^ ds.length * (10 * 0 + (c.toNat - '0'.toNat)) ≤ 10 ^ ds.length * 9 :=
      Nat.mul_le_mul_left _ (by omega)
    rw [Nat.ofDigitChars_cons, Nat.ofDigitChars_eq_ofDigitChars_zero, List.length_cons, Nat.pow_succ]
    omega

end Decimal

end RowFilter
