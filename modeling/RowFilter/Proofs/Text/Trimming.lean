import RowFilter.Proofs.Number.Digits
import RowFilter.Text.Blank

/-! Trimming leaves a text alone that neither begins nor ends with a blank. -/

namespace RowFilter.Text

theorem isBlank_of_isDigit {c : Char} (h : c.isDigit = true) : isBlank c = false := by
  obtain ⟨h₁, h₂⟩ := Decimal.toNat_of_isDigit h
  simp only [isBlank, Bool.or_eq_false_iff, Bool.and_eq_false_iff, decide_eq_false_iff_not, beq_eq_false_iff_ne]
  omega

theorem trimStart_of_notLed {cs : List Char} (h : NotLed isBlank cs) : trimStart cs = cs :=
  show ([] ++ cs).dropWhile isBlank = cs from h.dropWhile_append (by simp)

/-- Blanks are not trimmed from a text that has none on either side. -/
theorem trim_eq_self {cs : List Char} (hs : NotLed isBlank cs) (he : NotLed isBlank cs.reverse) : trim cs = cs := by
  rw [trim, trimStart_of_notLed hs, trimEnd]
  have hr := trimStart_of_notLed he
  rw [trimStart] at hr
  rw [hr, List.reverse_reverse]

/-- Nothing is trimmed from a text without blanks. -/
theorem trim_eq_self_of_all {cs : List Char} (h : ∀ c ∈ cs, isBlank c = false) : trim cs = cs :=
  trim_eq_self (fun c hc => h c (List.mem_of_head? hc))
    (fun c hc => h c (List.mem_reverse.mp (List.mem_of_head? hc)))

end RowFilter.Text
