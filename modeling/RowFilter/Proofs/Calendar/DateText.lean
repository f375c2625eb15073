import RowFilter.Calendar.Date
import RowFilter.Proofs.Text.Trimming

/-! The text of a date reads back as the date, for every year of the calendar. -/

namespace RowFilter

open Decimal

namespace Date

/-- Numbers are read without the blanks before them, and a number begins with none. -/
theorem trimStart_digits {ds rest : List Char} (hne : ds ≠ []) (hd : ∀ c ∈ ds, c.isDigit = true) :
    Text.trimStart (ds ++ rest) = ds ++ rest := by
  obtain ⟨c, cs, rfl⟩ := List.exists_cons_of_ne_nil hne
  exact Text.trimStart_of_notLed (notLed_cons.mpr (Text.isBlank_of_isDigit (hd c (by simp))))

/-- Digits are taken off whole if they are few enough and no digit follows them. -/
theorem number_append {most : Nat} {ds rest : List Char} (hne : ds ≠ []) (hd : ∀ c ∈ ds, c.isDigit = true)
    (hl : ds.length ≤ most) (hr : NotLed Char.isDigit rest) :
    number most (ds ++ rest) = some (ofDigits ds, rest) := by
  have htake : (ds ++ rest).take most = ds ++ rest.take (most - ds.length) := by
    rw [List.take_append, List.take_of_length_le hl]
  have hrun : ((ds ++ rest).take most).takeWhile Char.isDigit = ds := by
    rw [htake]
    exact (hr.take _).takeWhile_append hd
  have hempty : ds.isEmpty = false := by simp [hne]
  simp only [number, hrun, hempty, Bool.false_eq_true, if_false, List.drop_left]

theorem number_padded (width : Nat) {n : Nat} {rest : List Char} (hw : 0 < width) (hn : n < 10 ^ width)
    (hr : NotLed Char.isDigit rest) : number width (padded width n ++ rest) = some (n, rest) := by
  rw [number_append (padded_ne_nil _ _) (fun _ => isDigit_of_mem_padded) (Nat.le_of_eq (length_padded hw hn)) hr,
    ofDigits_padded]

/-! ### Years -/

theorem year?_yearText (year : Int) {rest : List Char} (hr : NotLed Char.isDigit rest) :
    year? (yearText year ++ rest) = some (year, rest) := by
  have hdigit : ∀ c ∈ padded 4 year.natAbs, c.isDigit = true := fun _ => isDigit_of_mem_padded
  have hsigned : number (padded 4 year.natAbs ++ rest).length (padded 4 year.natAbs ++ rest) =
      some (year.natAbs, rest) := by
    rw [number_append (padded_ne_nil _ _) hdigit (by simp) hr, ofDigits_padded]
  unfold yearText
  split
  · next hy =>
    simp only [Bool.and_eq_true, decide_eq_true_eq] at hy
    obtain ⟨c, cs, hcs⟩ := List.exists_cons_of_ne_nil (padded_ne_nil 4 year.natAbs)
    have hc : c.isDigit = true := hdigit c (by simp [hcs])
    have hnumber := number_padded 4 (n := year.natAbs) (by omega) (by omega) hr
    rw [hcs, List.cons_append] at hnumber ⊢
    -- The first digit is no sign, so the year is read as four digits.
    have hplus : c ≠ '+' := ne_of_isDigit hc rfl
    have hminus : c ≠ '-' := ne_of_isDigit hc rfl
    simp only [year?, hnumber]
    split
    · next heq => exact absurd (List.cons.inj heq).1 hminus
    · next heq => exact absurd (List.cons.inj heq).1 hplus
    · simp only [Option.map_some, Option.some.injEq, Prod.mk.injEq, and_true]
      omega
  · next hy =>
    simp only [Bool.and_eq_true, decide_eq_true_eq] at hy
    split
    · simp only [List.cons_append, year?, hsigned, Option.map_some, Option.some.injEq, Prod.mk.injEq, and_true]
      omega
    · simp only [List.cons_append, year?, hsigned, Option.map_some, Option.some.injEq, Prod.mk.injEq, and_true]
      omega

theorem mem_yearText {year : Int} {c : Char} (h : c ∈ yearText year) :
    c = '-' ∨ c = '+' ∨ c.isDigit = true := by
  unfold yearText at h
  split at h
  · exact .inr (.inr (isDigit_of_mem_padded h))
  · rcases List.mem_cons.mp h with rfl | h
    · split <;> simp
    · exact .inr (.inr (isDigit_of_mem_padded h))

/-! ### Dates -/

theorem isValid_iff {d : Date} : d.isValid = true ↔
    (minYear ≤ d.year ∧ d.year ≤ maxYear) ∧ (1 ≤ d.month ∧ d.month ≤ 12) ∧
      1 ≤ d.day ∧ d.day ≤ monthLength d.year d.month := by
  simp only [isValid, Bool.and_eq_true, decide_eq_true_eq]
  constructor
  · rintro ⟨⟨⟨⟨⟨h₁, h₂⟩, h₃⟩, h₄⟩, h₅⟩, h₆⟩
    exact ⟨⟨h₁, h₂⟩, ⟨h₃, h₄⟩, h₅, h₆⟩
  · rintro ⟨⟨h₁, h₂⟩, ⟨h₃, h₄⟩, h₅, h₆⟩
    exact ⟨⟨⟨⟨⟨h₁, h₂⟩, h₃⟩, h₄⟩, h₅⟩, h₆⟩

theorem monthLength_le (year : Int) (month : Nat) : monthLength year month ≤ 31 := by
  unfold monthLength
  split
  · split <;> omega
  · split <;> omega

theorem le_monthLength (year : Int) (month : Nat) : 28 ≤ monthLength year month := by
  unfold monthLength
  split
  · split <;> omega
  · split <;> omega

theorem isValid_next {d : Date} (h : d.isValid = true) (hy : d.year < maxYear) : d.next.isValid = true := by
  obtain ⟨⟨h₁, h₂⟩, ⟨h₃, h₄⟩, h₅, h₆⟩ := isValid_iff.mp h
  have hmin : minYear = -262143 := rfl
  unfold next
  split
  · exact isValid_iff.mpr ⟨⟨h₁, h₂⟩, ⟨h₃, h₄⟩, by simp, by simpa⟩
  · split
    · have := le_monthLength d.year (d.month + 1)
      exact isValid_iff.mpr ⟨⟨h₁, h₂⟩, ⟨by simp only; omega, by simp only; omega⟩, by simp, by simp only; omega⟩
    · have := le_monthLength (d.year + 1) 1
      exact isValid_iff.mpr ⟨⟨by simp only; omega, by simp only; omega⟩, by simp, by simp, by simp only; omega⟩

theorem isValid_previous {d : Date} (h : d.isValid = true) (hy : minYear < d.year) : d.previous.isValid = true := by
  obtain ⟨⟨h₁, h₂⟩, ⟨h₃, h₄⟩, h₅, h₆⟩ := isValid_iff.mp h
  have hmax : maxYear = 262142 := rfl
  unfold previous
  split
  · exact isValid_iff.mpr ⟨⟨h₁, h₂⟩, ⟨h₃, h₄⟩, by simp only; omega, by simp only; omega⟩
  · split
    · have := le_monthLength d.year (d.month - 1)
      exact isValid_iff.mpr ⟨⟨h₁, h₂⟩, ⟨by simp only; omega, by simp only; omega⟩, by simp only; omega, by simp⟩
    · exact isValid_iff.mpr ⟨⟨by simp only; omega, by simp only; omega⟩, by simp, by simp, by simp [monthLength]⟩

/-- The day after is in the same year, or the first day of the next one. -/
theorem next_cases (d : Date) : d.next.year = d.year ∨ d.next = ⟨d.year + 1, 1, 1⟩ := by
  unfold next
  split
  · exact .inl rfl
  · split
    · exact .inl rfl
    · exact .inr rfl

/-- The day before is in the same year, or the last day of the one before. -/
theorem previous_cases (d : Date) : d.previous.year = d.year ∨ d.previous = ⟨d.year - 1, 12, 31⟩ := by
  unfold previous
  split
  · exact .inl rfl
  · split
    · exact .inl rfl
    · exact .inr rfl

/-- No blank and no letter stands in the text of a date. -/
theorem mem_chars {d : Date} {c : Char} (h : c ∈ d.chars) : c = '-' ∨ c = '+' ∨ c.isDigit = true := by
  simp only [chars, List.mem_append, List.mem_cons] at h
  rcases h with (h | rfl | h) | rfl | h
  · exact mem_yearText h
  · exact .inl rfl
  · exact .inr (.inr (isDigit_of_mem_padded h))
  · exact .inl rfl
  · exact .inr (.inr (isDigit_of_mem_padded h))

theorem isBlank_of_mem_chars {d : Date} {c : Char} (h : c ∈ d.chars) : Text.isBlank c = false := by
  rcases mem_chars h with rfl | rfl | h
  · rfl
  · rfl
  · exact Text.isBlank_of_isDigit h

/-- A date that exists is read from its own text. -/
theorem ofChars?_chars {d : Date} (h : d.isValid = true) : ofChars? d.chars = some d := by
  obtain ⟨-, ⟨-, hm⟩, -, hd⟩ := isValid_iff.mp h
  have hmonth : d.month < 10 ^ 2 := by omega
  have hday : d.day < 10 ^ 2 := by
    have := monthLength_le d.year d.month
    omega
  have hyear : Text.trimStart d.chars = d.chars :=
    Text.trimStart_of_notLed fun c hc => isBlank_of_mem_chars (List.mem_of_head? hc)
  have hhyphen : ∀ cs, NotLed Char.isDigit ('-' :: cs) := fun _ => notLed_cons.mpr rfl
  have hmonthRest : ∀ rest, Text.trimStart (padded 2 d.month ++ rest) = padded 2 d.month ++ rest := fun _ =>
    trimStart_digits (padded_ne_nil _ _) fun _ => isDigit_of_mem_padded
  have hdayRest : Text.trimStart (padded 2 d.day) = padded 2 d.day := by
    have h : Text.trimStart (padded 2 d.day ++ []) = padded 2 d.day ++ [] :=
      trimStart_digits (padded_ne_nil _ _) fun _ => isDigit_of_mem_padded
    rwa [List.append_nil] at h
  have hdayNumber : number 2 (padded 2 d.day) = some (d.day, []) := by
    have h : number 2 (padded 2 d.day ++ []) = some (d.day, []) := number_padded 2 (by omega) hday (notLed_nil _)
    rwa [List.append_nil] at h
  rw [ofChars?, hyear, chars, List.append_assoc, year?_yearText _ (by simpa using hhyphen _)]
  simp only [List.cons_append, Option.bind_eq_bind, Option.bind_some, hmonthRest,
    number_padded 2 (by omega) hmonth (hhyphen _), hdayRest, hdayNumber, List.isEmpty_nil, if_true]
  simp only [of?, h, if_true]

theorem isValid_of_of? {year : Int} {month day : Nat} {d : Date} (h : of? year month day = some d) :
    d.isValid = true := by
  dsimp only [of?] at h
  split at h
  · next hv =>
    obtain rfl := Option.some.inj h
    exact hv
  · cases h

/-- Every date that is read exists. -/
theorem isValid_of_ofChars? {cs : List Char} {d : Date} (h : ofChars? cs = some d) : d.isValid = true := by
  simp only [ofChars?, Option.bind_eq_bind, Option.bind_eq_some_iff] at h
  obtain ⟨⟨year, r₁⟩, -, h⟩ := h
  split at h
  · simp only [Option.bind_eq_some_iff] at h
    obtain ⟨⟨month, r₂⟩, -, h⟩ := h
    split at h
    · simp only [Option.bind_eq_some_iff] at h
      obtain ⟨⟨day, r₃⟩, -, h⟩ := h
      split at h
      · exact isValid_of_of? h
      · cases h
    · cases h
  · cases h

end Date

end RowFilter
