import RowFilter.Calendar.Moment
import RowFilter.Proofs.Calendar.DateText

/-! The text of a moment reads back as the moment if its year has four digits and no sign; a moment of
    any other year cannot be read from its text. A moment that is read exists, and its second is a leap
    second only at the end of a minute. -/

namespace RowFilter

open Decimal

namespace Moment

/-- The moment exists, and only the last second of a minute runs on as a leap second. -/
structure IsProper (m : Moment) : Prop where
  isValid : m.isValid = true
  leap : nanosPerSecond ≤ m.nanos → m.second % 60 = 59

/-- The year of a moment has four digits and no sign. -/
def HasPlainYear (m : Moment) : Prop :=
  0 ≤ m.date.year ∧ m.date.year ≤ 9999

instance (m : Moment) : Decidable m.HasPlainYear :=
  inferInstanceAs (Decidable (_ ∧ _))

theorem isValid_iff {m : Moment} :
    m.isValid = true ↔ m.date.isValid = true ∧ m.second < secondsPerDay ∧ m.nanos < 2 * nanosPerSecond := by
  simp only [isValid, Bool.and_eq_true, decide_eq_true_eq, and_assoc]

/-! ### Parts of the text -/

theorem fixed_padded {count n : Nat} {rest : List Char} (hc : 0 < count) (hn : n < 10 ^ count) :
    fixed count (padded count n ++ rest) = some (n, rest) := by
  have hl := length_padded hc hn
  have htake : (padded count n ++ rest).take count = padded count n := by
    rw [List.take_append_of_le_length (Nat.le_of_eq hl.symm), List.take_of_length_le (Nat.le_of_eq hl)]
  have hdrop : (padded count n ++ rest).drop count = rest := by
    rw [List.drop_append_of_le_length (Nat.le_of_eq hl.symm), List.drop_of_length_le (Nat.le_of_eq hl), List.nil_append]
  have hall : (padded count n).all Char.isDigit = true :=
    List.all_eq_true.mpr fun _ => isDigit_of_mem_padded
  simp only [fixed, htake, hdrop, hl, hall, beq_self_eq_true, Bool.and_self, if_true, ofDigits_padded]

theorem fraction?_padded {width n : Nat} {rest : List Char} (hw : 0 < width) (hw' : width ≤ 9) (hn : n < 10 ^ width)
    (hr : NotLed Char.isDigit rest) :
    fraction? ('.' :: (padded width n ++ rest)) = some (n * 10 ^ (9 - width), rest) := by
  have hl := length_padded hw hn
  have hrun : (padded width n ++ rest).takeWhile Char.isDigit = padded width n :=
    hr.takeWhile_append fun _ => isDigit_of_mem_padded
  have hkept : (padded width n).take 9 = padded width n := List.take_of_length_le (by omega)
  have hempty : (padded width n).isEmpty = false := by simp [padded_ne_nil]
  have hdrop : (padded width n ++ rest).drop (padded width n).length = rest := List.drop_left
  rw [hl] at hdrop
  simp only [fraction?, hrun, hkept, hempty, Bool.false_eq_true, if_false, ofDigits_padded, hl, hdrop]

theorem fraction?_fractionText {nanos : Nat} (rest : List Char) (hn : nanos < nanosPerSecond)
    (hr : NotLed (fun c => c == '.' || c.isDigit) rest) :
    fraction? (fractionText nanos ++ rest) = some (nanos, rest) := by
  have hr' : NotLed Char.isDigit rest := fun c hc => (Bool.or_eq_false_iff.mp (hr c hc)).2
  simp only [nanosPerSecond] at hn
  unfold fractionText
  split
  · next h0 =>
    rw [beq_iff_eq.mp h0, List.nil_append]
    unfold fraction?
    split
    · next cs => exact absurd (notLed_cons.mp hr) (by simp)
    · rfl
  · split
    · next h => 
      rw [List.cons_append, fraction?_padded (by omega) (by omega) (by omega) hr']
      have := beq_iff_eq.mp h
      simp only [Option.some.injEq, Prod.mk.injEq, and_true]
      omega
    · split
      · next h =>
        rw [List.cons_append, fraction?_padded (by omega) (by omega) (by omega) hr']
        have := beq_iff_eq.mp h
        simp only [Option.some.injEq, Prod.mk.injEq, and_true]
        omega
      · rw [List.cons_append, fraction?_padded (by omega) (by omega) (by omega) hr']
        simp

theorem ofLocal_zero {date : Date} {second nanos : Nat} (h : second < secondsPerDay) :
    ofLocal date second nanos 0 = ⟨date, second, nanos⟩ := by
  have h₁ : ¬((second : Int) - 0 < 0) := by omega
  have h₂ : (second : Int) - 0 < secondsPerDay := by omega
  dsimp only [ofLocal]
  rw [if_neg h₁, if_pos h₂]
  simp

/-! ### The whole text -/

theorem chars_of_hasPlainYear {m : Moment} (h : m.HasPlainYear) : m.date.chars =
    padded 4 m.date.year.natAbs ++ '-' :: (padded 2 m.date.month ++ '-' :: padded 2 m.date.day) := by
  have hy : (decide (0 ≤ m.date.year) && decide (m.date.year ≤ 9999)) = true := by
    simpa [HasPlainYear] using h
  simp only [Date.chars, Date.yearText, hy, if_true, List.append_assoc, List.cons_append]

theorem mark_cons (c : Char) (rest : List Char) : mark c (c :: rest) = some rest := by
  simp [mark]

theorem offset?_zero : offset? "+00:00".toList = some (0, []) :=
  rfl

/-- A moment with a plain year is read from its own text. -/
theorem ofChars?_chars {m : Moment} (hm : m.IsProper) (hy : m.HasPlainYear) : ofChars? m.chars = some m := by
  obtain ⟨hdate, hsecond, hnanos⟩ := isValid_iff.mp hm.isValid
  obtain ⟨-, ⟨-, hmonth⟩, -, hday⟩ := Date.isValid_iff.mp hdate
  have hlength := Date.monthLength_le m.date.year m.date.month
  have hday' : secondsPerDay = 86400 := rfl
  have hleap := hm.leap
  -- A leap second is written as second sixty, and its nanoseconds without the billion.
  obtain ⟨leap, hl, hcases⟩ : ∃ leap, (if nanosPerSecond ≤ m.nanos then 1 else 0) = leap ∧
      ((leap = 1 ∧ nanosPerSecond ≤ m.nanos) ∨ (leap = 0 ∧ m.nanos < nanosPerSecond)) := by
    by_cases h : nanosPerSecond ≤ m.nanos
    · exact ⟨1, if_pos h, .inl ⟨rfl, h⟩⟩
    · exact ⟨0, if_neg h, .inr ⟨rfl, Nat.lt_of_not_le h⟩⟩
  have htext : m.chars = padded 4 m.date.year.natAbs ++ '-' :: (padded 2 m.date.month ++ '-' ::
      (padded 2 m.date.day ++ 'T' :: (padded 2 (m.second / 3600) ++ ':' :: (padded 2 (m.second / 60 % 60) ++
        ':' :: (padded 2 (m.second % 60 + leap) ++ (fractionText (m.nanos - leap * nanosPerSecond) ++
          "+00:00".toList)))))) := by
    simp only [chars, chars_of_hasPlainYear hy, hl, List.append_assoc, List.cons_append]
  have hrest : m.nanos - leap * nanosPerSecond < nanosPerSecond := by
    rcases hcases with ⟨rfl, h⟩ | ⟨rfl, h⟩ <;> omega
  have hfraction := fraction?_fractionText "+00:00".toList hrest (notLed_cons.mpr rfl)
  obtain ⟨hy₀, hy₁⟩ := hy
  have hof : Date.of? m.date.year.natAbs m.date.month m.date.day = some m.date := by
    have : (m.date.year.natAbs : Int) = m.date.year := by omega
    simp only [Date.of?, this, hdate, if_true]
  have htime : (([] : List Char).isEmpty && decide (m.second / 3600 < 24) && decide (m.second / 60 % 60 < 60) &&
      decide (m.second % 60 + leap ≤ 60)) = true := by
    simp only [List.isEmpty_nil, Bool.and_eq_true, decide_eq_true_eq, true_and]
    omega
  have hsixty : (if (m.second % 60 + leap == 60) = true then 1 else 0) = leap := by
    rcases hcases with ⟨rfl, h⟩ | ⟨rfl, h⟩
    · simp [hleap h]
    · exact if_neg (by simp only [beq_iff_eq]; omega)
  have hclock : m.second / 3600 * 3600 + m.second / 60 % 60 * 60 + (m.second % 60 + leap) - leap = m.second := by
    omega
  have hwhole : m.nanos - leap * nanosPerSecond + leap * nanosPerSecond = m.nanos := by
    rcases hcases with ⟨rfl, h⟩ | ⟨rfl, h⟩ <;> omega
  have hlocal : ofLocal m.date
      (m.second / 3600 * 3600 + m.second / 60 % 60 * 60 + (m.second % 60 + leap) -
        if (m.second % 60 + leap == 60) = true then 1 else 0)
      (m.nanos - leap * nanosPerSecond + (if (m.second % 60 + leap == 60) = true then 1 else 0) * nanosPerSecond)
      0 = m := by
    rw [hsixty, hclock, hwhole, ofLocal_zero hsecond]
  rw [ofChars?, htext]
  refine Option.bind_eq_some_iff.mpr ⟨_, fixed_padded (by omega) (by omega), ?_⟩
  refine Option.bind_eq_some_iff.mpr ⟨_, mark_cons _ _, ?_⟩
  refine Option.bind_eq_some_iff.mpr ⟨_, fixed_padded (by omega) (by omega), ?_⟩
  refine Option.bind_eq_some_iff.mpr ⟨_, mark_cons _ _, ?_⟩
  refine Option.bind_eq_some_iff.mpr ⟨_, fixed_padded (by omega) (by omega), ?_⟩
  refine Option.bind_eq_some_iff.mpr ⟨_, fixed_padded (by omega) (by omega), ?_⟩
  refine Option.bind_eq_some_iff.mpr ⟨_, mark_cons _ _, ?_⟩
  refine Option.bind_eq_some_iff.mpr ⟨_, fixed_padded (by omega) (by omega), ?_⟩
  refine Option.bind_eq_some_iff.mpr ⟨_, mark_cons _ _, ?_⟩
  refine Option.bind_eq_some_iff.mpr ⟨_, fixed_padded (by omega) (by omega), ?_⟩
  refine Option.bind_eq_some_iff.mpr ⟨_, hfraction, ?_⟩
  refine Option.bind_eq_some_iff.mpr ⟨_, offset?_zero, ?_⟩
  refine Option.bind_eq_some_iff.mpr ⟨_, hof, ?_⟩
  show (if _ then some _ else none) = some m
  rw [if_pos htime, hlocal]

/-- The text of a moment with any other year begins with a sign, and no moment is read from it. -/
theorem ofChars?_chars_eq_none {m : Moment} (hy : ¬m.HasPlainYear) : ofChars? m.chars = none := by
  have hsign : ∃ c cs, m.chars = c :: cs ∧ c.isDigit = false := by
    have hy' : (decide (0 ≤ m.date.year) && decide (m.date.year ≤ 9999)) = false := by
      simpa [HasPlainYear] using hy
    simp only [chars, Date.chars, Date.yearText, hy', Bool.false_eq_true, if_false, List.append_assoc, List.cons_append]
    refine ⟨_, _, rfl, ?_⟩
    split <;> rfl
  obtain ⟨c, cs, hcs, hc⟩ := hsign
  have hfixed : fixed 4 (c :: cs) = none := by
    simp [fixed, hc]
  rw [ofChars?, hcs, hfixed]
  rfl

/-- No blank stands in the text of a moment. -/
theorem isBlank_of_mem_chars {m : Moment} {c : Char} (h : c ∈ m.chars) : Text.isBlank c = false := by
  have hpadded : ∀ {width n}, c ∈ padded width n → Text.isBlank c = false := fun h =>
    Text.isBlank_of_isDigit (isDigit_of_mem_padded h)
  have hfraction : ∀ {n}, c ∈ fractionText n → Text.isBlank c = false := fun {n} h => by
    have hcases : c = '.' ∨ ∃ width n, c ∈ padded width n := by
      unfold fractionText at h
      split at h
      · cases h
      · split at h
        · exact (List.mem_cons.mp h).imp id fun h => ⟨_, _, h⟩
        · split at h
          · exact (List.mem_cons.mp h).imp id fun h => ⟨_, _, h⟩
          · exact (List.mem_cons.mp h).imp id fun h => ⟨_, _, h⟩
    rcases hcases with rfl | ⟨_, _, h⟩
    · rfl
    · exact hpadded h
  have hzone : ("+00:00".toList.all fun c => !Text.isBlank c) = true := by
    decide
  simp only [chars, List.mem_append, List.mem_cons] at h
  rcases h with ((((h | rfl | h) | rfl | h) | rfl | h) | h) | h
  · exact Date.isBlank_of_mem_chars h
  · rfl
  · exact hpadded h
  · rfl
  · exact hpadded h
  · rfl
  · exact hpadded h
  · exact hfraction h
  · simpa using List.all_eq_true.mp hzone c h

/-! ### Moments that are read -/

theorem lt_of_fixed {count n : Nat} {cs rest : List Char} (h : fixed count cs = some (n, rest)) : n < 10 ^ count := by
  dsimp only [fixed] at h
  split at h
  · next hc =>
    obtain ⟨hl, hd⟩ := Bool.and_eq_true_iff.mp hc
    cases h
    have := ofDigits_lt (List.all_eq_true.mp hd)
    rwa [beq_iff_eq.mp hl] at this
  · cases h

theorem lt_of_fraction? {n : Nat} {cs rest : List Char} (h : fraction? cs = some (n, rest)) : n < nanosPerSecond := by
  unfold fraction? at h
  split at h
  · next more =>
    dsimp only at h
    split at h
    · cases h
    · simp only [Option.some.injEq, Prod.mk.injEq] at h
      obtain ⟨rfl, -⟩ := h
      generalize hk : (more.takeWhile Char.isDigit).take 9 = kept
      have hd : ∀ c ∈ kept, c.isDigit = true := fun c hc =>
        List.all_eq_true.mp List.all_takeWhile c (List.mem_of_mem_take (hk ▸ hc))
      have hl : kept.length ≤ 9 := by
        rw [← hk, List.length_take]
        omega
      calc ofDigits kept * 10 ^ (9 - kept.length)
        _ < 10 ^ kept.length * 10 ^ (9 - kept.length) :=
          Nat.mul_lt_mul_of_pos_right (ofDigits_lt hd) (Nat.pow_pos (by omega))
        _ = 10 ^ 9 := by rw [← Nat.pow_add, Nat.add_sub_cancel' hl]
  · cases h
    decide

/-- An offset is a number of whole minutes, less than a day. -/
theorem offset?_bounds {offset : Int} {cs rest : List Char} (h : offset? cs = some (offset, rest)) :
    ∃ minutes : Int, offset = 60 * minutes ∧ -1440 < minutes ∧ minutes < 1440 := by
  unfold offset? at h
  split at h
  · cases h
  · next c more =>
    split at h
    · cases h
      exact ⟨0, by simp⟩
    · split at h
      · simp only [Option.bind_eq_bind, Option.bind_eq_some_iff] at h
        obtain ⟨⟨hours, r₁⟩, -, r₂, -, ⟨minutes, r₃⟩, -, h⟩ := h
        dsimp only at h
        split at h
        · next hb =>
          simp only [Bool.and_eq_true, decide_eq_true_eq] at hb
          obtain ⟨rfl, -⟩ := Prod.mk.inj (Option.some.inj h)
          split
          · exact ⟨hours * 60 + minutes, by omega⟩
          · exact ⟨-(hours * 60 + minutes), by omega⟩
        · cases h
      · cases h

theorem isProper_ofLocal {date : Date} {second nanos : Nat} {minutes : Int} (hd : date.isValid = true)
    (hy : 0 ≤ date.year ∧ date.year ≤ 9999) (hs : second < secondsPerDay) (hn : nanos < 2 * nanosPerSecond)
    (hl : nanosPerSecond ≤ nanos → second % 60 = 59) (hm : -1440 < minutes ∧ minutes < 1440) :
    (ofLocal date second nanos (60 * minutes)).IsProper := by
  have hday : secondsPerDay = 86400 := rfl
  have hmin : Date.minYear = -262143 := rfl
  have hmax : Date.maxYear = 262142 := rfl
  unfold ofLocal
  dsimp only
  split
  · have hprev := Date.isValid_previous hd (by omega)
    exact ⟨isValid_iff.mpr ⟨hprev, by simp only; omega, hn⟩, fun h => by have := hl h; simp only; omega⟩
  · split
    · exact ⟨isValid_iff.mpr ⟨hd, by simp only; omega, hn⟩, fun h => by have := hl h; simp only; omega⟩
    · have hnext := Date.isValid_next hd (by omega)
      exact ⟨isValid_iff.mpr ⟨hnext, by simp only; omega, hn⟩, fun h => by have := hl h; simp only; omega⟩

/-- What is read is a local time in a year of four digits, moved by its offset. -/
theorem exists_ofLocal_of_ofChars? {cs : List Char} {m : Moment} (h : ofChars? cs = some m) :
    ∃ (date : Date) (second nanos : Nat) (minutes : Int), m = ofLocal date second nanos (60 * minutes) ∧
      date.isValid = true ∧ (0 ≤ date.year ∧ date.year ≤ 9999) ∧ second < secondsPerDay ∧
      nanos < 2 * nanosPerSecond ∧ (nanosPerSecond ≤ nanos → second % 60 = 59) ∧
      -1440 < minutes ∧ minutes < 1440 := by
  unfold ofChars? at h
  obtain ⟨⟨year, r₁⟩, hyear, h⟩ := Option.bind_eq_some_iff.mp h
  obtain ⟨r₂, -, h⟩ := Option.bind_eq_some_iff.mp h
  obtain ⟨⟨month, r₃⟩, -, h⟩ := Option.bind_eq_some_iff.mp h
  obtain ⟨r₄, -, h⟩ := Option.bind_eq_some_iff.mp h
  obtain ⟨⟨day, r₅⟩, -, h⟩ := Option.bind_eq_some_iff.mp h
  dsimp only at h
  split at h
  · split at h
    · obtain ⟨⟨hour, r₆⟩, -, h⟩ := Option.bind_eq_some_iff.mp h
      obtain ⟨r₇, -, h⟩ := Option.bind_eq_some_iff.mp h
      obtain ⟨⟨minute, r₈⟩, -, h⟩ := Option.bind_eq_some_iff.mp h
      obtain ⟨r₉, -, h⟩ := Option.bind_eq_some_iff.mp h
      obtain ⟨⟨second, r₁₀⟩, -, h⟩ := Option.bind_eq_some_iff.mp h
      obtain ⟨⟨nanos, r₁₁⟩, hnanos, h⟩ := Option.bind_eq_some_iff.mp h
      obtain ⟨⟨offset, r₁₂⟩, hoffset, h⟩ := Option.bind_eq_some_iff.mp h
      obtain ⟨date, hdate, h⟩ := Option.bind_eq_some_iff.mp h
      obtain ⟨minutes, rfl, hm⟩ := offset?_bounds hoffset
      have hy := lt_of_fixed hyear
      have hn := lt_of_fraction? hnanos
      have hday : secondsPerDay = 86400 := rfl
      have hyears : date.year = year := by
        dsimp only [Date.of?] at hdate
        split at hdate
        · cases hdate
          rfl
        · cases hdate
      dsimp only at h
      split at h
      · next ht =>
        simp only [Bool.and_eq_true, decide_eq_true_eq] at ht
        refine ⟨date, _, _, minutes, (Option.some.inj h).symm, Date.isValid_of_of? hdate, by omega, ?_, ?_, ?_, hm⟩ <;>
          by_cases hsixty : second = 60 <;> simp [hsixty] <;> omega
      · cases h
    · cases h
  · cases h

theorem isProper_of_ofChars? {cs : List Char} {m : Moment} (h : ofChars? cs = some m) : m.IsProper := by
  obtain ⟨date, second, nanos, minutes, rfl, hd, hy, hs, hn, hl, hm⟩ := exists_ofLocal_of_ofChars? h
  exact isProper_ofLocal hd hy hs hn hl hm

theorem date_ofLocal (date : Date) (second nanos : Nat) (offset : Int) :
    (ofLocal date second nanos offset).date = date.previous ∨ (ofLocal date second nanos offset).date = date ∨
      (ofLocal date second nanos offset).date = date.next := by
  unfold ofLocal
  dsimp only
  split
  · exact .inl rfl
  · split
    · exact .inr (.inl rfl)
    · exact .inr (.inr rfl)

/-- A moment that is read is in a year without a sign, or on the last day before those years or the first day
    after them. -/
theorem date_of_not_hasPlainYear {cs : List Char} {m : Moment} (h : ofChars? cs = some m) (hm : ¬m.HasPlainYear) :
    m.date = ⟨-1, 12, 31⟩ ∨ m.date = ⟨10000, 1, 1⟩ := by
  obtain ⟨date, second, nanos, minutes, rfl, -, hy, -⟩ := exists_ofLocal_of_ofChars? h
  unfold HasPlainYear at hm
  rcases date_ofLocal date second nanos (60 * minutes) with hd | hd | hd <;> rw [hd] at hm ⊢
  · rcases date.previous_cases with hp | hp <;> rw [hp] at hm
    · exact absurd hy hm
    · have hzero : date.year = 0 := by
        dsimp only at hm
        omega
      exact .inl (by rw [hp, hzero]; rfl)
  · exact absurd hy hm
  · rcases date.next_cases with hn | hn <;> rw [hn] at hm
    · exact absurd hy hm
    · have hlast : date.year = 9999 := by
        dsimp only at hm
        omega
      exact .inr (by rw [hn, hlast]; rfl)

end Moment

end RowFilter
