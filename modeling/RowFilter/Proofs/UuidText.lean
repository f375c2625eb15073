import RowFilter.Proofs.Text.Trimming
import RowFilter.Uuid

/-! The text of an identifier reads back as the identifier, and an identifier that is read has 128
    bits. -/

namespace RowFilter.Uuid

/-! ### Hexadecimal digits -/

theorem length_hex (count n : Nat) : (hex count n).length = count := by
  induction count generalizing n with
  | zero => rfl
  | succ count ih => simp [hex, ih]

/-- The digits of a number are those of its upper part and then those of its lower part. -/
theorem hex_add (a b n : Nat) : hex (a + b) n = hex a (n / 16 ^ b) ++ hex b n := by
  induction b generalizing n with
  | zero => simp [hex]
  | succ b ih =>
    have hdiv : n / 16 / 16 ^ b = n / 16 ^ (b + 1) := by
      rw [Nat.div_div_eq_div_mul, Nat.pow_succ, Nat.mul_comm]
    rw [← Nat.add_assoc, hex, ih, hdiv, hex, List.append_assoc]

theorem mem_hex {count n : Nat} {c : Char} (h : c ∈ hex count n) : ∃ d < 16, c = Nat.digitChar d := by
  induction count generalizing n with
  | zero => simp [hex] at h
  | succ count ih =>
    rcases List.mem_append.mp h with h | h
    · exact ih h
    · exact ⟨n % 16, Nat.mod_lt _ (by omega), List.mem_singleton.mp h⟩

theorem hexDigit?_digitChar : ∀ d < 16, Json.hexDigit? (Nat.digitChar d) = some d := by
  decide

theorem lt_of_hexDigit? {c : Char} {d : Nat} (h : Json.hexDigit? c = some d) : d < 16 := by
  unfold Json.hexDigit? at h
  split at h
  · next hc =>
    simp only [Bool.and_eq_true, decide_eq_true_eq, Char.le_def, UInt32.le_iff_toNat_le] at hc
    cases h
    exact Nat.lt_of_le_of_lt (Nat.sub_le_sub_right hc.2 _) (by decide)
  · split at h
    · next hc =>
      simp only [Bool.and_eq_true, decide_eq_true_eq, Char.le_def, UInt32.le_iff_toNat_le] at hc
      cases h
      exact Nat.lt_of_le_of_lt (Nat.add_le_add_right (Nat.sub_le_sub_right hc.2 _) _) (by decide)
    · split at h
      · next hc =>
        simp only [Bool.and_eq_true, decide_eq_true_eq, Char.le_def, UInt32.le_iff_toNat_le] at hc
        cases h
        exact Nat.lt_of_le_of_lt (Nat.add_le_add_right (Nat.sub_le_sub_right hc.2 _) _) (by decide)
      · cases h

theorem ofHex?_hex_append (acc count n : Nat) (rest : List Char) :
    ofHex? acc (hex count n ++ rest) = ofHex? (acc * 16 ^ count + n % 16 ^ count) rest := by
  induction count generalizing n rest with
  | zero => simp [hex, Nat.mod_one]
  | succ count ih =>
    have hdigit := hexDigit?_digitChar (n % 16) (Nat.mod_lt _ (by omega))
    have hvalue : 16 * (acc * 16 ^ count + n / 16 % 16 ^ count) + n % 16 =
        acc * 16 ^ (count + 1) + n % 16 ^ (count + 1) := by
      rw [Nat.pow_succ', Nat.mod_mul, Nat.mul_add, Nat.mul_left_comm]
      omega
    rw [hex, List.append_assoc, ih, List.singleton_append, ofHex?, hdigit]
    simp only [Option.bind_eq_bind, Option.bind_some, hvalue]

theorem lt_of_ofHex? {ds : List Char} {acc v : Nat} (h : ofHex? acc ds = some v) :
    v < (acc + 1) * 16 ^ ds.length := by
  induction ds generalizing acc with
  | nil =>
    cases h
    simp
  | cons c ds ih =>
    simp only [ofHex?, Option.bind_eq_bind, Option.bind_eq_some_iff] at h
    obtain ⟨d, hd, h⟩ := h
    have hd := lt_of_hexDigit? hd
    calc v
      _ < (16 * acc + d + 1) * 16 ^ ds.length := ih h
      _ ≤ ((acc + 1) * 16) * 16 ^ ds.length := Nat.mul_le_mul_right _ (by omega)
      _ = (acc + 1) * 16 ^ (c :: ds).length := by rw [List.length_cons, Nat.pow_succ', Nat.mul_assoc]

/-! ### Groups -/

theorem ungrouped?_groups {a b c d e : List Char} (ha : a.length = 8) (hb : b.length = 4) (hc : c.length = 4)
    (hd : d.length = 4) (he : e.length = 12) :
    ungrouped? (a ++ '-' :: (b ++ '-' :: (c ++ '-' :: (d ++ '-' :: e)))) = some (a ++ b ++ c ++ d ++ e) := by
  generalize hcs : a ++ '-' :: (b ++ '-' :: (c ++ '-' :: (d ++ '-' :: e))) = cs
  have hhyphens : cs[8]? = some '-' ∧ cs[13]? = some '-' ∧ cs[18]? = some '-' ∧ cs[23]? = some '-' := by
    subst hcs
    simp [List.getElem?_append, ha, hb, hc, hd]
  have hparts : cs.length = 36 ∧ cs.take 8 = a ∧ (cs.drop 9).take 4 = b ∧ (cs.drop 14).take 4 = c ∧
      (cs.drop 19).take 4 = d ∧ cs.drop 24 = e := by
    subst hcs
    simp (disch := omega) [List.drop_append, List.drop_of_length_le, ha, hb, hc, hd, he]
  obtain ⟨hlength, h₁, h₂, h₃, h₄, h₅⟩ := hparts
  obtain ⟨h₆, h₇, h₈, h₉⟩ := hhyphens
  simp only [ungrouped?, hlength, h₆, h₇, h₈, h₉, beq_self_eq_true, Bool.and_self, if_true, h₁, h₂, h₃, h₄, h₅]

theorem length_of_ungrouped? {cs ds : List Char} (h : ungrouped? cs = some ds) : ds.length = 32 := by
  unfold ungrouped? at h
  dsimp only at h
  split at h
  · next hc =>
    simp only [Bool.and_eq_true, beq_iff_eq] at hc
    cases h
    simp
    omega
  · cases h

theorem length_of_digits? {cs ds : List Char} (h : digits? cs = some ds) : ds.length = 32 := by
  unfold digits? at h
  split at h
  · next hl =>
    cases h
    exact beq_iff_eq.mp hl
  · split at h
    · exact length_of_ungrouped? h
    · split at h
      · exact length_of_ungrouped? h
      · exact length_of_ungrouped? h

/-! ### The whole text -/

theorem chars_eq (u : Uuid) : u.chars = hex 8 (u.value / 2 ^ 96) ++ '-' :: (hex 4 (u.value / 2 ^ 80) ++
    '-' :: (hex 4 (u.value / 2 ^ 64) ++ '-' :: (hex 4 (u.value / 2 ^ 48) ++ '-' :: hex 12 u.value))) := by
  simp [chars]

/-- The groups of digits, put together, are the 32 digits of the number. -/
theorem hex_groups (n : Nat) : hex 8 (n / 2 ^ 96) ++ hex 4 (n / 2 ^ 80) ++ hex 4 (n / 2 ^ 64) ++
    hex 4 (n / 2 ^ 48) ++ hex 12 n = hex 32 n := by
  have h₁ := hex_add 8 4 (n / 2 ^ 80)
  have h₂ := hex_add 12 4 (n / 2 ^ 64)
  have h₃ := hex_add 16 4 (n / 2 ^ 48)
  have h₄ := hex_add 20 12 n
  simp only [Nat.div_div_eq_div_mul, Nat.reducePow, Nat.reduceMul, Nat.reduceAdd] at h₁ h₂ h₃ h₄ ⊢
  rw [← h₁, ← h₂, ← h₃, ← h₄]

theorem digits?_chars (u : Uuid) : digits? u.chars = some (hex 32 u.value) := by
  have hlength : u.chars.length = 36 := by
    simp [chars_eq, length_hex]
  have hscheme : ((u.chars.take scheme.length).map Char.toLower == scheme) = false := by
    obtain ⟨c, cs, hcs⟩ := List.exists_cons_of_ne_nil (l := hex 8 (u.value / 2 ^ 96))
      (List.ne_nil_of_length_pos (by rw [length_hex]; omega))
    have hc : c ∈ hex 8 (u.value / 2 ^ 96) := hcs ▸ List.mem_cons_self
    obtain ⟨d, hd, rfl⟩ := mem_hex hc
    have hlower : ∀ d < 16, (Nat.digitChar d).toLower ≠ 'u' := by decide
    rw [chars_eq, hcs]
    refine beq_eq_false_iff_ne.mpr fun heq => ?_
    exact hlower d hd (List.cons.inj heq).1
  unfold digits?
  rw [hlength, hscheme, if_neg (by simp), if_neg (by simp), if_neg (by simp), chars_eq,
    ungrouped?_groups (length_hex _ _) (length_hex _ _) (length_hex _ _) (length_hex _ _) (length_hex _ _),
    hex_groups]

theorem isBlank_of_mem_chars {u : Uuid} {c : Char} (h : c ∈ u.chars) : Text.isBlank c = false := by
  have hhex : ∀ {count n}, c ∈ hex count n → Text.isBlank c = false := fun h => by
    obtain ⟨d, hd, rfl⟩ := mem_hex h
    have : ∀ d < 16, Text.isBlank (Nat.digitChar d) = false := by decide
    exact this d hd
  simp only [chars_eq, List.mem_append, List.mem_cons] at h
  rcases h with h | rfl | h | rfl | h | rfl | h | rfl | h
  · exact hhex h
  · rfl
  · exact hhex h
  · rfl
  · exact hhex h
  · rfl
  · exact hhex h
  · rfl
  · exact hhex h

/-- An identifier is read from its own text. -/
theorem ofChars?_chars {u : Uuid} (h : u.isValid = true) : ofChars? u.chars = some u := by
  have hu : u.value < 16 ^ 32 := by simpa [isValid] using h
  have hhex := ofHex?_hex_append 0 32 u.value []
  rw [List.append_nil, Nat.zero_mul, Nat.zero_add, Nat.mod_eq_of_lt hu, ofHex?] at hhex
  simp only [ofChars?, digits?_chars, Option.bind_eq_bind, Option.bind_some, hhex, Option.pure_def]

theorem isValid_of_ofChars? {cs : List Char} {u : Uuid} (h : ofChars? cs = some u) : u.isValid = true := by
  simp only [ofChars?, Option.bind_eq_bind, Option.bind_eq_some_iff] at h
  obtain ⟨ds, hds, v, hv, h⟩ := h
  cases h
  have := lt_of_ofHex? hv
  rw [length_of_digits? hds] at this
  simpa [isValid] using this

end RowFilter.Uuid
