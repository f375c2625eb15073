import RowFilter.Text.Octets

/-! Octets read back as the text that they were written for. The first octet of a character sets how many
    follow and bounds the next one; the octets of a character keep to that and complete it. -/

namespace RowFilter.Text

/-! ### Steps of the reader -/

theorem ofOctetsFrom_ascii {b : Nat} (hb : b < 0x80) (rest : List Nat) :
    ofOctetsFrom none (b :: rest) = Char.ofNat b :: ofOctetsFrom none rest := by
  rw [ofOctetsFrom, octetStep, firstOctet, if_pos hb]
  rfl

theorem ofOctetsFrom_first {b : Nat} {p : Pending} (hb : firstOctet b = ([], some p)) (rest : List Nat) :
    ofOctetsFrom none (b :: rest) = ofOctetsFrom (some p) rest := by
  rw [ofOctetsFrom, octetStep, hb]
  rfl

theorem ofOctetsFrom_more {b owed low high bits : Nat} (hlow : low ≤ b) (hhigh : b ≤ high) (rest : List Nat) :
    ofOctetsFrom (some ⟨owed + 1, low, high, bits⟩) (b :: rest) =
      ofOctetsFrom (some ⟨owed, 0x80, 0xBF, bits * 0x40 + (b - 0x80)⟩) rest := by
  have hb : (decide (low ≤ b) && decide (b ≤ high)) = true := by simp [hlow, hhigh]
  rw [ofOctetsFrom, octetStep, if_pos hb]
  rfl

theorem ofOctetsFrom_last {b low high bits : Nat} (hlow : low ≤ b) (hhigh : b ≤ high) (rest : List Nat) :
    ofOctetsFrom (some ⟨0, low, high, bits⟩) (b :: rest) =
      Char.ofNat (bits * 0x40 + (b - 0x80)) :: ofOctetsFrom none rest := by
  have hb : (decide (low ≤ b) && decide (b ≤ high)) = true := by simp [hlow, hhigh]
  rw [ofOctetsFrom, octetStep, if_pos hb]
  rfl

/-! ### First octets -/

theorem firstOctet_two : ∀ k < 0x20, 2 ≤ k → firstOctet (0xC0 + k) = ([], some ⟨0, 0x80, 0xBF, k⟩) := by
  decide

/-- The octet after the first one excludes long forms of smaller characters, and surrogates. -/
theorem firstOctet_three : ∀ k < 0x10, firstOctet (0xE0 + k) =
    ([], some ⟨1, if k = 0 then 0xA0 else 0x80, if k = 0xD then 0x9F else 0xBF, k⟩) := by
  decide

/-- The octet after the first one excludes long forms of smaller characters, and what is beyond all
    characters. -/
theorem firstOctet_four : ∀ k < 5, firstOctet (0xF0 + k) =
    ([], some ⟨2, if k = 0 then 0x90 else 0x80, if k = 4 then 0x8F else 0xBF, k⟩) := by
  decide

/-! ### Characters and texts -/

theorem ofOctetsFrom_charOctets (c : Char) (rest : List Nat) :
    ofOctetsFrom none (charOctets c ++ rest) = c :: ofOctetsFrom none rest := by
  obtain ⟨n, hn⟩ : ∃ n, c.toNat = n := ⟨_, rfl⟩
  have hc : Char.ofNat n = c := hn ▸ Char.ofNat_toNat c
  have hvalid : n < 0xD800 ∨ 0xDFFF < n ∧ n < 0x110000 := hn ▸ c.valid
  rw [charOctets, hn]
  -- One case for each number of octets. That no character is a surrogate bounds the octet after 0xED, and that
  -- none is beyond 0x10FFFF the one after 0xF4.
  split
  · next h1 => exact hc ▸ ofOctetsFrom_ascii h1 rest
  · split
    · next h1 h2 =>
      have hbits : n / 0x40 * 0x40 + (0x80 + n % 0x40 - 0x80) = n := by omega
      rw [List.cons_append, ofOctetsFrom_first (firstOctet_two (n / 0x40) (by omega) (by omega)), List.cons_append,
        ofOctetsFrom_last (by omega) (by omega), hbits, hc, List.nil_append]
    · split
      · next h1 h2 h3 =>
        have hbits : (n / 0x1000 * 0x40 + (0x80 + n / 0x40 % 0x40 - 0x80)) * 0x40 + (0x80 + n % 0x40 - 0x80) = n := by
          omega
        rw [List.cons_append, ofOctetsFrom_first (firstOctet_three (n / 0x1000) (by omega)), List.cons_append,
          ofOctetsFrom_more (by split <;> omega) (by split <;> omega), List.cons_append,
          ofOctetsFrom_last (by omega) (by omega), hbits, hc, List.nil_append]
      · next h1 h2 h3 =>
        have hbits : ((n / 0x40000 * 0x40 + (0x80 + n / 0x1000 % 0x40 - 0x80)) * 0x40 +
            (0x80 + n / 0x40 % 0x40 - 0x80)) * 0x40 + (0x80 + n % 0x40 - 0x80) = n := by
          omega
        rw [List.cons_append, ofOctetsFrom_first (firstOctet_four (n / 0x40000) (by omega)), List.cons_append,
          ofOctetsFrom_more (by split <;> omega) (by split <;> omega), List.cons_append,
          ofOctetsFrom_more (by omega) (by omega), List.cons_append,
          ofOctetsFrom_last (by omega) (by omega), hbits, hc, List.nil_append]

/-- The octets of a text are read as the text. -/
theorem ofOctets_octets (cs : List Char) : ofOctets (octets cs) = cs := by
  induction cs with
  | nil => rfl
  | cons c cs ih =>
    rw [ofOctets] at ih ⊢
    rw [octets, List.flatMap_cons, ofOctetsFrom_charOctets]
    exact congrArg (c :: ·) ih

theorem lt_of_mem_charOctets {c : Char} {b : Nat} (hb : b ∈ charOctets c) : b < 0x100 := by
  have hvalid : c.toNat < 0xD800 ∨ 0xDFFF < c.toNat ∧ c.toNat < 0x110000 := c.valid
  unfold charOctets at hb
  dsimp only at hb
  split at hb
  · simp only [List.mem_cons, List.not_mem_nil, or_false] at hb
    omega
  · split at hb
    · simp only [List.mem_cons, List.not_mem_nil, or_false] at hb
      omega
    · split at hb
      all_goals
        simp only [List.mem_cons, List.not_mem_nil, or_false] at hb
        omega

/-! ### The order of texts -/

theorem lex_append {l l' : List Nat} (h : List.Lex (· < ·) l l') (hlength : l.length = l'.length) (r r' : List Nat) :
    List.Lex (· < ·) (l ++ r) (l' ++ r') := by
  induction h with
  | nil => cases hlength
  | rel h => exact .rel h
  | cons _ ih => exact .cons (ih (Nat.succ.inj hlength))

/-- If characters have different numbers of octets, their first octets are in their order; otherwise the first
    octets that differ are. -/
theorem lex_charOctets {c d : Char} (h : c < d) (r r' : List Nat) :
    List.Lex (· < ·) (charOctets c ++ r) (charOctets d ++ r') := by
  have hn : c.toNat < d.toNat := UInt32.lt_iff_toNat_lt.mp h
  unfold charOctets
  generalize c.toNat = n at hn
  generalize d.toNat = m at hn
  dsimp only
  split
  · split
    · exact .rel hn
    · split
      · exact .rel (by omega)
      · split <;> exact .rel (by omega)
  · split
    · split
      · exact .rel (by omega)
      · split
        · apply lex_append
          · simp only [List.cons_lex_cons_iff, List.not_lex_nil, and_false, or_false]
            omega
          · rfl
        · split <;> exact .rel (by omega)
    · split
      · split
        · exact .rel (by omega)
        · split
          · exact .rel (by omega)
          · split
            · apply lex_append
              · simp only [List.cons_lex_cons_iff, List.not_lex_nil, and_false, or_false]
                omega
              · rfl
            · exact .rel (by omega)
      · split
        · exact .rel (by omega)
        · split
          · exact .rel (by omega)
          · split
            · exact .rel (by omega)
            · apply lex_append
              · simp only [List.cons_lex_cons_iff, List.not_lex_nil, and_false, or_false]
                omega
              · rfl

theorem charOctets_ne_nil (c : Char) : charOctets c ≠ [] := by
  unfold charOctets
  dsimp only
  split
  · simp
  · split
    · simp
    · split <;> simp

/-- The octets of texts are in the order of the texts. -/
theorem lex_octets {cs ds : List Char} (h : List.Lex (· < ·) cs ds) : List.Lex (· < ·) (octets cs) (octets ds) := by
  induction h with
  | @nil d ds =>
    obtain ⟨b, bs, hbs⟩ := List.exists_cons_of_ne_nil (charOctets_ne_nil d)
    rw [octets, octets, List.flatMap_nil, List.flatMap_cons, hbs]
    exact .nil
  | rel h => exact lex_charOctets h _ _
  | @cons c cs ds _ ih =>
    rw [octets, octets, List.flatMap_cons, List.flatMap_cons]
    exact List.append_left_lt ih

end RowFilter.Text
