import RowFilter.Json.Printer
import RowFilter.Json.Reader

/-! A JSON string as it is written is read as the text that it was written for, and what follows its
    closing quote is left. -/

namespace RowFilter.Json

/-! ### Escapes -/

/-- How a character is written: a backslash and a letter, a backslash and its number, or as it is. -/
inductive EscapeForm (c : Char) : List Char → Prop where
  | short (e : Char) (he : e ≠ 'u') (h : shortEscape? e = some c) : EscapeForm c ['\\', e]
  | code (a b : Char) (ha : 0x30 ≤ a.toNat ∧ a ≠ '\\') (hb : 0x30 ≤ b.toNat ∧ b ≠ '\\')
      (h : hex4? '0' '0' a b = some c.toNat) (hc : c.toNat < 0x20) : EscapeForm c ['\\', 'u', '0', '0', a, b]
  | plain (hc : 0x20 ≤ c.toNat) (hquote : c ≠ '"') (hescape : c ≠ '\\') : EscapeForm c [c]

theorem hex4?_digitChar : ∀ n < 0x20, hex4? '0' '0' (Nat.digitChar (n / 16)) (Nat.digitChar (n % 16)) = some n := by
  decide

theorem digitChar_bounds : ∀ n < 16, 0x30 ≤ (Nat.digitChar n).toNat ∧ Nat.digitChar n ≠ '\\' := by
  decide

theorem escapeForm (c : Char) : EscapeForm c (escapedChar c) := by
  have hof : ∀ d : Char, c.toNat = d.toNat → c = d := fun _ => Char.toNat_inj.mp
  unfold escapedChar
  split
  · next h => exact .short '"' (by decide) (by rw [beq_iff_eq.mp h]; rfl)
  split
  · next h => exact .short '\\' (by decide) (by rw [beq_iff_eq.mp h]; rfl)
  split
  · next h => exact .short 'n' (by decide) (by rw [beq_iff_eq.mp h]; rfl)
  split
  · next h => exact .short 'r' (by decide) (by rw [beq_iff_eq.mp h]; rfl)
  split
  · next h => exact .short 't' (by decide) (by rw [beq_iff_eq.mp h]; rfl)
  split
  · next h => exact .short 'b' (by decide) (by rw [hof '\x08' (beq_iff_eq.mp h)]; rfl)
  split
  · next h => exact .short 'f' (by decide) (by rw [hof '\x0c' (beq_iff_eq.mp h)]; rfl)
  split
  · next h =>
    exact .code _ _ (digitChar_bounds _ (by omega)) (digitChar_bounds _ (by omega)) (hex4?_digitChar _ h) h
  · next hquote hescape _ _ _ _ _ h =>
    exact .plain (Nat.le_of_not_lt h) (fun heq => hquote (beq_iff_eq.mpr heq)) fun heq => hescape (beq_iff_eq.mpr heq)

/-! ### Reading back -/

/-- A character that is no quote, backslash or control character is taken as it is. -/
theorem stringBody_cons {c : Char} (hc : 0x20 ≤ c.toNat) (hquote : c ≠ '"') (hescape : c ≠ '\\') (rest : List Char) :
    stringBody (c :: rest) = (stringBody rest).map fun (body, more) => (c :: body, more) := by
  rw [stringBody]
  · rw [if_neg (Nat.not_lt.mpr hc)]
  · exact hquote
  · intro d ds h
    exact absurd h hescape

theorem stringBody_escapedChar (c : Char) (rest : List Char) : stringBody (escapedChar c ++ rest) =
    (stringBody rest).map fun (body, more) => (escapedChar c ++ body, more) := by
  have h := escapeForm c
  generalize escapedChar c = cs at h ⊢
  cases h with
  | short e he h => rfl
  | code a b ha hb h hc =>
    have hquote : ∀ d : Char, 0x30 ≤ d.toNat → d ≠ '"' := by
      rintro d hd rfl
      exact absurd hd (by decide)
    show (stringBody ('0' :: '0' :: a :: b :: rest)).map _ = _
    rw [stringBody_cons (by decide) (by decide) (by decide), stringBody_cons (by decide) (by decide) (by decide),
      stringBody_cons (Nat.le_trans (by decide) ha.1) (hquote a ha.1) ha.2,
      stringBody_cons (Nat.le_trans (by decide) hb.1) (hquote b hb.1) hb.2]
    cases stringBody rest <;> rfl
  | plain hc hquote hescape => exact stringBody_cons hc hquote hescape rest

theorem stringBody_escaped (cs rest : List Char) :
    stringBody (cs.flatMap escapedChar ++ '"' :: rest) = some (cs.flatMap escapedChar, rest) := by
  induction cs with
  | nil => rfl
  | cons c cs ih =>
    rw [List.flatMap_cons, List.append_assoc, stringBody_escapedChar, ih]
    rfl

theorem joinParts_code {n : Nat} (hn : n < 0xD800) (parts : List StringPart) :
    joinParts (.code n :: parts) = (joinParts parts).map (Char.ofNat n :: ·) := by
  have hhigh : isHighSurrogate n = false := by
    simp only [isHighSurrogate, Bool.and_eq_false_iff, decide_eq_false_iff_not]
    omega
  have hlow : isLowSurrogate n = false := by
    simp only [isLowSurrogate, Bool.and_eq_false_iff, decide_eq_false_iff_not]
    omega
  match parts with
  | [] => simp [joinParts, hhigh, hlow]
  | .char c :: parts => simp [joinParts, hhigh, hlow]
  | .code l :: parts => rw [joinParts, hhigh, hlow, if_neg Bool.false_ne_true, if_neg Bool.false_ne_true]

/-- The parts of a written text make the text. -/
theorem exists_stringParts_escaped (cs : List Char) :
    ∃ parts, stringParts (cs.flatMap escapedChar) = some parts ∧ joinParts parts = some cs := by
  induction cs with
  | nil => exact ⟨[], rfl, rfl⟩
  | cons c cs ih =>
    obtain ⟨parts, hparts, hjoin⟩ := ih
    have h := escapeForm c
    rw [List.flatMap_cons]
    generalize escapedChar c = form at h ⊢
    cases h with
    | short e he h =>
      refine ⟨.char c :: parts, ?_, by rw [joinParts, hjoin]; rfl⟩
      show stringParts ('\\' :: e :: cs.flatMap escapedChar) = _
      rw [stringParts, h, hparts]
      · rfl
      · intro a b d f rest hu
        exact absurd hu he
    | code a b ha hb h hc =>
      refine ⟨.code c.toNat :: parts, ?_, ?_⟩
      · show stringParts ('\\' :: 'u' :: '0' :: '0' :: a :: b :: cs.flatMap escapedChar) = _
        rw [stringParts, h, hparts]
        rfl
      · rw [joinParts_code (Nat.lt_trans hc (by decide)), hjoin, Char.ofNat_toNat]
        rfl
    | plain hc hquote hescape =>
      refine ⟨.char c :: parts, ?_, by rw [joinParts, hjoin]; rfl⟩
      show stringParts (c :: cs.flatMap escapedChar) = _
      rw [stringParts, hparts]
      · rfl
      · intro a b d f rest hu
        exact absurd hu hescape
      · intro d rest hu
        exact absurd hu hescape

/-- A text is read from its JSON string, the opening quote taken off. -/
theorem stringTail_escaped (s : String) (rest : List Char) :
    stringTail (s.toList.flatMap escapedChar ++ '"' :: rest) = some (s, rest) := by
  obtain ⟨parts, hparts, hjoin⟩ := exists_stringParts_escaped s.toList
  simp only [stringTail, stringBody_escaped, Option.bind_eq_bind, Option.bind_some, hparts, hjoin, String.ofList_toList]
  rfl

theorem quotedText_append (s : String) (rest : List Char) :
    quotedText s ++ rest = '"' :: (s.toList.flatMap escapedChar ++ '"' :: rest) := by
  simp [quotedText]

end RowFilter.Json
