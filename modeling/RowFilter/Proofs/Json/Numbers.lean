import RowFilter.Json.Printer
import RowFilter.Json.Reader
import RowFilter.Proofs.Number.Digits

/-! An integer that 64 bits hold is read as itself from the digits that write it, and what is read from a
    whole text is read alike where a document goes on behind it. -/

namespace RowFilter

/-- A digit other than the only one is not a leading zero. -/
theorem Decimal.head?_digits_ne_zero {n : Nat} (hn : 0 < n) : (digits n).head? ≠ some '0' := by
  induction n using Nat.strongRecOn with
  | ind n ih =>
    unfold digits at ih ⊢
    rw [Nat.toDigits_eq_if (by omega)]
    split
    · next hlt =>
      have hdigit : ∀ k < 10, 0 < k → some (Nat.digitChar k) ≠ some '0' := by decide
      exact hdigit n hlt hn
    · next hge =>
      have hhead := ih (n / 10) (by omega) (by omega)
      obtain ⟨c, cs, hcs⟩ := List.exists_cons_of_ne_nil (Nat.toDigits_ne_nil (n := n / 10) (b := 10))
      rw [hcs] at hhead ⊢
      exact hhead

namespace Json

/-- What can follow a value in a document: a comma, a mark that closes, or nothing. -/
def Ends (rest : List Char) : Prop :=
  ∀ c ∈ rest.head?, c = ',' ∨ c = ']' ∨ c = '\x7d'

theorem Ends.notLed {rest : List Char} (h : Ends rest) {p : Char → Bool} (hcomma : p ',' = false)
    (hbracket : p ']' = false) (hbrace : p '\x7d' = false) : NotLed p rest := by
  intro c hc
  rcases h c hc with rfl | rfl | rfl
  · exact hcomma
  · exact hbracket
  · exact hbrace

theorem ends_nil : Ends [] := nofun

theorem ends_cons {c : Char} (h : c = ',' ∨ c = ']' ∨ c = '\x7d') (rest : List Char) : Ends (c :: rest) := by
  intro d hd
  cases hd
  exact h

/-- No numeral goes on here: there is no digit, no point and no mark of an exponent. -/
def EndsNumeral (rest : List Char) : Prop :=
  NotLed (fun c => c.isDigit || c == '.' || (c == 'e' || c == 'E')) rest

theorem Ends.endsNumeral {rest : List Char} (h : Ends rest) : EndsNumeral rest :=
  h.notLed rfl rfl rfl

namespace EndsNumeral

variable {rest : List Char} (h : EndsNumeral rest)

include h

theorem notLed_digit : NotLed Char.isDigit rest :=
  fun c hc => (Bool.or_eq_false_iff.mp (Bool.or_eq_false_iff.mp (h c hc)).1).1

theorem notLed_point : NotLed (· == '.') rest :=
  fun c hc => (Bool.or_eq_false_iff.mp (Bool.or_eq_false_iff.mp (h c hc)).1).2

theorem notLed_mark : NotLed (fun c => c == 'e' || c == 'E') rest :=
  fun c hc => (Bool.or_eq_false_iff.mp (h c hc)).2

theorem fractionPart : fractionPart rest = some (none, rest) := by
  cases rest with
  | nil => rfl
  | cons c cs =>
    have hpoint : (c == '.') = false := h.notLed_point c rfl
    rw [Json.fractionPart]
    intro cs' heq
    exact beq_eq_false_iff_ne.mp hpoint (List.cons.inj heq).1

theorem exponentPart : exponentPart rest = some (none, rest) := by
  cases rest with
  | nil => rfl
  | cons c cs =>
    have hmark : (c == 'e' || c == 'E') = false := h.notLed_mark c rfl
    rw [Json.exponentPart, hmark, if_neg Bool.false_ne_true]

end EndsNumeral

/-- The numeral of an integer. -/
theorem numeral_intText (i : Int) {rest : List Char} (h : EndsNumeral rest) :
    numeral (Decimal.intText i ++ rest) = some (⟨decide (i < 0), Decimal.digits i.natAbs, [], none, true⟩, rest) := by
  have hdigit : ∀ c ∈ Decimal.digits i.natAbs, c.isDigit = true := fun _ => Decimal.isDigit_of_mem_digits
  have hrest : NotLed Char.isDigit rest := h.notLed_digit
  have hwhole : ((Decimal.digits i.natAbs).isEmpty || ((Decimal.digits i.natAbs).head? == some '0' &&
      (Decimal.digits i.natAbs).length != 1)) = false := by
    rcases Nat.eq_zero_or_pos i.natAbs with hzero | hpos
    · rw [hzero]
      rfl
    · rw [List.isEmpty_eq_false_iff.mpr (Decimal.digits_ne_nil _),
        beq_eq_false_iff_ne.mpr (Decimal.head?_digits_ne_zero hpos)]
      rfl
  have htake := hrest.takeWhile_append hdigit
  have hdrop := hrest.dropWhile_append hdigit
  have hplain : ∀ cs, cs = Decimal.digits i.natAbs ++ rest → ∀ d ds, cs = d :: ds → d ≠ '-' := by
    rintro _ rfl d ds heq rfl
    obtain ⟨c, ds', hds⟩ := List.exists_cons_of_ne_nil (Decimal.digits_ne_nil i.natAbs)
    rw [hds] at heq hdigit
    exact absurd (List.cons.inj heq).1 (Decimal.ne_of_isDigit (hdigit c List.mem_cons_self) rfl)
  unfold numeral Decimal.intText
  by_cases hi : i < 0
  · simp only [hi, if_true, List.cons_append, htake, hwhole, hdrop, Bool.false_eq_true, if_false,
      Option.bind_eq_bind, Option.bind_some, h.fractionPart, h.exponentPart, decide_true]
    rfl
  · rw [if_neg hi, decide_eq_false hi]
    split
    next negative more heq =>
    split at heq
    · next cs hcs => exact absurd rfl (hplain _ rfl _ _ hcs)
    · cases heq
      simp only [htake, hwhole, hdrop, Bool.false_eq_true, if_false, Option.bind_eq_bind, Option.bind_some,
        h.fractionPart, h.exponentPart]
      rfl

/-- An integer of 64 bits is read from its own text. -/
theorem numberText?_integer {i : Int} (hmin : JsonNumber.minSigned ≤ i) (hmax : i ≤ JsonNumber.maxUnsigned)
    {rest : List Char} (h : EndsNumeral rest) :
    numberText? (numberText (.integer i) ++ rest) = some (.integer i, rest) := by
  simp only [numberText?, numberText, numeral_intText i h, Option.bind_eq_bind, Option.bind_some]
  have hnumber : JsonNumeral.number ⟨decide (i < 0), Decimal.digits i.natAbs, [], none, true⟩ = some (.integer i) := by
    unfold JsonNumeral.number
    simp only [Decimal.ofDigits_digits, Bool.true_and, Bool.and_eq_true, Bool.not_eq_true', decide_eq_true_eq,
      decide_eq_false_iff_not]
    by_cases hneg : i < 0
    · have habs : -(i.natAbs : Int) = i := by omega
      have hmin' : JsonNumber.minSigned ≤ -(i.natAbs : Int) := by rwa [habs]
      rw [if_neg fun h => h.1 hneg, if_pos ⟨⟨hneg, by omega⟩, hmin'⟩, habs]
    · have habs : (i.natAbs : Int) = i := by omega
      rw [habs, if_pos ⟨hneg, hmax⟩]
  rw [hnumber]
  rfl

/-! ### Numbers inside a document -/

theorem fractionPart_append {cs more rest : List Char} {f : Option (List Char)} (hr : EndsNumeral rest)
    (h : fractionPart cs = some (f, more)) : fractionPart (cs ++ rest) = some (f, more ++ rest) := by
  have hdigit : NotLed Char.isDigit rest := hr.notLed_digit
  unfold fractionPart at h
  split at h
  · next ds =>
    rw [List.cons_append, fractionPart, hdigit.takeWhile_append_right, hdigit.dropWhile_append_right]
    dsimp only at h ⊢
    split at h
    · cases h
    · next hne =>
      rw [if_neg hne]
      cases h
      rfl
  · next hpoint =>
    cases h
    cases cs with
    | nil => exact hr.fractionPart
    | cons c cs =>
      rw [List.cons_append, fractionPart]
      rintro ds heq
      obtain ⟨rfl, rfl⟩ := List.cons.inj heq
      exact hpoint cs rfl

theorem sign_append {cs : List Char} (hne : cs ≠ []) (rest : List Char) :
    Decimal.sign (cs ++ rest) = ((Decimal.sign cs).1, (Decimal.sign cs).2 ++ rest) := by
  obtain ⟨c, cs, rfl⟩ := List.exists_cons_of_ne_nil hne
  rw [List.cons_append]
  by_cases hplus : c = '+'
  · subst hplus
    rfl
  · by_cases hminus : c = '-'
    · subst hminus
      rfl
    · simp [Decimal.sign, hplus, hminus]

theorem exponentPart_append {cs more rest : List Char} {e : Option (Bool × List Char)} (hr : EndsNumeral rest)
    (h : exponentPart cs = some (e, more)) : exponentPart (cs ++ rest) = some (e, more ++ rest) := by
  have hdigit : NotLed Char.isDigit rest := hr.notLed_digit
  cases cs with
  | nil =>
    cases h
    exact hr.exponentPart
  | cons c cs =>
    rw [exponentPart] at h
    rw [List.cons_append, exponentPart]
    split at h
    · next hletter =>
      rw [if_pos hletter]
      dsimp only at h ⊢
      have hne : cs ≠ [] := by
        rintro rfl
        cases h
      rw [sign_append hne, hdigit.takeWhile_append_right, hdigit.dropWhile_append_right]
      split at h
      · cases h
      · next hsome =>
        rw [if_neg hsome]
        cases h
        rfl
    · next hletter =>
      rw [if_neg hletter]
      cases h
      rfl

/-- A numeral is read alike if a document goes on behind it. -/
theorem numeral_append {cs more rest : List Char} {n : JsonNumeral} (hr : EndsNumeral rest)
    (h : numeral cs = some (n, more)) : numeral (cs ++ rest) = some (n, more ++ rest) := by
  have hdigit : NotLed Char.isDigit rest := hr.notLed_digit
  cases cs with
  | nil => cases h
  | cons c cs =>
    rw [List.cons_append]
    unfold numeral at h ⊢
    split at h
    next negative ds hmatch =>
    split
    next negative' ds' hmatch' =>
    -- A sign is taken off both texts or off neither.
    obtain ⟨rfl, rfl⟩ : negative' = negative ∧ ds' = ds ++ rest := by
      split at hmatch
      · next hminus =>
        obtain ⟨rfl, rfl⟩ := List.cons.inj hminus
        cases hmatch
        cases hmatch'
        exact ⟨rfl, rfl⟩
      · next hplain =>
        split at hmatch'
        · next hminus =>
          obtain ⟨rfl, -⟩ := List.cons.inj hminus
          exact absurd rfl (hplain cs)
        · cases hmatch
          cases hmatch'
          exact ⟨rfl, rfl⟩
    dsimp only at h ⊢
    rw [hdigit.takeWhile_append_right, hdigit.dropWhile_append_right]
    split at h
    · cases h
    · next hwhole =>
      rw [if_neg hwhole]
      obtain ⟨⟨fraction, cs₁⟩, hfraction, h⟩ := Option.bind_eq_some_iff.mp h
      obtain ⟨⟨exponent, cs₂⟩, hexponent, h⟩ := Option.bind_eq_some_iff.mp h
      cases h
      rw [fractionPart_append hr hfraction, Option.bind_eq_bind, Option.bind_some]
      dsimp only
      rw [exponentPart_append hr hexponent]
      rfl

/-- A number that is all of a text is read off its front as well. -/
theorem numberText?_append {cs rest : List Char} {n : JsonNumber} (hr : EndsNumeral rest)
    (h : numberText? cs = some (n, [])) : numberText? (cs ++ rest) = some (n, rest) := by
  unfold numberText? at h ⊢
  obtain ⟨⟨m, more⟩, hnumeral, h⟩ := Option.bind_eq_some_iff.mp h
  obtain ⟨n', hnumber, h⟩ := Option.bind_eq_some_iff.mp h
  cases h
  rw [numeral_append hr hnumeral, Option.bind_eq_bind, Option.bind_some]
  dsimp only
  rw [hnumber]
  rfl

end Json

namespace JsonNumber

/-- The number is read as itself from its own text. -/
def IsExact (n : JsonNumber) : Prop :=
  ∀ rest, Json.Ends rest → Json.numberText? (Json.numberText n ++ rest) = some (n, rest)

/-- The number is an integer that 64 bits hold, with a sign or without, or a double that is read as itself
    where its text stands alone. -/
def IsKept : JsonNumber → Prop
  | integer i => minSigned ≤ i ∧ i ≤ maxUnsigned
  | double d => Json.numberText? (Json.numberText (.double d)) = some (.double d, [])

theorem IsKept.numberText? {n : JsonNumber} (h : n.IsKept) {rest : List Char} (hr : Json.EndsNumeral rest) :
    Json.numberText? (Json.numberText n ++ rest) = some (n, rest) := by
  cases n with
  | integer i => exact Json.numberText?_integer h.1 h.2 hr
  | double d => exact Json.numberText?_append hr h

theorem IsKept.isExact {n : JsonNumber} (h : n.IsKept) : n.IsExact :=
  fun _ hr => h.numberText? hr.endsNumeral

theorem isKept_of_isSigned {i : Int} (h : isSigned i = true) : (integer i).IsKept := by
  obtain ⟨hmin, hmax⟩ := Bool.and_eq_true_iff.mp h
  have hwide : maxSigned ≤ maxUnsigned := by decide
  exact ⟨of_decide_eq_true hmin, Int.le_trans (of_decide_eq_true hmax) hwide⟩

end JsonNumber

end RowFilter
