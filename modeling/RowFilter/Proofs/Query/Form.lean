import RowFilter.Proofs.Number.Digits
import RowFilter.Proofs.Text.Octets
import RowFilter.Query.Form

/-! Pairs read back from the query string that writes them. Encoded texts have only plain characters, plus
    and percent signs, so that the marks between names, values and pairs are those that were put there; and
    each encoded character is decoded apart from what follows it. -/

namespace RowFilter

/-! ### Parts of a text -/

namespace Text

variable {separator : Char} {part : List Char}

theorem split_of_not_mem (h : separator ∉ part) : split separator part = [part] := by
  induction part with
  | nil => rfl
  | cons c part ih =>
    obtain ⟨hc, hpart⟩ := not_or.mp (mt List.mem_cons.mpr h)
    rw [split, if_neg (Ne.symm hc), ih hpart]

theorem split_append (h : separator ∉ part) (rest : List Char) :
    split separator (part ++ separator :: rest) = part :: split separator rest := by
  induction part with
  | nil => rw [List.nil_append, split, if_pos rfl]
  | cons c part ih =>
    obtain ⟨hc, hpart⟩ := not_or.mp (mt List.mem_cons.mpr h)
    rw [List.cons_append, split, if_neg (Ne.symm hc), ih hpart]

theorem split_intercalate {parts : List (List Char)} (hne : parts ≠ []) (h : ∀ part ∈ parts, separator ∉ part) :
    split separator ([separator].intercalate parts) = parts := by
  induction parts with
  | nil => exact absurd rfl hne
  | cons part parts ih =>
    obtain ⟨hpart, hparts⟩ := List.forall_mem_cons.mp h
    cases parts with
    | nil => rw [List.intercalate_singleton, split_of_not_mem hpart]
    | cons next parts =>
      rw [List.intercalate_cons_cons, List.append_assoc, List.singleton_append, split_append hpart,
        ih (List.cons_ne_nil next parts) hparts]

theorem cut_append (h : separator ∉ part) (rest : List Char) :
    cut separator (part ++ separator :: rest) = (part, some rest) := by
  induction part with
  | nil => rw [List.nil_append, cut, if_pos rfl]
  | cons c part ih =>
    obtain ⟨hc, hpart⟩ := not_or.mp (mt List.mem_cons.mpr h)
    rw [List.cons_append, cut, if_neg (Ne.symm hc), ih hpart]

end Text

/-! ### Percent coding -/

namespace Percent

/-- An octet that is no percent sign stands for itself. -/
theorem decode_cons {b : Nat} (hb : b ≠ 0x25) (rest : List Nat) : decode (b :: rest) = b :: decode rest := by
  rw [decode]
  rintro high low more rfl
  exact absurd rfl hb

theorem hexDigit?_upper : ∀ d < 16, hexDigit? (Nat.digitChar d).toUpper.toNat = some d := by
  decide

theorem decode_percent {b : Nat} (hb : b < 0x100) (rest : List Nat) :
    decode (0x25 :: (Nat.digitChar (b / 16)).toUpper.toNat :: (Nat.digitChar (b % 16)).toUpper.toNat :: rest) =
      b :: decode rest := by
  have hhigh := hexDigit?_upper (b / 16) (by omega)
  have hlow := hexDigit?_upper (b % 16) (by omega)
  rw [decode, hhigh, hlow]
  exact congrArg (· :: decode rest) (Nat.div_add_mod b 16)

end Percent

namespace Form

/-! ### Encoded characters -/

/-- The octets of an encoded text, with spaces for plus signs. -/
def spacedOctets (cs : List Char) : List Nat :=
  (Text.octets cs).map fun b => if b = 0x2B then 0x20 else b

theorem spacedOctets_append (cs rest : List Char) : spacedOctets (cs ++ rest) = spacedOctets cs ++ spacedOctets rest := by
  rw [spacedOctets, Text.octets, List.flatMap_append, List.map_append]
  rfl

/-- An ASCII character other than a plus sign is its own octet. -/
theorem spacedOctets_ascii {c : Char} (hascii : c.toNat < 0x80) (hplus : c.toNat ≠ 0x2B) :
    spacedOctets [c] = [c.toNat] := by
  simp [spacedOctets, Text.octets, Text.charOctets, hascii, hplus]

theorem spacedOctets_upper : ∀ d < 16,
    spacedOctets [(Nat.digitChar d).toUpper] = [(Nat.digitChar d).toUpper.toNat] := by
  decide

theorem decode_encodeOctet {b : Nat} (hb : b < 0x100) (rest : List Nat) :
    Percent.decode (spacedOctets (Percent.encodeOctet b) ++ rest) = b :: Percent.decode rest := by
  have hhigh := spacedOctets_upper (b / 16) (by omega)
  have hlow := spacedOctets_upper (b % 16) (by omega)
  have hsplit : Percent.encodeOctet b = ['%'] ++ ([(Nat.digitChar (b / 16)).toUpper] ++
      [(Nat.digitChar (b % 16)).toUpper]) := rfl
  rw [hsplit, spacedOctets_append, spacedOctets_append, hhigh, hlow]
  exact Percent.decode_percent hb rest

theorem decode_encodeOctets {bs : List Nat} (hbs : ∀ b ∈ bs, b < 0x100) (rest : List Nat) :
    Percent.decode (spacedOctets (bs.flatMap Percent.encodeOctet) ++ rest) = bs ++ Percent.decode rest := by
  induction bs with
  | nil => rfl
  | cons b bs ih =>
    obtain ⟨hb, hbs⟩ := List.forall_mem_cons.mp hbs
    rw [List.flatMap_cons, spacedOctets_append, List.append_assoc, decode_encodeOctet hb, ih hbs, List.cons_append]

theorem toNat_of_isAlphanum {c : Char} (h : c.isAlphanum = true) : 0x30 ≤ c.toNat ∧ c.toNat < 0x80 := by
  obtain hletter | hdigit := Bool.or_eq_true_iff.mp h
  · obtain hupper | hlower := Bool.or_eq_true_iff.mp hletter
    · have hrange : 65 ≤ c.toNat ∧ c.toNat ≤ 90 := of_decide_eq_true hupper
      omega
    · obtain ⟨hlow, hhigh⟩ := Bool.and_eq_true_iff.mp hlower
      have hlow : 97 ≤ c.toNat := of_decide_eq_true hlow
      have hhigh : c.toNat ≤ 122 := of_decide_eq_true hhigh
      omega
  · obtain ⟨hlow, hhigh⟩ := Decimal.toNat_of_isDigit hdigit
    omega

theorem toNat_of_isPlain {c : Char} (h : isPlain c = true) : c.toNat < 0x80 ∧ c.toNat ≠ 0x2B ∧ c.toNat ≠ 0x25 := by
  simp only [isPlain, Bool.or_eq_true, beq_iff_eq] at h
  obtain (((h | rfl) | rfl) | rfl) | rfl := h
  · obtain ⟨hlow, hhigh⟩ := toNat_of_isAlphanum h
    omega
  all_goals decide

/-- An encoded character is decoded apart from what follows. -/
theorem decode_encodeChar (c : Char) (rest : List Nat) :
    Percent.decode (spacedOctets (encodeChar c) ++ rest) = Text.charOctets c ++ Percent.decode rest := by
  unfold encodeChar
  split
  · next hspace =>
    obtain rfl : c = ' ' := eq_of_beq hspace
    exact Percent.decode_cons (by decide) rest
  · split
    · next hplain =>
      obtain ⟨hascii, hplus, hpercent⟩ := toNat_of_isPlain hplain
      rw [spacedOctets_ascii hascii hplus, List.singleton_append, Percent.decode_cons hpercent, Text.charOctets,
        if_pos hascii, List.singleton_append]
    · exact decode_encodeOctets (fun b => Text.lt_of_mem_charOctets) rest

/-- What encodes a text is decoded as the text. -/
theorem decode_encode (s : String) : decode (encode s) = s := by
  have hoctets : ∀ cs : List Char, Percent.decode (spacedOctets (cs.flatMap encodeChar)) = Text.octets cs := by
    intro cs
    induction cs with
    | nil => rfl
    | cons c cs ih =>
      rw [List.flatMap_cons, spacedOctets_append, decode_encodeChar, ih]
      rfl
  show String.ofList (Text.ofOctets (Percent.decode (spacedOctets (s.toList.flatMap encodeChar)))) = s
  rw [hoctets, Text.ofOctets_octets, String.ofList_toList]

/-! ### Encoded texts among marks -/

theorem mem_encode {c : Char} {s : String} (h : c ∈ encode s) : isPlain c = true ∨ c = '+' ∨ c = '%' := by
  have hupper : ∀ d < 16, isPlain (Nat.digitChar d).toUpper = true := by decide
  obtain ⟨d, -, hc⟩ := List.mem_flatMap.mp h
  unfold encodeChar at hc
  split at hc
  · exact .inr (.inl (List.mem_singleton.mp hc))
  · split at hc
    · next hplain => exact .inl (List.mem_singleton.mp hc ▸ hplain)
    · obtain ⟨b, hb, hc⟩ := List.mem_flatMap.mp hc
      have hlt := Text.lt_of_mem_charOctets hb
      rw [Percent.encodeOctet, List.mem_cons, List.mem_cons, List.mem_singleton] at hc
      obtain rfl | rfl | rfl := hc
      · exact .inr (.inr rfl)
      · exact .inl (hupper _ (by omega))
      · exact .inl (hupper _ (by omega))

theorem not_mem_encode {c : Char} (hplain : isPlain c = false) (hplus : c ≠ '+') (hpercent : c ≠ '%') (s : String) :
    c ∉ encode s := by
  intro h
  obtain h | h | h := mem_encode h
  · rw [hplain] at h
    cases h
  · exact hplus h
  · exact hpercent h

theorem not_mem_writePair {c : Char} (hplain : isPlain c = false) (hplus : c ≠ '+') (hpercent : c ≠ '%')
    (hequals : c ≠ '=') (p : String × String) : c ∉ writePair p := by
  intro h
  rw [writePair, List.mem_append, List.mem_cons] at h
  obtain h | h | h := h
  · exact not_mem_encode hplain hplus hpercent _ h
  · exact hequals h
  · exact not_mem_encode hplain hplus hpercent _ h

/-! ### Pairs -/

theorem readPair_writePair (p : String × String) : readPair (writePair p) = p := by
  have hequals : '=' ∉ encode p.1 := not_mem_encode rfl (by decide) (by decide) _
  rw [readPair, writePair, Text.cut_append hequals]
  dsimp only [Option.getD_some]
  rw [decode_encode, decode_encode]

/-- The parts of a query string are read one by one. -/
theorem read_intercalate {parts : List (List Char)} (h : ∀ part ∈ parts, '&' ∉ part) :
    read (['&'].intercalate parts) = (parts.filter fun part => !part.isEmpty).map readPair := by
  cases parts with
  | nil => rfl
  | cons part parts => rw [read, Text.split_intercalate (List.cons_ne_nil part parts) h]

theorem write_eq_intercalate (pairs : List (String × String)) : write pairs = ['&'].intercalate (pairs.map writePair) := by
  induction pairs with
  | nil => rfl
  | cons p pairs ih =>
    cases pairs with
    | nil => exact List.intercalate_singleton.symm
    | cons q pairs =>
      rw [List.map_cons, List.map_cons, List.intercalate_cons_cons, ← List.map_cons, ← ih, write, List.append_assoc,
        List.singleton_append]
      exact List.cons_ne_nil q pairs

/-- The query string of some pairs is read as the pairs. -/
theorem read_write (pairs : List (String × String)) : read (write pairs) = pairs := by
  have hmark : ∀ part ∈ pairs.map writePair, '&' ∉ part := by
    intro part hpart
    obtain ⟨p, -, rfl⟩ := List.mem_map.mp hpart
    exact not_mem_writePair rfl (by decide) (by decide) (by decide) p
  have hfull : ∀ part ∈ pairs.map writePair, (!part.isEmpty) = true := by
    intro part hpart
    obtain ⟨p, -, rfl⟩ := List.mem_map.mp hpart
    simp [writePair]
  rw [write_eq_intercalate, read_intercalate hmark, List.filter_eq_self.mpr hfull, List.map_map]
  exact List.map_id'' readPair_writePair _

/-- A query string does not begin with a question mark. -/
theorem notLed_write (pairs : List (String × String)) : NotLed (· == '?') (write pairs) := by
  cases pairs with
  | nil => exact notLed_nil _
  | cons p pairs =>
    have hmark : '?' ∉ writePair p := not_mem_writePair rfl (by decide) (by decide) (by decide) p
    obtain ⟨c, cs, hcs⟩ : ∃ c cs, writePair p = c :: cs := List.exists_cons_of_ne_nil (by simp [writePair])
    have hc : c ≠ '?' := by
      rintro rfl
      exact hmark (hcs ▸ List.mem_cons_self)
    obtain ⟨more, hmore⟩ : ∃ more, write (p :: pairs) = writePair p ++ more := by
      cases pairs with
      | nil => exact ⟨[], (List.append_nil _).symm⟩
      | cons q pairs => exact ⟨'&' :: write (q :: pairs), rfl⟩
    rw [hmore, hcs]
    exact notLed_cons.mpr (beq_eq_false_iff_ne.mpr hc)

end Form

end RowFilter
