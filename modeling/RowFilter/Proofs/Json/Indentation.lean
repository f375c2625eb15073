import RowFilter.Proofs.Json.AllNumbers

/-! A document written over several lines is read as itself, if it is not deeper than the reader goes. The items of
    arrays and the members of objects stand on lines of their own, and the blanks before them are passed over. -/

namespace RowFilter.Json

/-! ### Line breaks -/

theorem isSpace_of_mem_newline (level : Nat) : ∀ c ∈ newline level, isSpace c = true := by
  refine List.forall_mem_cons.mpr ⟨rfl, fun c hc => ?_⟩
  rw [List.eq_of_mem_replicate hc]
  rfl

theorem value_append {blanks : List Char} (h : ∀ c ∈ blanks, isSpace c = true) (d : Nat) (cs : List Char) :
    value d (blanks ++ cs) = value d cs := by
  cases d with
  | zero => simp only [value, skip_append h]
  | succ d => simp only [value, skip_append h]

theorem member_append {blanks : List Char} (h : ∀ c ∈ blanks, isSpace c = true) (reader : Reader Json)
    (cs : List Char) : member reader (blanks ++ cs) = member reader cs := by
  unfold member
  rw [skip_append h]

/-! ### Lists over several lines -/

theorem prettyItems_eq (level : Nat) (items : List Json) :
    prettyItems level items = commaJoined (items.map fun j => newline level ++ prettyChars level j) := by
  induction items with
  | nil => rfl
  | cons j items ih =>
    rw [prettyItems, ih, List.map_cons, commaJoined]
    cases items <;> rfl

theorem prettyMembers_eq (level : Nat) (members : List (String × Json)) :
    prettyMembers level members = commaJoined (members.map fun m => newline level ++ prettyMember level m) := by
  induction members with
  | nil => rfl
  | cons m members ih =>
    rw [prettyMembers, ih, List.map_cons, commaJoined]
    cases members <;> rfl

theorem prettyChars_array {items : List Json} (hne : items ≠ []) (level : Nat) (rest : List Char) :
    prettyChars level (.array items) ++ rest =
      '[' :: (commaJoined (items.map fun j => newline (level + 1) ++ prettyChars (level + 1) j) ++
        (newline level ++ ']' :: rest)) := by
  cases items with
  | nil => exact absurd rfl hne
  | cons j items =>
    rw [prettyChars, prettyItems_eq]
    simp

theorem prettyChars_object {members : List (String × Json)} (hne : members ≠ []) (level : Nat) (rest : List Char) :
    prettyChars level (.object members) ++ rest =
      '\x7b' :: (commaJoined (members.map fun m => newline (level + 1) ++ prettyMember (level + 1) m) ++
        (newline level ++ '\x7d' :: rest)) := by
  cases members with
  | nil => exact absurd rfl hne
  | cons m members =>
    rw [prettyChars, prettyMembers_eq]
    simp

/-- A document begins alike over several lines and on one. -/
theorem head?_prettyChars (level : Nat) (j : Json) : (prettyChars level j).head? = j.compactChars.head? := by
  rcases j with _ | _ | _ | _ | ⟨_ | _⟩ | ⟨_ | _⟩ <;> rfl

theorem prettyMember_append (level : Nat) (m : String × Json) (rest : List Char) : prettyMember level m ++ rest =
    '"' :: (m.1.toList.flatMap escapedChar ++ '"' :: ':' :: ' ' :: (prettyChars level m.2 ++ rest)) := by
  obtain ⟨k, j⟩ := m
  rw [prettyMember, List.append_assoc, List.cons_append, List.cons_append, quotedText_append]

theorem start_of_prettyMember (level : Nat) (m : String × Json) :
    ∃ c cs, prettyMember level m = c :: cs ∧ isSpace c = false ∧ c ≠ '\x7d' := by
  obtain ⟨k, j⟩ := m
  exact ⟨'"', _, rfl, rfl, by decide⟩

/-! ### Reading -/

theorem start_of_prettyChars {j : Json} (hj : j.IsExact) (level : Nat) :
    ∃ c cs, prettyChars level j = c :: cs ∧ isSpace c = false ∧ c ≠ ']' := by
  obtain ⟨c, cs, htext, hspace, hclose, -⟩ := start_of_isExact hj
  have hhead := head?_prettyChars level j
  rw [htext, List.head?_cons] at hhead
  obtain ⟨cs', hpretty⟩ := List.head?_eq_some_iff.mp hhead
  exact ⟨c, cs', hpretty, hspace, hclose⟩

/-- A member is read by the reader of its value, which passes over a blank. -/
theorem member_prettyMember (d level : Nat) (m : String × Json) (rest : List Char) :
    member (value d) (prettyMember level m ++ rest) =
      (value d (prettyChars level m.2 ++ rest)).map fun (j, more) => ((m.1, j), more) := by
  have hblank : ∀ cs, value d (' ' :: cs) = value d cs := value_append (List.forall_mem_singleton.mpr rfl) d
  rw [prettyMember_append, ← hblank]
  unfold member
  simp only [skip_cons (show isSpace '"' = false from rfl), stringTail_escaped, Option.bind_eq_bind, Option.bind_some,
    skip_cons (show isSpace ':' = false from rfl)]
  cases value d (' ' :: (prettyChars level m.2 ++ rest)) <;> rfl

theorem endsNumeral_newline (level : Nat) (cs : List Char) : EndsNumeral (newline level ++ cs) :=
  notLed_cons.mpr rfl

/-- A document is read from its text over several lines exactly if it is not too deep, whatever follows that no
    numeral goes on with. -/
theorem value_prettyChars {j : Json} (hj : j.AllNumbers JsonNumber.IsKept) (level d : Nat) {rest : List Char}
    (hr : EndsNumeral rest) :
    value d (prettyChars level j ++ rest) = if j.depth ≤ d then some (j, rest) else none := by
  have hcomma : ∀ cs, EndsNumeral (',' :: cs) := fun _ => notLed_cons.mpr rfl
  induction hj generalizing level d rest with
  | null => exact (value_null d).trans (if_pos (Nat.zero_le d)).symm
  | bool b => exact (value_bool d b).trans (if_pos (Nat.zero_le d)).symm
  | number hn => exact (value_number d hn.isExact (hn.numberText? hr)).trans (if_pos (Nat.zero_le d)).symm
  | text s => exact (value_text d s).trans (if_pos (Nat.zero_le d)).symm
  | @array items h ih =>
    by_cases hne : items = []
    · subst hne
      exact value_array (fun d => by rfl) d
    · rw [prettyChars_array hne]
      refine value_array (fun d => ?_) d
      have hstart : ∀ j ∈ items, ∃ c cs, prettyChars (level + 1) j = c :: cs ∧ isSpace c = false ∧ c ≠ ']' :=
        fun j hj => start_of_prettyChars (isExact_of_allNumbers (h j hj)) (level + 1)
      have hitem : ∀ j ∈ items, ∀ rest, EndsNumeral rest → value d (prettyChars (level + 1) j ++ rest) =
          if decide (j.depth ≤ d) then some (id j, rest) else none := fun j hj rest hr => by
        rw [ih j hj (level + 1) d hr]
        simp
      rw [listed_laidOut (.inl rfl) hcomma (isSpace_of_mem_newline (level + 1))
        (value_append (isSpace_of_mem_newline (level + 1)) d) (isSpace_of_mem_newline level)
        (endsNumeral_newline level _) hstart hitem, List.map_id]
  | @object members h ih =>
    by_cases hne : members = []
    · subst hne
      exact value_object (fun d => by rfl) d
    · rw [prettyChars_object hne]
      refine value_object (fun d => ?_) d
      have hitem : ∀ m ∈ members, ∀ rest, EndsNumeral rest →
          member (value d) (prettyMember (level + 1) m ++ rest) =
            if decide (m.2.depth ≤ d) then some (id m, rest) else none := fun m hm rest hr => by
        rw [member_prettyMember, ih m hm (level + 1) d hr]
        by_cases hdepth : m.2.depth ≤ d <;> simp [hdepth]
      rw [listed_laidOut (.inr rfl) hcomma (isSpace_of_mem_newline (level + 1))
        (member_append (isSpace_of_mem_newline (level + 1)) (value d)) (isSpace_of_mem_newline level)
        (endsNumeral_newline level _) (fun m _ => start_of_prettyMember (level + 1) m) hitem, List.map_id]

end RowFilter.Json
