import RowFilter.Proofs.Json.Numbers
import RowFilter.Proofs.Json.Strings

/-! A document written on one line is read as itself, if it is not deeper than the reader goes, and is
    refused otherwise. Its numbers have to be read as themselves. -/

namespace RowFilter.Json

/-! ### Lists with commas -/

/-- Texts with commas between them. -/
def commaJoined : List (List Char) → List Char
  | [] => []
  | cs :: rest => cs ++ (if rest.isEmpty then [] else ',' :: commaJoined rest)

theorem skip_cons {c : Char} (hc : isSpace c = false) (cs : List Char) : skip (c :: cs) = c :: cs := by
  rw [skip, List.dropWhile_cons, hc, if_neg Bool.false_ne_true]

theorem skip_append {blanks : List Char} (h : ∀ c ∈ blanks, isSpace c = true) (cs : List Char) :
    skip (blanks ++ cs) = skip cs :=
  List.dropWhile_append_of_pos h

section
variable {α β : Type} {item : Reader α} {text : β → List Char} {result : β → α} {ok : β → Bool} {close : Char}
  {Follows : List Char → Prop} {lead gap rest : List Char}

/-- Items that are read as themselves or refused, before what may follow them, are read so one after another;
    blanks may stand before the closing mark. -/
theorem separated_commaJoined (hclose : close = ']' ∨ close = '\x7d') (hcomma : ∀ cs, Follows (',' :: cs))
    (hgap : ∀ c ∈ gap, isSpace c = true) (hend : Follows (gap ++ close :: rest)) {bs : List β} (hne : bs ≠ [])
    (h : ∀ b ∈ bs, ∀ rest, Follows rest → item (text b ++ rest) = if ok b then some (result b, rest) else none) :
    separated item close (commaJoined (bs.map text) ++ (gap ++ close :: rest)) =
      if bs.all ok then some (bs.map result, rest) else none := by
  have hspace : isSpace close = false := by rcases hclose with rfl | rfl <;> rfl
  have hskipped : skip (gap ++ close :: rest) = close :: rest := by rw [skip_append hgap, skip_cons hspace]
  induction bs with
  | nil => exact absurd rfl hne
  | cons b bs ih =>
    obtain ⟨hb, hbs⟩ := List.forall_mem_cons.mp h
    rw [List.map_cons, commaJoined, separated]
    cases bs with
    | nil =>
      rw [List.map_nil, List.isEmpty_nil, if_pos rfl, List.append_nil, hb _ hend]
      cases hok : ok b with
      | false => simp [hok]
      | true => simp [hok, hskipped]
    | cons b' bs =>
      have ih := ih (List.cons_ne_nil b' bs) hbs
      have hcloses : (',' == close) = false := by rcases hclose with rfl | rfl <;> rfl
      rw [List.map_cons] at ih ⊢
      rw [List.isEmpty_cons, if_neg Bool.false_ne_true, List.append_assoc, List.cons_append, hb _ (hcomma _)]
      cases hok : ok b with
      | false => simp [hok]
      | true =>
        have hlength : ∀ more : List Char, decide (more.length < (text b ++ ',' :: more).length) = true := by
          intro more
          rw [decide_eq_true_eq, List.length_append, List.length_cons]
          omega
        have hskip : ∀ more, skip (',' :: more) = ',' :: more := skip_cons rfl
        have hall : (b :: b' :: bs).all ok = (b' :: bs).all ok := by rw [List.all_cons, hok, Bool.true_and]
        rw [hall]
        simp only [if_true, hskip, hcloses, Bool.false_eq_true, if_false, hlength, beq_self_eq_true, Bool.and_self]
        rw [ih]
        cases (b' :: bs).all ok <;> rfl

/-- A list up to its closing mark is read as its items, or refused if one of them is. The same blanks may lead
    every item. -/
theorem listed_laidOut (hclose : close = ']' ∨ close = '\x7d') (hcomma : ∀ cs, Follows (',' :: cs))
    (hlead : ∀ c ∈ lead, isSpace c = true) (hitem : ∀ cs, item (lead ++ cs) = item cs)
    (hgap : ∀ c ∈ gap, isSpace c = true) (hend : Follows (gap ++ close :: rest)) {bs : List β}
    (hstart : ∀ b ∈ bs, ∃ c cs, text b = c :: cs ∧ isSpace c = false ∧ c ≠ close)
    (h : ∀ b ∈ bs, ∀ rest, Follows rest → item (text b ++ rest) = if ok b then some (result b, rest) else none) :
    listed item close (commaJoined (bs.map fun b => lead ++ text b) ++ (gap ++ close :: rest)) =
      if bs.all ok then some (bs.map result, rest) else none := by
  have hspace : isSpace close = false := by rcases hclose with rfl | rfl <;> rfl
  cases bs with
  | nil =>
    unfold listed
    rw [List.map_nil, commaJoined, List.nil_append, skip_append hgap, skip_cons hspace]
    simp
  | cons b bs =>
    obtain ⟨hb, hbs⟩ := List.forall_mem_cons.mp h
    obtain ⟨c, cs, htext, hc, hne⟩ := hstart b List.mem_cons_self
    -- The blanks before the first item are gone when it is read, those before the others are not.
    let texts : List (List Char × β) := (text b, b) :: bs.map fun b => (lead ++ text b, b)
    have htexts : ∀ t ∈ texts, ∀ rest, Follows rest →
        item (t.1 ++ rest) = if ok t.2 then some (result t.2, rest) else none := by
      refine List.forall_mem_cons.mpr ⟨hb, fun t ht rest hr => ?_⟩
      obtain ⟨b', hb', rfl⟩ := List.mem_map.mp ht
      rw [List.append_assoc, hitem, hbs b' hb' rest hr]
    have hseparated : separated item close (commaJoined (texts.map Prod.fst) ++ (gap ++ close :: rest)) =
        if texts.all (fun t => ok t.2) then some (texts.map fun t => result t.2, rest) else none :=
      separated_commaJoined hclose hcomma hgap hend (List.cons_ne_nil _ _) htexts
    have hlist : ∃ more, commaJoined (texts.map Prod.fst) ++ (gap ++ close :: rest) = c :: more ∧
        commaJoined ((b :: bs).map fun b => lead ++ text b) ++ (gap ++ close :: rest) = lead ++ c :: more := by
      refine ⟨cs ++ (if bs.isEmpty then [] else ',' :: commaJoined (bs.map fun b => lead ++ text b)) ++
        (gap ++ close :: rest), ?_, ?_⟩ <;>
        simp [texts, commaJoined, htext, Function.comp_def]
    obtain ⟨more, hfirst, hall⟩ := hlist
    rw [hfirst] at hseparated
    unfold listed
    rw [hall, skip_append hlead, skip_cons hc]
    dsimp only
    rw [if_neg fun heq => hne (beq_iff_eq.mp heq), hseparated]
    simp [texts, Function.comp_def]

/-- A list without blanks is read as its items, or refused if one of them is. -/
theorem listed_commaJoined (hclose : close = ']' ∨ close = '\x7d') {bs : List β}
    (hstart : ∀ b ∈ bs, ∃ c cs, text b = c :: cs ∧ isSpace c = false ∧ c ≠ close)
    (h : ∀ b ∈ bs, ∀ rest, Ends rest → item (text b ++ rest) = if ok b then some (result b, rest) else none)
    (rest : List Char) : listed item close (commaJoined (bs.map text) ++ close :: rest) =
      if bs.all ok then some (bs.map result, rest) else none :=
  listed_laidOut hclose (ends_cons (.inl rfl)) (List.forall_mem_nil _) (fun _ => rfl) (List.forall_mem_nil _)
    (ends_cons (.inr hclose) rest) hstart h

end

/-! ### Documents -/

/-- Every number of the document is read as itself. -/
inductive IsExact : Json → Prop where
  | null : IsExact .null
  | bool (b : Bool) : IsExact (.bool b)
  | number {n : JsonNumber} : n.IsExact → IsExact (.number n)
  | text (s : String) : IsExact (.text s)
  | array {items : List Json} : (∀ j ∈ items, IsExact j) → IsExact (.array items)
  | object {members : List (String × Json)} : (∀ m ∈ members, IsExact m.2) → IsExact (.object members)

@[simp] theorem isExact_null : Json.null.IsExact := .null

@[simp] theorem isExact_text (s : String) : (Json.text s).IsExact := .text s

@[simp] theorem isExact_array {items : List Json} : (Json.array items).IsExact ↔ ∀ j ∈ items, j.IsExact := by
  constructor
  · rintro (_ | _ | _ | _ | h)
    exact h
  · exact .array

@[simp] theorem isExact_object {members : List (String × Json)} :
    (Json.object members).IsExact ↔ ∀ m ∈ members, m.2.IsExact := by
  constructor
  · rintro (_ | _ | _ | _ | _ | h)
    exact h
  · exact .object

theorem depthItems_le_iff {items : List Json} {d : Nat} : depthItems items ≤ d ↔ ∀ j ∈ items, j.depth ≤ d := by
  induction items with
  | nil => simp [depthItems]
  | cons j items ih => rw [depthItems, Nat.max_le, ih, List.forall_mem_cons]

theorem depthMembers_le_iff {members : List (String × Json)} {d : Nat} :
    depthMembers members ≤ d ↔ ∀ m ∈ members, m.2.depth ≤ d := by
  induction members with
  | nil => simp [depthMembers]
  | cons m members ih => rw [depthMembers, Nat.max_le, ih, List.forall_mem_cons, depthMember]

/-- An array is not too deep exactly if none of its items is. -/
theorem all_depth_items (items : List Json) (d : Nat) :
    items.all (fun j => decide (j.depth ≤ d)) = decide ((Json.array items).depth ≤ d + 1) := by
  rw [Bool.eq_iff_iff, List.all_eq_true, decide_eq_true_eq, depth, Nat.add_le_add_iff_right, depthItems_le_iff]
  simp

theorem all_depth_members (members : List (String × Json)) (d : Nat) :
    members.all (fun m => decide (m.2.depth ≤ d)) = decide ((Json.object members).depth ≤ d + 1) := by
  rw [Bool.eq_iff_iff, List.all_eq_true, decide_eq_true_eq, depth, Nat.add_le_add_iff_right, depthMembers_le_iff]
  simp

theorem compactItems_eq (items : List Json) : compactItems items = commaJoined (items.map compactChars) := by
  induction items with
  | nil => rfl
  | cons j items ih =>
    rw [compactItems, ih, List.map_cons, commaJoined]
    cases items <;> rfl

theorem compactMembers_eq (members : List (String × Json)) :
    compactMembers members = commaJoined (members.map compactMember) := by
  induction members with
  | nil => rfl
  | cons m members ih =>
    rw [compactMembers, ih, List.map_cons, commaJoined]
    cases members <;> rfl

/-- A number begins with a digit or a sign. -/
theorem numberText?_cons_eq_none {c : Char} (hc : c ≠ '-' ∧ c.isDigit = false) (cs : List Char) :
    numberText? (c :: cs) = none := by
  have hnumeral : numeral (c :: cs) = none := by
    unfold numeral
    split
    next negative more heq =>
    split at heq
    · next h => exact absurd (List.cons.inj h).1 hc.1
    · cases heq
      simp [hc.2]
  rw [numberText?, hnumeral]
  rfl

theorem ne_of_startsNumber {c d : Char} (hc : c = '-' ∨ c.isDigit = true) (hd : d ≠ '-') (hdigit : d.isDigit = false) :
    c ≠ d := by
  rcases hc with rfl | hc
  · exact hd.symm
  · exact Decimal.ne_of_isDigit hc hdigit

theorem isSpace_of_startsNumber {c : Char} (hc : c = '-' ∨ c.isDigit = true) : isSpace c = false := by
  rcases hc with rfl | hc
  · rfl
  · simp [isSpace, Decimal.ne_of_isDigit hc]

theorem start_of_isExactNumber {n : JsonNumber} (h : n.IsExact) :
    ∃ c cs, numberText n = c :: cs ∧ (c = '-' ∨ c.isDigit = true) := by
  have hread := h [] ends_nil
  rw [List.append_nil] at hread
  cases htext : numberText n with
  | nil =>
    rw [htext] at hread
    cases hread
  | cons c cs =>
    refine ⟨c, cs, rfl, ?_⟩
    rw [htext] at hread
    cases hdigit : c.isDigit with
    | true => exact .inr rfl
    | false =>
      by_cases hsign : c = '-'
      · exact .inl hsign
      · rw [numberText?_cons_eq_none ⟨hsign, hdigit⟩] at hread
        cases hread

/-- A character at which a document begins, and that is neither a bracket nor a brace, begins a scalar. -/
theorem value_of_scalar {c : Char} (hspace : isSpace c = false) (hbracket : c ≠ '[') (hbrace : c ≠ '\x7b') (d : Nat)
    (cs : List Char) : value d (c :: cs) = scalar (c :: cs) := by
  cases d with
  | zero => simp only [value, skip_cons hspace]
  | succ d =>
    simp only [value, skip_cons hspace]
    split
    · next h => exact absurd (List.cons.inj h).1 hbracket
    · next h => exact absurd (List.cons.inj h).1 hbrace
    · rfl

theorem scalar_number {c : Char} (hc : c = '-' ∨ c.isDigit = true) (cs : List Char) :
    scalar (c :: cs) = (numberText? (c :: cs)).map fun (n, more) => (.number n, more) := by
  unfold scalar
  split
  · next h => exact absurd (List.cons.inj h).1 (ne_of_startsNumber hc (by decide) rfl)
  · next h => exact absurd (List.cons.inj h).1 (ne_of_startsNumber hc (by decide) rfl)
  · next h => exact absurd (List.cons.inj h).1 (ne_of_startsNumber hc (by decide) rfl)
  · next h => exact absurd (List.cons.inj h).1 (ne_of_startsNumber hc (by decide) rfl)
  · rfl

/-- The first character of a document is no blank and closes nothing. -/
theorem start_of_isExact {j : Json} (h : j.IsExact) :
    ∃ c cs, j.compactChars = c :: cs ∧ isSpace c = false ∧ c ≠ ']' ∧ c ≠ '\x7d' := by
  cases h with
  | null => exact ⟨_, _, rfl, rfl, by decide, by decide⟩
  | bool b => cases b <;> exact ⟨_, _, rfl, rfl, by decide, by decide⟩
  | @number n hn =>
    obtain ⟨c, cs, htext, hc⟩ := start_of_isExactNumber hn
    have harray : c ≠ ']' := ne_of_startsNumber hc (by decide) rfl
    have hobject : c ≠ '\x7d' := ne_of_startsNumber hc (by decide) rfl
    exact ⟨c, cs, htext, isSpace_of_startsNumber hc, harray, hobject⟩
  | text s => exact ⟨_, _, rfl, rfl, by decide, by decide⟩
  | array _ => exact ⟨_, _, rfl, rfl, by decide, by decide⟩
  | object _ => exact ⟨_, _, rfl, rfl, by decide, by decide⟩

theorem compactChars_array (items : List Json) (rest : List Char) :
    (Json.array items).compactChars ++ rest = '[' :: (commaJoined (items.map compactChars) ++ ']' :: rest) := by
  rw [compactChars, compactItems_eq]
  simp

theorem compactChars_object (members : List (String × Json)) (rest : List Char) :
    (Json.object members).compactChars ++ rest =
      '\x7b' :: (commaJoined (members.map compactMember) ++ '\x7d' :: rest) := by
  rw [compactChars, compactMembers_eq]
  simp

theorem compactMember_append (m : String × Json) (rest : List Char) : compactMember m ++ rest =
    '"' :: (m.1.toList.flatMap escapedChar ++ '"' :: ':' :: (m.2.compactChars ++ rest)) := by
  obtain ⟨k, j⟩ := m
  rw [compactMember, List.append_assoc, List.cons_append, quotedText_append]

/-- A member is read by the reader of its value. -/
theorem member_compactMember (reader : Reader Json) (m : String × Json) (rest : List Char) :
    member reader (compactMember m ++ rest) =
      (reader (m.2.compactChars ++ rest)).map fun (j, more) => ((m.1, j), more) := by
  rw [compactMember_append]
  unfold member
  simp only [skip_cons (show isSpace '"' = false from rfl), stringTail_escaped, Option.bind_eq_bind, Option.bind_some,
    skip_cons (show isSpace ':' = false from rfl)]
  cases reader (m.2.compactChars ++ rest) <;> rfl

/-- A bracket or a brace begins no scalar. -/
theorem scalar_cons_eq_none {c : Char} (hc : c = '[' ∨ c = '\x7b') (cs : List Char) : scalar (c :: cs) = none := by
  have hnumber : numberText? (c :: cs) = none :=
    numberText?_cons_eq_none (by rcases hc with rfl | rfl <;> exact ⟨by decide, rfl⟩) cs
  have hscalar : scalar (c :: cs) = (numberText? (c :: cs)).map fun (n, more) => (.number n, more) := by
    rcases hc with rfl | rfl <;> rfl
  rw [hscalar, hnumber]
  rfl

theorem value_zero_cons_eq_none {c : Char} (hc : c = '[' ∨ c = '\x7b') (cs : List Char) :
    value 0 (c :: cs) = none := by
  have hspace : isSpace c = false := by rcases hc with rfl | rfl <;> rfl
  simp only [value, skip_cons hspace, scalar_cons_eq_none hc]

theorem value_bracket (d : Nat) (cs : List Char) :
    value (d + 1) ('[' :: cs) = (listed (value d) ']' cs).map fun (l, more) => (.array l, more) := by
  simp only [value, skip_cons (show isSpace '[' = false from rfl)]

theorem value_brace (d : Nat) (cs : List Char) : value (d + 1) ('\x7b' :: cs) =
    (listed (member (value d)) '\x7d' cs).map fun (l, more) => (.object l, more) := by
  simp only [value, skip_cons (show isSpace '\x7b' = false from rfl)]

theorem start_of_member (m : String × Json) : ∃ c cs, compactMember m = c :: cs ∧ isSpace c = false ∧ c ≠ '\x7d' := by
  obtain ⟨k, j⟩ := m
  exact ⟨'"', _, rfl, rfl, by decide⟩

/-! ### Scalars -/

section
variable (d : Nat) {rest : List Char}

theorem value_null : value d (Json.null.compactChars ++ rest) = some (.null, rest) :=
  value_of_scalar rfl (by decide) (by decide) d _

theorem value_bool (b : Bool) : value d ((Json.bool b).compactChars ++ rest) = some (.bool b, rest) := by
  cases b <;> exact value_of_scalar rfl (by decide) (by decide) d _

theorem value_text (s : String) : value d ((Json.text s).compactChars ++ rest) = some (.text s, rest) := by
  have hscalar : ∀ cs, scalar ('"' :: cs) = (stringTail cs).map fun r => (.text r.1, r.2) := fun _ => rfl
  rw [compactChars, quotedText_append, value_of_scalar rfl (by decide) (by decide), hscalar, stringTail_escaped]
  rfl

theorem value_number {n : JsonNumber} (hn : n.IsExact)
    (hread : numberText? (numberText n ++ rest) = some (n, rest)) :
    value d ((Json.number n).compactChars ++ rest) = some (.number n, rest) := by
  obtain ⟨c, cs, htext, hc⟩ := start_of_isExactNumber hn
  have hbracket : c ≠ '[' := ne_of_startsNumber hc (by decide) rfl
  have hbrace : c ≠ '\x7b' := ne_of_startsNumber hc (by decide) rfl
  rw [compactChars]
  rw [htext, List.cons_append] at hread ⊢
  rw [value_of_scalar (isSpace_of_startsNumber hc) hbracket hbrace, scalar_number hc, hread]
  rfl

end

/-! ### Arrays and objects -/

section
variable {items : List Json} {members : List (String × Json)} {cs rest : List Char}

/-- An array whose items are read below every depth that they do not exceed is read so itself. -/
theorem value_array (h : ∀ d, listed (value d) ']' cs =
      if items.all (fun j => decide (j.depth ≤ d)) then some (items, rest) else none) (d : Nat) :
    value d ('[' :: cs) = if (Json.array items).depth ≤ d then some (.array items, rest) else none := by
  cases d with
  | zero =>
    rw [if_neg (show ¬(Json.array items).depth ≤ 0 from Nat.not_succ_le_zero _)]
    exact value_zero_cons_eq_none (.inl rfl) _
  | succ d =>
    rw [value_bracket, h, all_depth_items]
    by_cases hdepth : (Json.array items).depth ≤ d + 1 <;> simp [hdepth]

theorem value_object (h : ∀ d, listed (member (value d)) '\x7d' cs =
      if members.all (fun m => decide (m.2.depth ≤ d)) then some (members, rest) else none) (d : Nat) :
    value d ('\x7b' :: cs) = if (Json.object members).depth ≤ d then some (.object members, rest) else none := by
  cases d with
  | zero =>
    rw [if_neg (show ¬(Json.object members).depth ≤ 0 from Nat.not_succ_le_zero _)]
    exact value_zero_cons_eq_none (.inr rfl) _
  | succ d =>
    rw [value_brace, h, all_depth_members]
    by_cases hdepth : (Json.object members).depth ≤ d + 1 <;> simp [hdepth]

end

/-- A document is read from its text on one line, whatever follows it, exactly if it is not too deep. -/
theorem value_compactChars {j : Json} (hj : j.IsExact) (d : Nat) {rest : List Char} (hr : Ends rest) :
    value d (j.compactChars ++ rest) = if j.depth ≤ d then some (j, rest) else none := by
  induction hj generalizing d rest with
  | null => exact (value_null d).trans (if_pos (Nat.zero_le d)).symm
  | bool b => exact (value_bool d b).trans (if_pos (Nat.zero_le d)).symm
  | number hn => exact (value_number d hn (hn rest hr)).trans (if_pos (Nat.zero_le d)).symm
  | text s => exact (value_text d s).trans (if_pos (Nat.zero_le d)).symm
  | @array items h ih =>
    rw [compactChars_array]
    refine value_array (fun d => ?_) d
    have hstart : ∀ j ∈ items, ∃ c cs, j.compactChars = c :: cs ∧ isSpace c = false ∧ c ≠ ']' := fun j hj => by
      obtain ⟨c, cs, htext, hspace, hclose, -⟩ := start_of_isExact (h j hj)
      exact ⟨c, cs, htext, hspace, hclose⟩
    have hitem : ∀ j ∈ items, ∀ rest, Ends rest → value d (j.compactChars ++ rest) =
        if decide (j.depth ≤ d) then some (id j, rest) else none := fun j hj rest hr => by
      rw [ih j hj d hr]
      simp
    rw [listed_commaJoined (.inl rfl) hstart hitem, List.map_id]
  | @object members h ih =>
    rw [compactChars_object]
    refine value_object (fun d => ?_) d
    have hitem : ∀ m ∈ members, ∀ rest, Ends rest → member (value d) (compactMember m ++ rest) =
        if decide (m.2.depth ≤ d) then some (id m, rest) else none := fun m hm rest hr => by
      rw [member_compactMember, ih m hm d hr]
      by_cases hdepth : m.2.depth ≤ d <;> simp [hdepth]
    rw [listed_commaJoined (.inr rfl) (fun m _ => start_of_member m) hitem, List.map_id]

end RowFilter.Json
