import RowFilter.Predicate.Pattern

/-! Patterns that look for a text. Such a pattern is the literal text with a run of any characters at
    its front, its back or both, and what classification finds in a pattern, it finds in these tokens
    alone. So a pattern built from a classification has the tokens of the pattern that was classified. -/

namespace RowFilter.Pattern

/-- The tokens of the pattern of the texts that hold a text at some place. -/
def framed (a : Anchor) (cs : List Char) : List Token :=
  match a with
  | .anywhere => .anyRun :: (cs.map .literal ++ [.anyRun])
  | .front => cs.map .literal ++ [.anyRun]
  | .back => .anyRun :: cs.map .literal

/-! ### Tokens -/

theorem isSpecial_eq_false_iff {c : Char} : isSpecial c = false ↔ c ≠ '%' ∧ c ≠ '_' ∧ c ≠ '\\' := by
  simp [isSpecial, escapeChar, and_assoc]

theorem tokens_of_not_special {c : Char} (h : isSpecial c = false) (rest : List Char) :
    tokens (c :: rest) = .literal c :: tokens rest := by
  obtain ⟨hp, hu, hb⟩ := isSpecial_eq_false_iff.mp h
  rw [tokens.eq_def]
  split
  · next heq => cases heq
  · next heq => exact absurd (List.cons.inj heq).1 hb
  · next heq => exact absurd (List.cons.inj heq).1 hb
  · next heq => exact absurd (List.cons.inj heq).1 hp
  · next heq => exact absurd (List.cons.inj heq).1 hu
  · next heq =>
    obtain ⟨rfl, rfl⟩ := List.cons.inj heq
    rfl

/-- An escaped text is read as its own characters, whatever follows it. -/
theorem tokens_escape_append (cs rest : List Char) :
    tokens (escape cs ++ rest) = cs.map .literal ++ tokens rest := by
  induction cs with
  | nil => rfl
  | cons c cs ih =>
    have hcons : escape (c :: cs) = (if isSpecial c then [escapeChar, c] else [c]) ++ escape cs := rfl
    rw [hcons, List.append_assoc]
    cases h : isSpecial c with
    | true => simp [tokens, escapeChar, ih]
    | false => simp [tokens_of_not_special h, ih]

theorem tokens_escape (cs : List Char) : tokens (escape cs) = cs.map .literal := by
  have h := tokens_escape_append cs []
  rwa [List.append_nil, tokens, List.append_nil] at h

theorem tokens_anchored (a : Anchor) (s : String) : tokens (anchored a s).toList = framed a s.toList := by
  have hrun : tokens ['%'] = [.anyRun] := rfl
  cases a with
  | anywhere => simp [anchored, framed, tokens, tokens_escape_append, hrun]
  | front => simp [anchored, framed, tokens_escape_append, hrun]
  | back => simp [anchored, framed, tokens, tokens_escape]

theorem literals?_map (cs : List Char) : literals? (cs.map .literal) = some cs := by
  induction cs with
  | nil => rfl
  | cons c cs ih => simp [literals?, ih]

theorem eq_map_of_literals? {ts : List Token} {cs : List Char} (h : literals? ts = some cs) :
    ts = cs.map .literal := by
  induction ts generalizing cs with
  | nil =>
    cases h
    rfl
  | cons t ts ih =>
    cases t with
    | literal c =>
      obtain ⟨ds, hds, rfl⟩ := Option.map_eq_some_iff.mp h
      rw [ih hds, List.map_cons]
    | anyRun => cases h
    | anyChar => cases h

/-! ### Classification -/

/-- What classification finds is what the tokens of the pattern frame. -/
theorem tokens_of_classify {pattern s : String} {a : Anchor} (h : classify pattern = some (a, s)) :
    tokens pattern.toList = framed a s.toList := by
  unfold classify at h
  generalize tokens pattern.toList = ts at h ⊢
  dsimp only at h
  -- The tokens without a leading run, and those without a trailing one.
  have hfront : ts = (if ts.head? == some .anyRun then [.anyRun] else []) ++
      (if ts.head? == some .anyRun then ts.tail else ts) := by
    split
    · next hl =>
      obtain ⟨rest, rfl⟩ := List.head?_eq_some_iff.mp (beq_iff_eq.mp hl)
      rfl
    · rfl
  generalize (if ts.head? == some Token.anyRun then ts.tail else ts) = body at h hfront
  have hback : body = (if body.getLast? == some .anyRun then body.dropLast else body) ++
      (if body.getLast? == some .anyRun then [.anyRun] else []) := by
    split
    · next hl =>
      obtain ⟨front, rfl⟩ := List.getLast?_eq_some_iff.mp (beq_iff_eq.mp hl)
      simp
    · simp
  generalize (if body.getLast? == some Token.anyRun then body.dropLast else body) = inner at h hback
  split at h
  · next cs hcs hl ht =>
    cases h
    rw [hfront, hback, hl, ht, eq_map_of_literals? hcs]
    simp [framed]
  · next cs hcs hl ht =>
    cases h
    rw [hfront, hback, hl, ht, eq_map_of_literals? hcs]
    simp [framed]
  · next cs hcs hl ht =>
    cases h
    rw [hfront, hback, hl, ht, eq_map_of_literals? hcs]
    simp [framed]
  · cases h

theorem classify_of_tokens {pattern s : String} {a : Anchor} (h : tokens pattern.toList = framed a s.toList)
    (hfront : a = .front → s ≠ "") : classify pattern = some (a, s) := by
  unfold classify
  rw [h]
  generalize hcs : s.toList = cs
  have hs : String.ofList cs = s := by rw [← hcs, String.ofList_toList]
  have hlast : (Option.map Token.literal cs.getLast? == some .anyRun) = false := by
    cases cs.getLast? <;> rfl
  cases a with
  | anywhere => simp [framed, literals?_map, hs]
  | back => simp [framed, hlast, literals?_map, hs]
  | front =>
    cases cs with
    | nil => exact absurd hs.symm (hfront rfl)
    | cons c cs =>
      have hlit := literals?_map (c :: cs)
      have hhead : (Token.literal c == Token.anyRun) = false := rfl
      have hrun : (Token.literal c :: (cs.map .literal ++ [.anyRun])).getLast? = some .anyRun := by
        rw [← List.cons_append]
        exact List.getLast?_concat
      simp only [framed, List.map_cons, List.cons_append] at hlit ⊢
      simp [List.dropLast_cons_of_ne_nil, hlit, hs, hhead, hrun]

/-- Classification finds what the tokens frame, and calls a run alone the back of the empty text. -/
theorem classify_eq_some_iff {pattern s : String} {a : Anchor} :
    classify pattern = some (a, s) ↔ tokens pattern.toList = framed a s.toList ∧ (a = .front → s ≠ "") := by
  constructor
  · intro h
    refine ⟨tokens_of_classify h, ?_⟩
    rintro rfl rfl
    have hrun : tokens pattern.toList = framed .front "".toList := tokens_of_classify h
    have hback : classify pattern = some (.back, "") := classify_of_tokens hrun nofun
    rw [h] at hback
    cases hback
  · rintro ⟨h, hfront⟩
    exact classify_of_tokens h hfront

theorem exists_classify_of_tokens {pattern s : String} {a : Anchor} (h : tokens pattern.toList = framed a s.toList) :
    ∃ b, classify pattern = some (b, s) ∧ b = if a = .front ∧ s = "" then .back else a := by
  by_cases hrun : a = .front ∧ s = ""
  · obtain ⟨rfl, rfl⟩ := hrun
    exact ⟨.back, classify_eq_some_iff.mpr ⟨h, nofun⟩, rfl⟩
  · have hfront : a = .front → s ≠ "" := fun ha hs => hrun ⟨ha, hs⟩
    exact ⟨a, classify_eq_some_iff.mpr ⟨h, hfront⟩, (if_neg hrun).symm⟩

/-- Both runs of the empty text make one pattern. -/
theorem anchored_back_of_front {a : Anchor} {s : String} :
    anchored (if a = .front ∧ s = "" then .back else a) s = anchored a s := by
  split
  · next h =>
    obtain ⟨rfl, rfl⟩ := h
    rfl
  · rfl

/-- A pattern built to look for a text is recognised. The front of the empty text is looked for by a run
    alone, which comes back as its back. -/
theorem classify_anchored (a : Anchor) (s : String) :
    ∃ b, classify (anchored a s) = some (b, s) ∧ anchored b s = anchored a s := by
  obtain ⟨b, hclassify, rfl⟩ := exists_classify_of_tokens (tokens_anchored a s)
  exact ⟨_, hclassify, anchored_back_of_front⟩

/-- The tokens of the patterns that are recognised: literals, with a run at their front, their back or both. -/
theorem isSome_classify_iff {pattern : String} : (classify pattern).isSome = true ↔
    ∃ (front back : Bool) (cs : List Char), (front || back) = true ∧
      tokens pattern.toList =
        (if front then [.anyRun] else []) ++ cs.map .literal ++ if back then [.anyRun] else [] := by
  constructor
  · intro h
    obtain ⟨⟨a, s⟩, hclassify⟩ := Option.isSome_iff_exists.mp h
    have htokens := tokens_of_classify hclassify
    cases a with
    | anywhere => exact ⟨true, true, s.toList, rfl, htokens⟩
    | front => exact ⟨false, true, s.toList, rfl, htokens⟩
    | back => exact ⟨true, false, s.toList, rfl, by simpa [framed] using htokens⟩
  · rintro ⟨front, back, cs, hends, htokens⟩
    obtain ⟨a, ha⟩ : ∃ a, tokens pattern.toList = framed a (String.ofList cs).toList := by
      rw [String.toList_ofList]
      cases front <;> cases back
      · cases hends
      · exact ⟨.front, htokens⟩
      · exact ⟨.back, by simpa [framed] using htokens⟩
      · exact ⟨.anywhere, htokens⟩
    obtain ⟨b, hclassify, -⟩ := exists_classify_of_tokens ha
    exact Option.isSome_iff_exists.mpr ⟨_, hclassify⟩

/-- Patterns with the same tokens match the same texts. -/
theorem matchText_congr {p q : String} (h : tokens p.toList = tokens q.toList) (s : String) :
    matchText p s = matchText q s := by
  simp only [matchText, prepare?, h]

/-- Classification undoes the building of patterns, up to the run alone, and takes every pattern whose only
    wildcards are runs at its ends; what it finds builds a pattern that matches the same texts. -/
theorem classify_inverts_anchored :
    (∀ (a : Anchor) (s : String), ∃ b, classify (anchored a s) = some (b, s) ∧ anchored b s = anchored a s ∧
      b = if a = .front ∧ s = "" then .back else a) ∧
    (∀ pattern : String, (classify pattern).isSome = true ↔
      ∃ (front back : Bool) (cs : List Char), (front || back) = true ∧ tokens pattern.toList =
        (if front then [.anyRun] else []) ++ cs.map .literal ++ if back then [.anyRun] else []) ∧
    ∀ (pattern s : String) (a : Anchor), classify pattern = some (a, s) →
      ∀ t, matchText pattern t = matchText (anchored a s) t := by
  refine ⟨fun a s => ?_, fun pattern => isSome_classify_iff, fun pattern s a h t => ?_⟩
  · obtain ⟨b, hclassify, rfl⟩ := exists_classify_of_tokens (tokens_anchored a s)
    exact ⟨_, hclassify, anchored_back_of_front, rfl⟩
  · exact matchText_congr ((tokens_of_classify h).trans (tokens_anchored a s).symm) t

/-- An escaped percent sign at the front is no run, and an escape without need is left out. -/
theorem classify_inverts_anchored_escaped : classify "\\%\\a%" = some (.front, "%a") ∧
    ∀ t, matchText "\\%\\a%" t = matchText (anchored .front "%a") t := by
  have h : classify "\\%\\a%" = some (.front, "%a") := by decide +kernel
  exact ⟨h, classify_inverts_anchored.2.2 _ _ _ h⟩

end RowFilter.Pattern
