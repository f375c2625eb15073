import RowFilter.Keyed

/-! Look-ups and insertions in lists of named entries, and what putting the entries in order keeps of them. -/

namespace RowFilter.Keyed

variable {α : Type} {name k : String} {a b : α} {l rest : Keyed α}

theorem mem_of_find? (h : find? name l = some a) : (name, a) ∈ l := by
  induction l with
  | nil => cases h
  | cons e l ih =>
    obtain ⟨k, b⟩ := e
    rw [find?] at h
    split at h
    · next hk =>
      cases h
      exact hk ▸ List.mem_cons_self
    · exact List.mem_cons_of_mem _ (ih h)

theorem insert_nil : insert name a [] = [(name, a)] :=
  rfl

theorem insert_of_lt (h : name < k) : insert name a ((k, b) :: rest) = (name, a) :: (k, b) :: rest :=
  if_pos h

/-- An entry goes behind those of smaller names. -/
theorem insert_of_gt (h : k < name) : insert name a ((k, b) :: rest) = (k, b) :: insert name a rest := by
  have hlt : ¬name < k := String.lt_asymm h
  have hne : k ≠ name := fun hk => String.lt_irrefl _ (hk ▸ h)
  rw [insert, if_neg hlt, if_neg hne]

/-- An entry that is put in is found instead of one of its name, and all others are found as before. -/
theorem find?_insert : find? name (insert k a l) = if k = name then some a else find? name l := by
  induction l with
  | nil => rfl
  | cons e l ih =>
    obtain ⟨j, b⟩ := e
    rw [insert]
    split
    · rw [find?]
    · split
      · next hj =>
        subst hj
        rw [find?, find?]
        split <;> rfl
      · next hj =>
        rw [find?, ih, find?]
        split
        · next hk =>
          subst hk
          rw [if_neg (Ne.symm hj)]
        · rfl

theorem find?_append {l' : Keyed α} : find? name (l ++ l') = (find? name l).or (find? name l') := by
  induction l with
  | nil => rfl
  | cons e l ih =>
    obtain ⟨k, a⟩ := e
    rw [List.cons_append, find?, find?, ih]
    split <;> rfl

theorem has_eq_isSome : has l name = (find? name l).isSome := by
  induction l with
  | nil => rfl
  | cons e l ih =>
    obtain ⟨k, a⟩ := e
    rw [find?, has, List.any_cons, ← has, ih]
    by_cases hk : k = name <;> simp [hk]

theorem find?_eq_none_iff : find? name l = none ↔ name ∉ l.names := by
  induction l with
  | nil => exact ⟨fun _ => nofun, fun _ => rfl⟩
  | cons e l ih =>
    obtain ⟨k, a⟩ := e
    rw [find?, names, List.map_cons, List.mem_cons, not_or, ← names, ← ih]
    split
    · next hk => exact ⟨nofun, fun h => absurd hk.symm h.1⟩
    · next hk => exact ⟨fun h => ⟨Ne.symm hk, h⟩, fun h => h.2⟩

theorem mem_insert {e : String × α} (h : e ∈ insert name a l) : e = (name, a) ∨ e ∈ l := by
  induction l with
  | nil => exact .inl (List.mem_singleton.mp h)
  | cons e' l ih =>
    obtain ⟨k, b⟩ := e'
    rw [insert] at h
    split at h
    · exact List.mem_cons.mp h
    · split at h
      · rcases List.mem_cons.mp h with h | h
        · exact .inl h
        · exact .inr (List.mem_cons_of_mem _ h)
      · rcases List.mem_cons.mp h with rfl | h
        · exact .inr List.mem_cons_self
        · rcases ih h with h | h
          · exact .inl h
          · exact .inr (List.mem_cons_of_mem _ h)

/-! ### Ascending lists -/

theorem mem_names_insert {n : String} (h : n ∈ (insert name a l).names) : n = name ∨ n ∈ l.names := by
  obtain ⟨e, he, rfl⟩ := List.mem_map.mp h
  rcases mem_insert he with rfl | he
  · exact .inl rfl
  · exact .inr (List.mem_map_of_mem he)

theorem Ascending.insert (h : l.Ascending) : (insert name a l).Ascending := by
  induction l with
  | nil => exact List.pairwise_singleton _ name
  | cons e l ih =>
    obtain ⟨k, b⟩ := e
    obtain ⟨hk, hl⟩ := List.pairwise_cons.mp h
    rw [Keyed.insert]
    split
    · next hlt =>
      refine List.pairwise_cons.mpr ⟨List.forall_mem_cons.mpr ⟨hlt, fun n hn => ?_⟩, h⟩
      exact String.lt_trans hlt (hk n hn)
    · next hlt =>
      split
      · next heq =>
        subst heq
        exact h
      · next hne =>
        have hgt : k < name := Classical.byContradiction fun hgt =>
          hne (String.le_antisymm (String.not_lt.mp hlt) (String.not_lt.mp hgt))
        refine List.pairwise_cons.mpr ⟨fun n hn => ?_, ih hl⟩
        rcases mem_names_insert hn with rfl | hn
        · exact hgt
        · exact hk n hn

theorem ascending_sorted (l : Keyed α) : (sorted l).Ascending := by
  have hfold : ∀ m : Keyed α, m.Ascending → (l.foldl (fun m e => Keyed.insert e.1 e.2 m) m).Ascending := by
    induction l with
    | nil => exact fun m hm => hm
    | cons e l ih => exact fun m hm => ih _ hm.insert
  exact hfold [] .nil

theorem mem_of_mem_sorted {e : String × α} (h : e ∈ sorted l) : e ∈ l := by
  have hfold : ∀ m : Keyed α, e ∈ l.foldl (fun m e => insert e.1 e.2 m) m → e ∈ m ∨ e ∈ l := by
    clear h
    induction l with
    | nil => exact fun m hm => .inl hm
    | cons e' l ih =>
      intro m hm
      rcases ih _ hm with hm | hl
      · rcases mem_insert hm with rfl | hm
        · exact .inr List.mem_cons_self
        · exact .inl hm
      · exact .inr (List.mem_cons_of_mem e' hl)
  exact (hfold [] h).resolve_left List.not_mem_nil

theorem insert_of_forall_gt (h : ∀ e ∈ l, e.1 < name) : insert name a l = l ++ [(name, a)] := by
  induction l with
  | nil => rfl
  | cons e l ih =>
    obtain ⟨he, hl⟩ := List.forall_mem_cons.mp h
    rw [insert_of_gt he, ih hl, List.cons_append]

/-- Entries in ascending order stay as they are. -/
theorem Ascending.sorted_eq (h : l.Ascending) : sorted l = l := by
  have hfold : ∀ m : Keyed α, Ascending (m ++ l) → l.foldl (fun m e => Keyed.insert e.1 e.2 m) m = m ++ l := by
    clear h
    induction l with
    | nil => exact fun m _ => (List.append_nil m).symm
    | cons e l ih =>
      intro m hm
      have hgt : ∀ e' ∈ m, e'.1 < e.1 := by
        rw [Ascending, names, List.map_append] at hm
        intro e' he'
        exact (List.pairwise_append.mp hm).2.2 _ (List.mem_map_of_mem he') _ List.mem_cons_self
      rw [List.foldl_cons, insert_of_forall_gt hgt, ih, List.append_assoc, List.singleton_append]
      rwa [List.append_assoc, List.singleton_append]
  exact hfold [] h

/-! ### Entries that may hold nothing -/

/-- An entry that another one of its name follows holds nothing, so the last entries of each name hold all that
    is held. -/
def IsLossless (l : Keyed (Option α)) : Prop :=
  l.Pairwise fun e e' => e.1 = e'.1 → e.2 = none

theorem isLossless_of_nodup {l : Keyed (Option α)} (h : l.names.Nodup) : l.IsLossless :=
  (List.pairwise_map.mp h).imp fun hne heq => absurd heq hne

theorem filterMap_insert_perm {l : Keyed (Option α)} {o : Option α} (h : ∀ e ∈ l, e.1 = name → e.2 = none) :
    ((insert name o l).filterMap Prod.snd).Perm (((name, o) :: l).filterMap Prod.snd) := by
  induction l with
  | nil => exact .rfl
  | cons e l ih =>
    obtain ⟨k, b⟩ := e
    obtain ⟨he, hl⟩ := List.forall_mem_cons.mp h
    rw [insert]
    split
    · exact .rfl
    · split
      · next hk =>
        obtain rfl : b = none := he hk
        cases o <;> exact .rfl
      · have ih := ih hl
        cases b with
        | none => cases o <;> exact ih
        | some b =>
          cases o with
          | none => exact ih.cons b
          | some a => exact (ih.cons b).trans (.swap a b _)

theorem filterMap_foldl_insert_perm {l m : Keyed (Option α)} (hl : l.IsLossless)
    (hm : ∀ e ∈ m, ∀ e' ∈ l, e.1 = e'.1 → e.2 = none) :
    ((l.foldl (fun m e => insert e.1 e.2 m) m).filterMap Prod.snd).Perm
      (l.filterMap Prod.snd ++ m.filterMap Prod.snd) := by
  induction l generalizing m with
  | nil => exact .rfl
  | cons e l ih =>
    obtain ⟨he, hl⟩ := List.pairwise_cons.mp hl
    have hstep : ((insert e.1 e.2 m).filterMap Prod.snd).Perm ((e :: m).filterMap Prod.snd) :=
      filterMap_insert_perm fun e' he' => hm e' he' e List.mem_cons_self
    have hinsert : ∀ e' ∈ insert e.1 e.2 m, ∀ e'' ∈ l, e'.1 = e''.1 → e'.2 = none := by
      intro e' he' e'' he''
      rcases mem_insert he' with rfl | he'
      · exact he e'' he''
      · exact hm e' he' e'' (List.mem_cons_of_mem _ he'')
    refine (ih hl hinsert).trans ((hstep.append_left _).trans ?_)
    obtain ⟨k, o⟩ := e
    cases o with
    | none => exact .rfl
    | some a => exact List.perm_middle

/-- Putting the entries in order keeps what they hold. -/
theorem IsLossless.sorted_perm {l : Keyed (Option α)} (hl : l.IsLossless) :
    ((sorted l).filterMap Prod.snd).Perm (l.filterMap Prod.snd) := by
  have h := filterMap_foldl_insert_perm hl (m := []) nofun
  rwa [List.filterMap_nil, List.append_nil] at h

end RowFilter.Keyed
