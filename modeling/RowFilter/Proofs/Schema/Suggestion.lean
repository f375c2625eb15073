import RowFilter.Proofs.Text.Distance
import RowFilter.Proofs.Text.Octets
import RowFilter.Schema.Suggestion

/-! Suggested names. There is one exactly if some declared name is near enough; it is the nearest of them, and of
    equally near ones the first in the order of their octets. -/

namespace RowFilter.Suggestion

/-- The least number of edits between two names in lower case. -/
noncomputable def edits (a b : String) : Nat :=
  Text.fewestEdits (Text.lowercase a.toList) (Text.lowercase b.toList)

/-- No nonempty name is nearer, and those that are equally near come later in the order of octets. -/
structure IsNearest (name : String) (declared : List String) (best : String) : Prop where
  mem : best ∈ declared
  ne_empty : best ≠ ""
  least : ∀ n ∈ declared, n ≠ "" → edits name best ≤ edits name n
  first : ∀ n ∈ declared, n ≠ "" → n ≠ best → edits name n = edits name best →
    List.Lex (· < ·) (Text.octets best.toList) (Text.octets n.toList)

variable {name best : String} {l declared : List String} {d : Nat}

theorem distance_eq_edits (a b : String) : distance a b = edits a b :=
  Text.editDistance_eq_fewestEdits _ _

theorem IsNearest.unique {other : String} (h : IsNearest name declared best) (h' : IsNearest name declared other) :
    best = other := by
  by_contra hne
  have heq : edits name best = edits name other :=
    Nat.le_antisymm (h.least other h'.mem h'.ne_empty) (h'.least best h.mem h.ne_empty)
  have hlt := h.first other h'.mem h'.ne_empty (Ne.symm hne) heq.symm
  exact List.lt_asymm hlt (h'.first best h.mem h.ne_empty hne heq)

/-! ### The nearest name -/

theorem nearest_eq_none_iff : nearest name l = none ↔ l = [] := by
  cases l with
  | nil => exact ⟨fun _ => rfl, fun _ => rfl⟩
  | cons candidate rest =>
    rw [nearest]
    split
    · split <;> simp
    · simp

theorem of_nearest (h : nearest name l = some (best, d)) :
    best ∈ l ∧ distance name best = d ∧ ∀ n ∈ l, d ≤ distance name n := by
  induction l generalizing best d with
  | nil => cases h
  | cons candidate rest ih =>
    rw [nearest] at h
    split at h
    · next other e hrest =>
      obtain ⟨hmem, hdistance, hleast⟩ := ih hrest
      split at h
      · next hlt =>
        cases h
        refine ⟨List.mem_cons_of_mem candidate hmem, hdistance, List.forall_mem_cons.mpr ⟨?_, hleast⟩⟩
        exact Nat.le_of_lt hlt
      · next hge =>
        cases h
        refine ⟨List.mem_cons_self, rfl, List.forall_mem_cons.mpr ⟨Nat.le_refl _, fun n hn => ?_⟩⟩
        exact (Nat.not_lt.mp hge).trans (hleast n hn)
    · next hrest =>
      cases h
      rw [nearest_eq_none_iff.mp hrest]
      exact ⟨List.mem_cons_self, rfl, List.forall_mem_singleton.mpr (Nat.le_refl _)⟩

/-- Of equally near names the nearest one comes first. -/
theorem lt_of_nearest (hl : l.Pairwise (· < ·)) (h : nearest name l = some (best, d)) :
    ∀ n ∈ l, n ≠ best → distance name n = d → best < n := by
  induction l generalizing best d with
  | nil => cases h
  | cons candidate rest ih =>
    obtain ⟨hcandidate, hl⟩ := List.pairwise_cons.mp hl
    intro n hn hne heq
    have hlater : ∀ {e}, (candidate, e) = (best, d) → best < n := by
      intro e hbest
      cases hbest
      exact hcandidate n ((List.mem_cons.mp hn).resolve_left hne)
    rw [nearest] at h
    split at h
    · next other e hrest =>
      split at h
      · next hlt =>
        cases h
        rcases List.mem_cons.mp hn with rfl | hn
        · exact absurd heq (Nat.ne_of_gt hlt)
        · exact ih hl hrest n hn hne heq
      · exact hlater (Option.some.inj h)
    · exact hlater (Option.some.inj h)

/-! ### Suggestions -/

theorem mem_candidates_iff (hname : name ∉ declared) {n : String} :
    n ∈ declared.filter (fun n => n != "" && n != name) ↔ n ∈ declared ∧ n ≠ "" := by
  rw [List.mem_filter, Bool.and_eq_true, bne_iff_ne, bne_iff_ne]
  refine and_congr_right fun hn => and_iff_left ?_
  rintro rfl
  exact hname hn

theorem isNearest_of_forName? (hl : declared.Pairwise (· < ·)) (hname : name ∉ declared)
    (h : forName? name declared = some best) : IsNearest name declared best ∧ edits name best ≤ 3 := by
  unfold forName? at h
  split at h
  · next other d hnearest =>
    split at h
    · next hd =>
      cases h
      obtain ⟨hmem, rfl, hleast⟩ := of_nearest hnearest
      obtain ⟨hmem, hne⟩ := (mem_candidates_iff hname).mp hmem
      have hfirst := lt_of_nearest (hl.filter _) hnearest
      simp only [distance_eq_edits] at hd hleast hfirst
      refine ⟨⟨hmem, hne, fun n hn hne => ?_, fun n hn hne hbest heq => ?_⟩, hd⟩
      · exact hleast n ((mem_candidates_iff hname).mpr ⟨hn, hne⟩)
      · have hlt := hfirst n ((mem_candidates_iff hname).mpr ⟨hn, hne⟩) hbest heq
        exact Text.lex_octets (String.lt_iff.mp hlt)
    · cases h
  · cases h

theorem isSome_forName?_iff (hname : name ∉ declared) :
    (forName? name declared).isSome = true ↔ ∃ n ∈ declared, n ≠ "" ∧ edits name n ≤ 3 := by
  unfold forName?
  split
  · next best d hnearest =>
    obtain ⟨hmem, rfl, hleast⟩ := of_nearest hnearest
    obtain ⟨hmem, hne⟩ := (mem_candidates_iff hname).mp hmem
    simp only [distance_eq_edits] at hleast ⊢
    split
    · next hd => exact ⟨fun _ => ⟨best, hmem, hne, hd⟩, fun _ => rfl⟩
    · next hd =>
      refine ⟨nofun, ?_⟩
      rintro ⟨n, hn, hne, hnear⟩
      exact absurd ((hleast n ((mem_candidates_iff hname).mpr ⟨hn, hne⟩)).trans hnear) hd
  · next hnearest =>
    refine ⟨nofun, ?_⟩
    rintro ⟨n, hn, hne, -⟩
    have hmem := (mem_candidates_iff hname).mpr ⟨hn, hne⟩
    rw [nearest_eq_none_iff.mp hnearest] at hmem
    cases hmem

end RowFilter.Suggestion
