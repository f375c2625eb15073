import Mathlib.Order.Lattice.Nat
import RowFilter.Text.Distance

/-! The edit distance is the least number of edits. Edits that lead from one text to another can be put in the
    order of their places; then the last one splits off, which is what an entry of the distance table is computed
    by. -/

namespace RowFilter.Text

variable {α : Type}

/-! ### Edits -/

/-- One character is put in, taken out or replaced. -/
inductive Edit : List α → List α → Prop
  | insert (b : α) (bs : List α) : Edit bs (b :: bs)
  | remove (a : α) (as : List α) : Edit (a :: as) as
  | replace (a b : α) (bs : List α) : Edit (a :: bs) (b :: bs)
  | later {as bs : List α} (a : α) : Edit as bs → Edit (a :: as) (a :: bs)

/-- So many edits lead from one text to another. -/
inductive Edits : Nat → List α → List α → Prop
  | none (as : List α) : Edits 0 as as
  | more {n : Nat} {as bs cs : List α} : Edits n as bs → Edit bs cs → Edits (n + 1) as cs

/-- The least number of edits that lead from one text to another. -/
noncomputable def fewestEdits (as bs : List α) : Nat :=
  sInf {n | Edits n as bs}

variable {n m : Nat} {a b : α} {as bs cs ds : List α}

theorem Edits.later (a : α) (h : Edits n as bs) : Edits n (a :: as) (a :: bs) := by
  induction h with
  | none as => exact .none (a :: as)
  | more _ hedit ih => exact ih.more (hedit.later a)

/-! ### Edits in order -/

/-- Edits in the order of their places, those of equal characters left out. -/
inductive Alignment : Nat → List α → List α → Prop
  | nil : Alignment 0 [] []
  | keep (a : α) {n : Nat} {as bs : List α} : Alignment n as bs → Alignment n (a :: as) (a :: bs)
  | replace (a b : α) {n : Nat} {as bs : List α} : Alignment n as bs → Alignment (n + 1) (a :: as) (b :: bs)
  | insert (b : α) {n : Nat} {as bs : List α} : Alignment n as bs → Alignment (n + 1) as (b :: bs)
  | remove (a : α) {n : Nat} {as bs : List α} : Alignment n as bs → Alignment (n + 1) (a :: as) bs

namespace Alignment

theorem edits (h : Alignment n as bs) : Edits n as bs := by
  induction h with
  | nil => exact .none []
  | keep a _ ih => exact ih.later a
  | replace a b _ ih => exact (ih.later a).more (.replace a b _)
  | insert b _ ih => exact ih.more (.insert b _)
  | remove a _ ih => exact (ih.later a).more (.remove a _)

theorem refl (as : List α) : Alignment 0 as as := by
  induction as with
  | nil => exact nil
  | cons a as ih => exact keep a ih

/-- One edit more, wherever it is, is one edit more in the order at most. -/
theorem edit (h : Alignment n as bs) (hedit : Edit bs cs) : ∃ m ≤ n + 1, Alignment m as cs := by
  induction h generalizing cs with
  | nil =>
    cases hedit with
    | insert c => exact ⟨1, le_rfl, insert c nil⟩
  | keep a h ih =>
    cases hedit with
    | insert c => exact ⟨_, le_rfl, insert c (keep a h)⟩
    | remove => exact ⟨_, le_rfl, remove a h⟩
    | replace _ c => exact ⟨_, le_rfl, replace a c h⟩
    | later _ hedit =>
      obtain ⟨m, hm, h'⟩ := ih hedit
      exact ⟨m, hm, keep a h'⟩
  | replace a b h ih =>
    cases hedit with
    | insert c => exact ⟨_, le_rfl, insert c (replace a b h)⟩
    | remove => exact ⟨_, Nat.le_succ _, remove a h⟩
    | replace _ c => exact ⟨_, Nat.le_succ _, replace a c h⟩
    | later _ hedit =>
      obtain ⟨m, hm, h'⟩ := ih hedit
      exact ⟨m + 1, Nat.succ_le_succ hm, replace a b h'⟩
  | insert b h ih =>
    cases hedit with
    | insert c => exact ⟨_, le_rfl, insert c (insert b h)⟩
    | remove => exact ⟨_, Nat.le_add_right _ 2, h⟩
    | replace _ c => exact ⟨_, Nat.le_succ _, insert c h⟩
    | later _ hedit =>
      obtain ⟨m, hm, h'⟩ := ih hedit
      exact ⟨m + 1, Nat.succ_le_succ hm, insert b h'⟩
  | remove a h ih =>
    obtain ⟨m, hm, h'⟩ := ih hedit
    exact ⟨m + 1, Nat.succ_le_succ hm, remove a h'⟩

theorem of_edits (h : Edits n as bs) : ∃ m ≤ n, Alignment m as bs := by
  induction h with
  | none as => exact ⟨0, le_rfl, refl as⟩
  | more _ hedit ih =>
    obtain ⟨m, hm, h⟩ := ih
    obtain ⟨k, hk, h⟩ := h.edit hedit
    exact ⟨k, hk.trans (Nat.succ_le_succ hm), h⟩

theorem append (h : Alignment n as bs) (h' : Alignment m cs ds) : Alignment (n + m) (as ++ cs) (bs ++ ds) := by
  induction h with
  | nil =>
    rw [Nat.zero_add]
    exact h'
  | keep a _ ih => exact keep a ih
  | replace a b _ ih =>
    rw [Nat.succ_add]
    exact replace a b ih
  | insert b _ ih =>
    rw [Nat.succ_add]
    exact insert b ih
  | remove a _ ih =>
    rw [Nat.succ_add]
    exact remove a ih

theorem reverse (h : Alignment n as bs) : Alignment n as.reverse bs.reverse := by
  induction h with
  | nil => exact nil
  | keep a _ ih =>
    rw [List.reverse_cons, List.reverse_cons]
    exact ih.append (keep a nil)
  | replace a b _ ih =>
    rw [List.reverse_cons, List.reverse_cons]
    exact ih.append (replace a b nil)
  | insert b _ ih =>
    rw [List.reverse_cons]
    simpa using ih.append (insert b nil)
  | remove a _ ih =>
    rw [List.reverse_cons]
    simpa using ih.append (remove a nil)

theorem of_reverse (h : Alignment n as.reverse bs.reverse) : Alignment n as bs := by
  simpa using h.reverse

/-- The last edit puts the last character in or takes it out, or the last characters stand for each other. -/
theorem concat_cases (h : Alignment n (as ++ [a]) (bs ++ [b])) :
    (∃ m, n = m + 1 ∧ Alignment m (as ++ [a]) bs) ∨ (∃ m, n = m + 1 ∧ Alignment m as (bs ++ [b])) ∨
      ∃ m, Alignment m as bs ∧ (n = m ∧ a = b ∨ n = m + 1) := by
  have hreverse := h.reverse
  rw [List.reverse_append, List.reverse_append] at hreverse
  cases hreverse with
  | keep _ h => exact .inr (.inr ⟨_, h.of_reverse, .inl ⟨rfl, rfl⟩⟩)
  | replace _ _ h => exact .inr (.inr ⟨_, h.of_reverse, .inr rfl⟩)
  | insert _ h => exact .inl ⟨_, rfl, of_reverse (by simpa using h)⟩
  | remove _ h => exact .inr (.inl ⟨_, rfl, of_reverse (by simpa using h)⟩)

theorem length_left_le (h : Alignment n as bs) : as.length ≤ n + bs.length := by
  induction h <;> simp only [List.length_nil, List.length_cons] at * <;> omega

theorem length_right_le (h : Alignment n as bs) : bs.length ≤ n + as.length := by
  induction h <;> simp only [List.length_nil, List.length_cons] at * <;> omega

end Alignment

/-! ### Fewest edits -/

/-- No smaller number of edits leads from the one text to the other. -/
structure IsFewest (n : Nat) (as bs : List α) : Prop where
  alignment : Alignment n as bs
  least : ∀ m, Alignment m as bs → n ≤ m

theorem IsFewest.eq_fewestEdits (h : IsFewest n as bs) : fewestEdits as bs = n := by
  refine Nat.le_antisymm (Nat.sInf_le h.alignment.edits) ?_
  have hnonempty : {n | Edits n as bs}.Nonempty := ⟨n, h.alignment.edits⟩
  have hmem : Edits (fewestEdits as bs) as bs := Nat.sInf_mem hnonempty
  obtain ⟨m, hm, halignment⟩ := Alignment.of_edits hmem
  exact (h.least m halignment).trans hm

theorem isFewest_nil_right (as : List α) : IsFewest as.length as [] := by
  refine ⟨?_, fun m h => h.length_left_le⟩
  induction as with
  | nil => exact .nil
  | cons a as ih => exact .remove a ih

theorem isFewest_nil_left (bs : List α) : IsFewest bs.length [] bs := by
  refine ⟨?_, fun m h => h.length_right_le⟩
  induction bs with
  | nil => exact .nil
  | cons b bs ih => exact .insert b ih

/-- The entry of the table comes from the one above it, the one to its left and the one between these. -/
theorem IsFewest.concat [BEq α] [LawfulBEq α] {up left diagonal : Nat} (hup : IsFewest up as (bs ++ [b]))
    (hleft : IsFewest left (as ++ [a]) bs) (hdiagonal : IsFewest diagonal as bs) :
    IsFewest (min (min (up + 1) (left + 1)) (diagonal + if a == b then 0 else 1)) (as ++ [a]) (bs ++ [b]) := by
  have hremove : Alignment (up + 1) (as ++ [a]) (bs ++ [b]) := by
    simpa using hup.alignment.append (.remove a .nil)
  have hinsert : Alignment (left + 1) (as ++ [a]) (bs ++ [b]) := by
    simpa using hleft.alignment.append (.insert b .nil)
  have hlast : Alignment (diagonal + if a == b then 0 else 1) (as ++ [a]) (bs ++ [b]) := by
    refine hdiagonal.alignment.append ?_
    split
    · next heq =>
      obtain rfl := beq_iff_eq.mp heq
      exact .keep a .nil
    · exact .replace a b .nil
  constructor
  · rcases min_choice (min (up + 1) (left + 1)) (diagonal + if a == b then 0 else 1) with h | h
    · rw [h]
      rcases min_choice (up + 1) (left + 1) with h | h <;> rw [h] <;> assumption
    · rw [h]
      exact hlast
  · intro m hm
    rcases hm.concat_cases with ⟨k, rfl, hk⟩ | ⟨k, rfl, hk⟩ | ⟨k, hk, hm⟩
    · have := hleft.least k hk
      omega
    · have := hup.least k hk
      omega
    · have hle := hdiagonal.least k hk
      rcases hm with ⟨rfl, rfl⟩ | rfl
      · rw [if_pos (beq_self_eq_true a)]
        omega
      · split <;> omega

/-! ### The table -/

/-- A row of the table: the distances of a text from the beginnings of another one that are longer than `bs`. -/
inductive IsRow (as : List α) : List α → List α → List Nat → Prop
  | nil (bs : List α) : IsRow as bs [] []
  | cons {n : Nat} {b : α} {bs rest : List α} {row : List Nat} :
      IsFewest n as (bs ++ [b]) → IsRow as (bs ++ [b]) rest row → IsRow as bs (b :: rest) (n :: row)

variable {rest : List α} {row : List Nat}

theorem isRow_range' (bs rest : List α) : IsRow [] bs rest (List.range' (bs.length + 1) rest.length) := by
  induction rest generalizing bs with
  | nil => exact .nil bs
  | cons b rest ih =>
    rw [List.length_cons, List.range'_succ]
    have hrest := ih (bs ++ [b])
    rw [List.length_append, List.length_singleton] at hrest
    exact .cons (by simpa using isFewest_nil_left (bs ++ [b])) hrest

theorem IsRow.getLastD (h : IsRow as bs rest row) (hfirst : IsFewest n as bs) :
    IsFewest (row.getLastD n) as (bs ++ rest) := by
  induction h generalizing n with
  | nil => simpa using hfirst
  | cons hhere _ ih =>
    rw [List.getLastD_cons]
    simpa using ih hhere

variable [BEq α] [LawfulBEq α]

theorem IsRow.distanceRow (a : α) {diagonal left : Nat} (h : IsRow as bs rest row)
    (hdiagonal : IsFewest diagonal as bs) (hleft : IsFewest left (as ++ [a]) bs) :
    IsRow (as ++ [a]) bs rest (Text.distanceRow a rest diagonal left row) := by
  induction h generalizing diagonal left with
  | nil => exact .nil _
  | cons hup _ ih =>
    rw [Text.distanceRow]
    have hhere := hup.concat hleft hdiagonal
    exact .cons hhere (ih hup hhere)

theorem IsRow.distanceRows (h : IsRow as [] rest row) (bs : List α) :
    (Text.distanceRows rest bs as.length row).1 = (as ++ bs).length ∧
      IsRow (as ++ bs) [] rest (Text.distanceRows rest bs as.length row).2 := by
  induction bs generalizing as row with
  | nil =>
    rw [Text.distanceRows, List.append_nil]
    exact ⟨rfl, h⟩
  | cons b bs ih =>
    have hfirst : IsFewest (as.length + 1) (as ++ [b]) [] := by
      simpa using isFewest_nil_right (as ++ [b])
    have hrow := h.distanceRow b (isFewest_nil_right as) hfirst
    rw [Text.distanceRows]
    simpa using ih hrow

theorem isFewest_editDistance (as bs : List α) : IsFewest (editDistance as bs) as bs := by
  have hfirst : IsRow [] [] bs (List.range' 1 bs.length) := isRow_range' [] bs
  obtain ⟨hlength, hrow⟩ := hfirst.distanceRows as
  have hleft : IsFewest (distanceRows bs as 0 (List.range' 1 bs.length)).1 as [] := by
    rw [← List.length_nil (α := α), hlength]
    exact isFewest_nil_right as
  exact hrow.getLastD hleft

/-- The edit distance is the least number of edits. -/
theorem editDistance_eq_fewestEdits (as bs : List α) : editDistance as bs = fewestEdits as bs :=
  (isFewest_editDistance as bs).eq_fewestEdits.symm

end RowFilter.Text
