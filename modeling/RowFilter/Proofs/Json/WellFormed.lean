import RowFilter.Json.Reader

/-! Texts that are documents by their form. A text that is read as a document is one of them. The form leaves open
    how large the numbers are, which halves of surrogate pairs stand in the strings and how deep the document is. -/

namespace RowFilter.Json

/-- The text writes one document by its form alone, arrays and objects standing however deep inside one another. -/
def IsWellFormed (cs : List Char) : Prop :=
  ∃ depth, whole (pass depth) cs = some ()

/-- Whatever front part one reader takes off a text, the other one passes over. -/
def Passes {α : Type} (reader : Reader α) (passer : Reader Unit) : Prop :=
  ∀ ⦃cs : List Char⦄ ⦃a : α⦄ ⦃rest : List Char⦄, reader cs = some (a, rest) → passer cs = some ((), rest)

section
variable {α : Type} {reader : Reader α} {passer : Reader Unit} {close : Char}

theorem Passes.separated (h : Passes reader passer) {cs rest : List Char} {as : List α}
    (hread : Json.separated reader close cs = some (as, rest)) :
    ∃ us, Json.separated passer close cs = some (us, rest) := by
  fun_induction Json.separated reader close cs generalizing as rest with
  | case1 | case2 | case5 => cases hread
  | case3 cs a front hitem c more hskip hclose =>
    cases hread
    refine ⟨[()], ?_⟩
    rw [Json.separated, h hitem]
    simp only [hskip, hclose, if_true]
  | case4 cs a front hitem c more hskip hclose hcomma ih =>
    obtain ⟨⟨bs, rest'⟩, hmore, heq⟩ := Option.map_eq_some_iff.mp hread
    cases heq
    obtain ⟨us, hus⟩ := ih hmore
    refine ⟨() :: us, ?_⟩
    rw [Json.separated, h hitem]
    simp only [hskip, hclose, hcomma, hus, if_true, Bool.false_eq_true, if_false, Option.map_some]

theorem Passes.listed (h : Passes reader passer) {cs rest : List Char} {as : List α}
    (hread : Json.listed reader close cs = some (as, rest)) :
    ∃ us, Json.listed passer close cs = some (us, rest) := by
  unfold Json.listed at hread ⊢
  split at hread
  · cases hread
  · next c more hskip =>
    split at hread
    · next hclose =>
      cases hread
      exact ⟨[], if_pos hclose⟩
    · next hclose =>
      rw [if_neg hclose]
      exact h.separated hread

theorem Passes.whole (h : Passes reader passer) {cs : List Char} {a : α} (hread : Json.whole reader cs = some a) :
    Json.whole passer cs = some () := by
  unfold Json.whole at hread ⊢
  split at hread
  · next b rest hfront =>
    rw [h hfront]
    dsimp only
    split at hread
    · next hempty => exact if_pos hempty
    · cases hread
  · cases hread

end

theorem exists_of_stringTail {cs rest : List Char} {s : String} (h : stringTail cs = some (s, rest)) :
    ∃ body parts, stringBody cs = some (body, rest) ∧ stringParts body = some parts := by
  obtain ⟨⟨body, more⟩, hbody, hchars⟩ := Option.bind_eq_some_iff.mp h
  obtain ⟨parts, hparts, hjoined⟩ := Option.bind_eq_some_iff.mp hchars
  obtain ⟨chars, -, heq⟩ := Option.bind_eq_some_iff.mp hjoined
  cases heq
  exact ⟨body, parts, hbody, hparts⟩

theorem passes_scalar : Passes scalar passScalar := by
  intro cs j rest h
  unfold scalar at h
  split at h
  · cases h
    rfl
  · cases h
    rfl
  · cases h
    rfl
  · obtain ⟨⟨s, more⟩, htail, heq⟩ := Option.map_eq_some_iff.mp h
    cases heq
    obtain ⟨body, parts, hbody, hparts⟩ := exists_of_stringTail htail
    simp [passScalar, hbody, hparts]
  · next hnull htrue hfalse hquote =>
    obtain ⟨⟨n, more⟩, hnumber, heq⟩ := Option.map_eq_some_iff.mp h
    cases heq
    obtain ⟨⟨m, more'⟩, hnumeral, hvalue⟩ := Option.bind_eq_some_iff.mp hnumber
    obtain ⟨n', -, heq⟩ := Option.bind_eq_some_iff.mp hvalue
    cases heq
    rw [passScalar]
    · rw [hnumeral]
      rfl
    all_goals assumption

theorem Passes.member {reader : Reader Json} {passer : Reader Unit} (h : Passes reader passer) :
    Passes (Json.member reader) (passMember passer) := by
  intro cs m rest hread
  unfold Json.member at hread
  split at hread
  · next front hquote =>
    obtain ⟨⟨name, more⟩, htail, hvalue⟩ := Option.bind_eq_some_iff.mp hread
    obtain ⟨body, parts, hbody, hparts⟩ := exists_of_stringTail htail
    dsimp only at hvalue
    split at hvalue
    · next behind hcolon =>
      obtain ⟨⟨j, more''⟩, hj, heq⟩ := Option.bind_eq_some_iff.mp hvalue
      cases heq
      simp [passMember, hquote, hbody, hparts, hcolon, h hj]
    · cases hvalue
  · cases hread

theorem passes_value (d : Nat) : Passes (value d) (pass d) := by
  induction d with
  | zero => exact fun cs j rest h => passes_scalar h
  | succ d ih =>
    intro cs j rest h
    unfold value at h
    unfold pass
    split at h
    · next front hbracket =>
      obtain ⟨⟨items, more⟩, hitems, heq⟩ := Option.map_eq_some_iff.mp h
      cases heq
      obtain ⟨us, hus⟩ := ih.listed hitems
      rw [hus]
      rfl
    · next front hbrace =>
      obtain ⟨⟨members, more⟩, hmembers, heq⟩ := Option.map_eq_some_iff.mp h
      cases heq
      obtain ⟨us, hus⟩ := ih.member.listed hmembers
      rw [hus]
      rfl
    · exact passes_scalar h

/-- Every text that is read as a document is one by its form. -/
theorem isWellFormed_of_readChars {cs : List Char} {j : Json} (h : readChars cs = some j) : IsWellFormed cs :=
  ⟨maxDepth, (passes_value maxDepth).whole h⟩

end RowFilter.Json
