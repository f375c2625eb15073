import RowFilter.Json.Reader
import RowFilter.Proofs.Keyed

/-! The value of a document is a value: once the members of every object stand in order, each name once, putting
    them in order again changes nothing. So whatever a text is read as is a value. -/

namespace RowFilter.Json

theorem canonicalItems_eq_self {items : List Json} (h : ∀ j ∈ items, j.IsCanonical) : canonicalItems items = items := by
  induction items with
  | nil => rfl
  | cons j items ih =>
    obtain ⟨hj, hitems⟩ := List.forall_mem_cons.mp h
    rw [canonicalItems, hj, ih hitems]

theorem canonicalMembers_eq_self {members : List (String × Json)} (h : ∀ m ∈ members, m.2.IsCanonical) :
    canonicalMembers members = members := by
  induction members with
  | nil => rfl
  | cons m members ih =>
    obtain ⟨k, j⟩ := m
    obtain ⟨hj, hmembers⟩ := List.forall_mem_cons.mp h
    have hj : j.canonical = j := hj
    rw [canonicalMembers, canonicalMember, hj, ih hmembers]

/-- An array is a value exactly if its items are. -/
theorem isCanonical_array {items : List Json} : (Json.array items).IsCanonical ↔ ∀ j ∈ items, j.IsCanonical := by
  refine ⟨fun h => ?_, fun h => congrArg Json.array (canonicalItems_eq_self h)⟩
  have hitems : canonicalItems items = items := Json.array.inj h
  clear h
  induction items with
  | nil => exact nofun
  | cons j items ih =>
    obtain ⟨hj, hrest⟩ := List.cons.inj hitems
    exact List.forall_mem_cons.mpr ⟨hj, ih hrest⟩

theorem isCanonical_object {members : List (String × Json)} (hascending : Keyed.Ascending members)
    (h : ∀ m ∈ members, m.2.IsCanonical) : (Json.object members).IsCanonical := by
  rw [IsCanonical, canonical, canonicalMembers_eq_self h, hascending.sorted_eq]

mutual
/-- The value of a document is a value. -/
theorem isCanonical_canonical (j : Json) : j.canonical.IsCanonical := by
  match j with
  | .null | .bool _ | .number _ | .text _ => rfl
  | .array items =>
    rw [canonical]
    exact isCanonical_array.mpr (isCanonical_of_mem_items items)
  | .object members =>
    rw [canonical]
    exact isCanonical_object (Keyed.ascending_sorted _) fun m hm =>
      isCanonical_of_mem_members members m (Keyed.mem_of_mem_sorted hm)
termination_by structural j

theorem isCanonical_of_mem_items (items : List Json) : ∀ j ∈ canonicalItems items, j.IsCanonical := by
  match items with
  | [] => exact nofun
  | j :: rest => exact List.forall_mem_cons.mpr ⟨isCanonical_canonical j, isCanonical_of_mem_items rest⟩
termination_by structural items

theorem isCanonical_of_mem_members (members : List (String × Json)) :
    ∀ m ∈ canonicalMembers members, m.2.IsCanonical := by
  match members with
  | [] => exact nofun
  | m :: rest => exact List.forall_mem_cons.mpr ⟨isCanonical_canonicalMember m, isCanonical_of_mem_members rest⟩
termination_by structural members

theorem isCanonical_canonicalMember (m : String × Json) : (canonicalMember m).2.IsCanonical := by
  match m with
  | (_, j) => exact isCanonical_canonical j
termination_by structural m
end

theorem isCanonical_of_parse {s : String} {j : Json} (h : parse s = some j) : j.IsCanonical := by
  obtain ⟨k, -, rfl⟩ := Option.map_eq_some_iff.mp h
  exact isCanonical_canonical k

end RowFilter.Json
