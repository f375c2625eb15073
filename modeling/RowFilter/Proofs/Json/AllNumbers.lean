import RowFilter.Proofs.Json.Documents

/-! What all numbers of a document have in common, however deep they stand in it. -/

namespace RowFilter.Json

/-- Every number in the document has a property. -/
inductive AllNumbers (P : JsonNumber → Prop) : Json → Prop where
  | null : AllNumbers P .null
  | bool (b : Bool) : AllNumbers P (.bool b)
  | number {n : JsonNumber} : P n → AllNumbers P (.number n)
  | text (s : String) : AllNumbers P (.text s)
  | array {items : List Json} : (∀ j ∈ items, AllNumbers P j) → AllNumbers P (.array items)
  | object {members : List (String × Json)} : (∀ m ∈ members, AllNumbers P m.2) → AllNumbers P (.object members)

theorem allNumbers_array {P : JsonNumber → Prop} {items : List Json} :
    (Json.array items).AllNumbers P ↔ ∀ j ∈ items, j.AllNumbers P := by
  constructor
  · rintro (_ | _ | _ | _ | h)
    exact h
  · exact .array

/-- The document is a value, with the members of its objects in order, and every number in it is read as
    itself from its text. -/
structure IsKept (j : Json) : Prop where
  canonical : j.IsCanonical
  numbers : j.AllNumbers JsonNumber.IsKept

theorem isExact_of_allNumbers {j : Json} (h : j.AllNumbers JsonNumber.IsKept) : j.IsExact := by
  induction h with
  | null => exact .null
  | bool b => exact .bool b
  | number hn => exact .number hn.isExact
  | text s => exact .text s
  | array _ ih => exact .array ih
  | object _ ih => exact .object ih

theorem IsKept.isExact {j : Json} (h : j.IsKept) : j.IsExact :=
  isExact_of_allNumbers h.numbers

end RowFilter.Json
