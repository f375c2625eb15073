import RowFilter.Keyed
import RowFilter.Number.Double

/-! JSON documents. The members of an object stand in the order in which they were written, and a
    name may repeat; `canonical` gives the value a document denotes, with the members of every object
    in ascending order and the last one of each name. -/

namespace RowFilter

/-- A JSON number: an integer that 64 bits hold, signed or unsigned, or a double. -/
inductive JsonNumber where
  | integer (i : Int)
  | double (d : Double)
  deriving DecidableEq, Repr, Inhabited

namespace JsonNumber

/-- The least and the greatest signed 64-bit integer. -/
def minSigned : Int := -2 ^ 63
def maxSigned : Int := 2 ^ 63 - 1

/-- The greatest unsigned 64-bit integer. -/
def maxUnsigned : Int := 2 ^ 64 - 1

/-- The integer fits into 64 bits with a sign. -/
def isSigned (i : Int) : Bool :=
  minSigned ≤ i && i ≤ maxSigned

/-- The number as a signed 64-bit integer. -/
def signed? : JsonNumber → Option Int
  | integer i => if isSigned i then some i else none
  | double _ => none

/-- The double nearest to the number. -/
def toDouble : JsonNumber → Double
  | integer i => Double.ofInt i
  | double d => d

end JsonNumber

/-- A JSON document. -/
inductive Json where
  | null
  | bool (b : Bool)
  | number (n : JsonNumber)
  | text (s : String)
  | array (items : List Json)
  | object (members : List (String × Json))
  deriving Repr, Inhabited

namespace Json

/-! ### Equality -/

mutual
/-- Decides equality of documents. -/
def decEq (a b : Json) : Decidable (a = b) :=
  match a, b with
  | .null, .null => isTrue rfl
  | .bool x, .bool y => if h : x = y then isTrue (h ▸ rfl) else isFalse (by simp [h])
  | .number x, .number y => if h : x = y then isTrue (h ▸ rfl) else isFalse (by simp [h])
  | .text x, .text y => if h : x = y then isTrue (h ▸ rfl) else isFalse (by simp [h])
  | .array x, .array y => match decEqItems x y with
    | isTrue h => isTrue (h ▸ rfl)
    | isFalse h => isFalse (by simp [h])
  | .object x, .object y => match decEqMembers x y with
    | isTrue h => isTrue (h ▸ rfl)
    | isFalse h => isFalse (by simp [h])
  | .null, .bool _ | .null, .number _ | .null, .text _ | .null, .array _ | .null, .object _
  | .bool _, .null | .bool _, .number _ | .bool _, .text _ | .bool _, .array _ | .bool _, .object _
  | .number _, .null | .number _, .bool _ | .number _, .text _ | .number _, .array _
  | .number _, .object _
  | .text _, .null | .text _, .bool _ | .text _, .number _ | .text _, .array _ | .text _, .object _
  | .array _, .null | .array _, .bool _ | .array _, .number _ | .array _, .text _
  | .array _, .object _
  | .object _, .null | .object _, .bool _ | .object _, .number _ | .object _, .text _
  | .object _, .array _ => isFalse (by simp)
termination_by structural a

/-- Decides equality of lists of items. -/
def decEqItems (a b : List Json) : Decidable (a = b) :=
  match a, b with
  | [], [] => isTrue rfl
  | x :: xs, y :: ys => match x.decEq y, decEqItems xs ys with
    | isTrue h, isTrue h' => isTrue (h ▸ h' ▸ rfl)
    | isFalse h, _ => isFalse (by simp [h])
    | _, isFalse h => isFalse (by simp [h])
  | [], _ :: _ | _ :: _, [] => isFalse (by simp)
termination_by structural a

/-- Decides equality of lists of members. -/
def decEqMembers (a b : List (String × Json)) : Decidable (a = b) :=
  match a, b with
  | [], [] => isTrue rfl
  | x :: xs, y :: ys => match decEqMember x y, decEqMembers xs ys with
    | isTrue h, isTrue h' => isTrue (h ▸ h' ▸ rfl)
    | isFalse h, _ => isFalse (by simp [h])
    | _, isFalse h => isFalse (by simp [h])
  | [], _ :: _ | _ :: _, [] => isFalse (by simp)
termination_by structural a

/-- Decides equality of members. -/
def decEqMember (a b : String × Json) : Decidable (a = b) :=
  match a, b with
  | (k, x), (l, y) => match x.decEq y with
    | isTrue h => if h' : k = l then isTrue (h ▸ h' ▸ rfl) else isFalse (by simp [h'])
    | isFalse h => isFalse (by simp [h])
termination_by structural a
end

instance : DecidableEq Json := decEq

/-- The value of a name, if the document is an object that has it. -/
def member? (name : String) : Json → Option Json
  | .object members => Keyed.find? name members
  | _ => none

/-! ### Depth -/

mutual
/-- How many arrays and objects stand inside one another. -/
def depth (j : Json) : Nat :=
  match j with
  | .array items => depthItems items + 1
  | .object members => depthMembers members + 1
  | .null | .bool _ | .number _ | .text _ => 0
termination_by structural j

/-- The greatest depth of the items. -/
def depthItems (items : List Json) : Nat :=
  match items with
  | [] => 0
  | j :: rest => max j.depth (depthItems rest)
termination_by structural items

/-- The greatest depth of the members. -/
def depthMembers (members : List (String × Json)) : Nat :=
  match members with
  | [] => 0
  | m :: rest => max (depthMember m) (depthMembers rest)
termination_by structural members

/-- The depth of a member. -/
def depthMember (m : String × Json) : Nat :=
  match m with
  | (_, j) => j.depth
termination_by structural m
end

/-! ### The value of a document -/

mutual
/-- The document with the members of every object in ascending order, the last one of each name. -/
def canonical (j : Json) : Json :=
  match j with
  | .array items => .array (canonicalItems items)
  | .object members => .object (Keyed.sorted (canonicalMembers members))
  | .null => .null
  | .bool b => .bool b
  | .number n => .number n
  | .text s => .text s
termination_by structural j

/-- The canonical items, in order. -/
def canonicalItems (items : List Json) : List Json :=
  match items with
  | [] => []
  | j :: rest => j.canonical :: canonicalItems rest
termination_by structural items

/-- The members with canonical values, in order. -/
def canonicalMembers (members : List (String × Json)) : List (String × Json) :=
  match members with
  | [] => []
  | m :: rest => canonicalMember m :: canonicalMembers rest
termination_by structural members

/-- The member with a canonical value. -/
def canonicalMember (m : String × Json) : String × Json :=
  match m with
  | (k, j) => (k, j.canonical)
termination_by structural m
end

/-- A document is a value when writing its objects in canonical order changes nothing. -/
def IsCanonical (j : Json) : Prop :=
  j.canonical = j

end Json

end RowFilter
