/-! Double-precision numbers, exactly. Every finite double is a whole number of units of `2 ^ -1074`,
    so a finite double is a sign and a natural number, and order and arithmetic are those of whole
    numbers followed by one rounding to the nearest, ties to even. -/

-- Powers of numbers are the core's, also where those of monoids are in scope.
attribute [instance (2000), default_instance 20000] instPowNat

namespace RowFilter

/-- A double-precision number. A finite one has the value `± units / 2 ^ 1074`; zero has both
    signs. -/
inductive Double where
  | nan
  | infinite (negative : Bool)
  | finite (negative : Bool) (units : Nat)
  deriving DecidableEq, Repr, Inhabited

namespace Double

/-- The number of units in one. -/
def one : Nat := 2 ^ 1074

/-- The least number of units that no finite double has. -/
def bound : Nat := 2 ^ 2098

/-- The distance of neighbouring doubles around a number of units: one unit below `2 ^ 53`, and
    beyond that as much as leaves 53 significant bits. -/
def grain (units : Nat) : Nat :=
  2 ^ (units.log2 - 52)

/-- The quotient rounded to the nearest whole number, ties to even. -/
def roundQuotient (num den : Nat) : Nat :=
  let q := num / den
  let r := num % den
  if 2 * r < den then q
  else if den < 2 * r then q + 1
  else q + q % 2

/-- The number of units nearest to a quotient that 53 bits can hold, ties to even. -/
def roundUnits (num den : Nat) : Nat :=
  let g := grain (num / den)
  roundQuotient num (den * g) * g

/-- The double with these units, infinite from the bound on. -/
def ofUnits (negative : Bool) (units : Nat) : Double :=
  if units < bound then finite negative units else infinite negative

/-- The double nearest to `± num / den`. -/
def ofQuotient (negative : Bool) (num den : Nat) : Double :=
  ofUnits negative (roundUnits (num * one) den)

/-- The double nearest to a whole number. -/
def ofInt (i : Int) : Double :=
  ofQuotient (decide (i < 0)) i.natAbs 1

/-- The number is neither infinite nor undefined. -/
def isFinite : Double → Bool
  | finite .. => true
  | _ => false

/-! ### Order -/

/-- The signed number of units, which orders the finite doubles. -/
def signedUnits (negative : Bool) (units : Nat) : Int :=
  if negative then -(units : Int) else units

/-- The order of two doubles by value. Both zeros are equal, and what is undefined has no place. -/
def compare : Double → Double → Option Ordering
  | nan, _ | _, nan => none
  | infinite s, infinite t => some (Ord.compare (!s) (!t))
  | infinite s, finite .. => some (if s then .lt else .gt)
  | finite .., infinite t => some (if t then .gt else .lt)
  | finite s u, finite t v => some (Ord.compare (signedUnits s u) (signedUnits t v))

/-! ### Scaling -/

/-- The double nearest to `10 ^ k`, in units. -/
def powerOfTen (k : Nat) : Nat :=
  roundUnits (10 ^ k * one) 1

/-- The units of a product by a power of ten, rounded once. -/
def scaleUp (units k : Nat) : Nat :=
  roundUnits (units * powerOfTen k) one

/-- The units of a quotient by a power of ten, rounded once. -/
def scaleDown (units k : Nat) : Nat :=
  roundUnits (units * one) (powerOfTen k)

end Double

end RowFilter
