import RowFilter.Json.Value
import RowFilter.Number.Decimal

/-! The numbers that JSON numerals stand for. An integer numeral that 64 bits hold is an integer.
    Any other numeral is a double, made in steps: as many leading digits as 64 bits hold are turned
    into a double, and that is multiplied or divided by a power of ten, with one rounding for each
    step. -/

namespace RowFilter

/-- A JSON numeral in parts: a sign, digits, digits behind a point, and an exponent with its own
    sign. -/
structure JsonNumeral where
  negative : Bool
  whole : List Char
  fraction : List Char
  exponent : Option (Bool × List Char)
  /-- The numeral is written without point and exponent. -/
  plain : Bool
  deriving Repr, DecidableEq

namespace JsonNumeral

/-- The greatest significand. -/
def maxSignificand : Nat := 2 ^ 64 - 1

/-- The greatest exponent that is looked at; a numeral with a greater one is zero or has no value. -/
def maxExponent : Nat := 2 ^ 31 - 1

/-- Appends digits to a significand while it fits: the significand, and how many digits were taken
    and left. -/
def absorb (significand : Nat) : List Char → Nat × Nat × Nat
  | [] => (significand, 0, 0)
  | c :: rest =>
    let next := 10 * significand + (c.toNat - '0'.toNat)
    if next ≤ maxSignificand then
      let (s, taken, left) := absorb next rest
      (s, taken + 1, left)
    else (significand, 0, rest.length + 1)

/-- Units times a power of ten, in steps of at most `10 ^ 308`; none if they get too large. -/
def scaled (units : Nat) (exponent : Int) : Option Nat :=
  if exponent.natAbs ≤ 308 then
    if 0 ≤ exponent then
      let u := Double.scaleUp units exponent.natAbs
      if u < Double.bound then some u else none
    else some (Double.scaleDown units exponent.natAbs)
  else if units = 0 then some 0
  else if 0 ≤ exponent then none
  else scaled (Double.scaleDown units 308) (exponent + 308)
termination_by exponent.natAbs
decreasing_by omega

/-- The exponent that the numeral adds to that of its digits, if it is not too large. -/
def writtenExponent (n : JsonNumeral) : Option Int :=
  match n.exponent with
  | none => some 0
  | some (negative, ds) =>
    let e := Decimal.ofDigits ds
    if e ≤ maxExponent then some (if negative then -(e : Int) else e) else none

/-- The units of the double that the numeral stands for. -/
def units (n : JsonNumeral) : Option Nat :=
  let (s, _, left) := absorb 0 n.whole
  let (s, taken, _) := absorb s n.fraction
  match n.writtenExponent with
  | some e => scaled (Double.roundUnits (s * Double.one) 1) ((left : Int) - taken + e)
  | none =>
    let grows := match n.exponent with
      | some (negative, _) => !negative
      | none => false
    if s != 0 && grows then none else some 0

/-- The number that a numeral stands for. Minus zero is a double. -/
def number (n : JsonNumeral) : Option JsonNumber :=
  let i : Int := Decimal.ofDigits n.whole
  if n.plain && !n.negative && i ≤ JsonNumber.maxUnsigned then some (.integer i)
  else if n.plain && n.negative && i ≠ 0 && JsonNumber.minSigned ≤ -i then some (.integer (-i))
  else n.units.map fun u => .double (.finite n.negative u)

end JsonNumeral

end RowFilter
