import RowFilter.Number.Decimal

/-! The shortest decimal that reads back as a given double, and of the shortest ones the nearest. -/

namespace RowFilter.Shortest

/-- What happens when two shortest decimals are equally near. -/
inductive Tie where
  | toEven
  | up
  deriving DecidableEq, Repr

/-- The ends of the interval that rounds to a number of units, in quarters of a unit, and whether
    the ends belong to it. Below a power of two the neighbours stand half as far apart. -/
def interval (units : Nat) : Nat × Nat × Bool :=
  let g := Double.grain units
  let below := if 53 ≤ units.log2 && units == 2 ^ units.log2 then g else 2 * g
  (4 * units - below, 4 * units + 2 * g, units / g % 2 == 0)

/-- The decimal exponent of the leading digit of a positive number of units. -/
def magnitude (units : Nat) : Int :=
  (Decimal.digits (units * 10 ^ 340 / Double.one)).length - 341

/-- `n · 10 ^ exponent`, in quarters of a unit, and the denominator over which it stands. -/
def quarters (n : Nat) (exponent : Int) : Nat × Nat :=
  if exponent < 0 then (n * 4 * Double.one, 10 ^ exponent.natAbs)
  else (n * 10 ^ exponent.natAbs * 4 * Double.one, 1)

/-- The decimal with this exponent nearest to the units among those that read back, if any. -/
def onGrid (tie : Tie) (units : Nat) (exponent : Int) : Option Decimal :=
  let (low, high, closed) := interval units
  let (step, den) := quarters 1 exponent
  let value := 4 * units * den
  let floor := value / step
  let fits (n : Nat) : Bool :=
    if closed then low * den ≤ n * step && n * step ≤ high * den
    else low * den < n * step && n * step < high * den
  let below := value - floor * step
  let above := (floor + 1) * step - value
  let preferLow := below < above || (below == above && tie == .toEven && floor % 2 == 0)
  match fits floor, fits (floor + 1) with
  | true, true => some ⟨false, if preferLow then floor else floor + 1, exponent⟩
  | true, false => some ⟨false, floor, exponent⟩
  | false, true => some ⟨false, floor + 1, exponent⟩
  | false, false => none

/-- Moves trailing zeros into the exponent, at most `fuel` of them. -/
def strip : Nat → Decimal → Decimal
  | 0, d => d
  | fuel + 1, d =>
    if d.significand != 0 && d.significand % 10 == 0 then
      strip fuel { d with significand := d.significand / 10, exponent := d.exponent + 1 }
    else d

/-- The shortest decimal of a number of units: the first count of digits, from one to seventeen, on
    whose grid some decimal reads back. -/
def ofUnits (tie : Tie) (units : Nat) : Decimal :=
  if units == 0 then ⟨false, 0, 0⟩
  else
    let top := magnitude units
    let found := (List.range 17).findSome? fun n : Nat => onGrid tie units (top - n)
    strip 17 (found.getD ⟨false, 0, 0⟩)

end RowFilter.Shortest
