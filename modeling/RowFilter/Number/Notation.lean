import RowFilter.Number.Shortest

/-! How doubles are written: one record of decisions per notation over the same shortest digits. -/

namespace RowFilter

/-- The decisions of a notation: which decimal exponents of the leading digit are written with a
    point and no exponent, whether a whole number keeps a point and a zero, and which way a tie
    between shortest decimals goes. -/
structure DoubleNotation where
  positional : Int → Bool
  wholePoint : Bool
  tie : Shortest.Tie

namespace DoubleNotation

/-- The exponent of a number: a mark, a sign that is always written, and digits. -/
def exponentText (e : Int) : List Char :=
  'e' :: (if e < 0 then '-' else '+') :: Decimal.digits e.natAbs

/-- Digits with a point behind the first `whole` of them. -/
def pointed (whole : Nat) (ds : List Char) : List Char :=
  if ds.length ≤ whole then ds else ds.take whole ++ '.' :: ds.drop whole

/-- Digits whose first one counts `10 ^ top`, written with a point. -/
def positionalText (f : DoubleNotation) (top : Int) (ds : List Char) : List Char :=
  if top < 0 then '0' :: '.' :: List.replicate (top.natAbs - 1) '0' ++ ds
  else
    let filled := ds ++ List.replicate (top.toNat + 1 - ds.length) '0'
    if filled.length ≤ top.toNat + 1 then filled ++ (if f.wholePoint then ['.', '0'] else [])
    else pointed (top.toNat + 1) filled

/-- The text of a finite double without its sign. -/
def unsigned (f : DoubleNotation) (units : Nat) : List Char :=
  let d := Shortest.ofUnits f.tie units
  let ds := Decimal.digits d.significand
  let top := d.exponent + ds.length - 1
  if f.positional top then f.positionalText top ds else pointed 1 ds ++ exponentText top

/-- The text of a double. -/
def text (f : DoubleNotation) : Double → List Char
  | .nan => "NaN".toList
  | .infinite negative => (if negative then ['-'] else []) ++ "inf".toList
  | .finite negative units => (if negative then ['-'] else []) ++ f.unsigned units

/-- The plain notation never has an exponent and drops the point of a whole number. -/
def plain : DoubleNotation := ⟨fun _ => true, false, .up⟩

/-- The notation of JSON texts has an exponent below `10 ^ -5` and from `10 ^ 16` on, and keeps the
    point of a whole number. -/
def json : DoubleNotation := ⟨fun e => -5 ≤ e && e < 16, true, .toEven⟩

end DoubleNotation

end RowFilter
