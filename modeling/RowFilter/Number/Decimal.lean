import RowFilter.Number.Double

/-! Decimal numerals: natural numbers and integers in digits, and numbers with a point and an
    exponent, read as the nearest double. -/

namespace RowFilter

namespace Decimal

/-- The number that a row of digits writes. -/
def ofDigits (cs : List Char) : Nat :=
  cs.foldl (fun n c => 10 * n + (c.toNat - '0'.toNat)) 0

/-- The digits of a natural number, without leading zeros. -/
def digits (n : Nat) : List Char :=
  Nat.toDigits 10 n

/-- The digits of a natural number, filled up with zeros in front to a width. -/
def padded (width n : Nat) : List Char :=
  let ds := digits n
  List.replicate (width - ds.length) '0' ++ ds

/-- Digits and nothing else, at least one. -/
def nat? (cs : List Char) : Option Nat :=
  if !cs.isEmpty && cs.all Char.isDigit then some (ofDigits cs) else none

/-- Takes one sign off the front: whether the number is negative, and the rest. -/
def sign : List Char → Bool × List Char
  | '+' :: rest => (false, rest)
  | '-' :: rest => (true, rest)
  | cs => (false, cs)

/-- An integer with an optional sign. -/
def int? (cs : List Char) : Option Int :=
  let (negative, rest) := sign cs
  (nat? rest).map fun n => if negative then -(n : Int) else n

/-- The decimal text of an integer. -/
def intText (i : Int) : List Char :=
  if i < 0 then '-' :: digits i.natAbs else digits i.natAbs

end Decimal

/-- A decimal number `± significand · 10 ^ exponent`. -/
structure Decimal where
  negative : Bool
  significand : Nat
  exponent : Int
  deriving DecidableEq, Repr

namespace Decimal

/-- The double nearest to a decimal number. Far outside the range of doubles the answer needs no
    power of ten. -/
def toDouble (d : Decimal) : Double :=
  let magnitude := d.exponent + (Decimal.digits d.significand).length
  if d.significand == 0 || magnitude < -330 then .finite d.negative 0
  else if magnitude > 320 then .infinite d.negative
  else if d.exponent < 0 then .ofQuotient d.negative d.significand (10 ^ d.exponent.natAbs)
  else .ofQuotient d.negative (d.significand * 10 ^ d.exponent.natAbs) 1

/-- The exponent part of a numeral: nothing, or `e` with an optional sign and digits. -/
def exponent? : List Char → Option Int
  | [] => some 0
  | c :: rest => if c == 'e' || c == 'E' then int? rest else none

/-- An unsigned numeral: digits with an optional point anywhere, at least one digit, and an optional
    exponent. -/
def unsigned? (negative : Bool) (cs : List Char) : Option Decimal :=
  let whole := cs.takeWhile Char.isDigit
  let rest := cs.dropWhile Char.isDigit
  let (fraction, rest) := match rest with
    | '.' :: more => (more.takeWhile Char.isDigit, more.dropWhile Char.isDigit)
    | _ => ([], rest)
  if whole.isEmpty && fraction.isEmpty then none
  else (exponent? rest).map fun e =>
    ⟨negative, ofDigits (whole ++ fraction), e - fraction.length⟩

end Decimal

/-- The double that a text writes: an optional sign, then a numeral or, in any case of letters, a
    name of infinity or of the undefined number. -/
def Double.ofText? (cs : List Char) : Option Double :=
  let (negative, rest) := Decimal.sign cs
  let word := String.ofList (rest.map Char.toLower)
  if word == "inf" || word == "infinity" then some (.infinite negative)
  else if word == "nan" then some .nan
  else (Decimal.unsigned? negative rest).map Decimal.toDouble

end RowFilter
