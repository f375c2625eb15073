import RowFilter.Number.Decimal
import RowFilter.Text.Blank

/-! Dates of the proleptic Gregorian calendar, in years from -262143 to 262142. -/

namespace RowFilter

/-- A date by year, month and day, each counted as it is written. -/
structure Date where
  year : Int
  month : Nat
  day : Nat
  deriving DecidableEq, Repr, Inhabited

namespace Date

/-- Every fourth year is a leap year, but of the full centuries only every fourth. -/
def isLeap (year : Int) : Bool :=
  year % 4 == 0 && (year % 100 != 0 || year % 400 == 0)

/-- The number of days of a month. -/
def monthLength (year : Int) (month : Nat) : Nat :=
  if month == 2 then if isLeap year then 29 else 28
  else if month == 4 || month == 6 || month == 9 || month == 11 then 30
  else 31

def minYear : Int := -262143
def maxYear : Int := 262142

/-- The date exists, and its year is in range. -/
def isValid (d : Date) : Bool :=
  minYear ≤ d.year && d.year ≤ maxYear && 1 ≤ d.month && d.month ≤ 12 &&
    1 ≤ d.day && d.day ≤ monthLength d.year d.month

/-- The date with these numbers, if it exists. -/
def of? (year : Int) (month day : Nat) : Option Date :=
  let d : Date := ⟨year, month, day⟩
  if d.isValid then some d else none

/-- The day after. -/
def next (d : Date) : Date :=
  if d.day < monthLength d.year d.month then { d with day := d.day + 1 }
  else if d.month < 12 then ⟨d.year, d.month + 1, 1⟩
  else ⟨d.year + 1, 1, 1⟩

/-- The day before. -/
def previous (d : Date) : Date :=
  if 1 < d.day then { d with day := d.day - 1 }
  else if 1 < d.month then ⟨d.year, d.month - 1, monthLength d.year (d.month - 1)⟩
  else ⟨d.year - 1, 12, 31⟩

/-- Dates are ordered by year, then month, then day. -/
def compare (a b : Date) : Ordering :=
  (Ord.compare a.year b.year).then ((Ord.compare a.month b.month).then (Ord.compare a.day b.day))

/-! ### Text -/

/-- A year in four digits; outside of 0 to 9999 it has a sign. -/
def yearText (year : Int) : List Char :=
  if 0 ≤ year && year ≤ 9999 then Decimal.padded 4 year.natAbs
  else (if year < 0 then '-' else '+') :: Decimal.padded 4 year.natAbs

/-- Year, month and day with hyphens between them. -/
def chars (d : Date) : List Char :=
  yearText d.year ++ '-' :: Decimal.padded 2 d.month ++ '-' :: Decimal.padded 2 d.day

/-- The text of a date. -/
def text (d : Date) : String :=
  String.ofList d.chars

/-- Takes between one and `most` digits off the front. -/
def number (most : Nat) (cs : List Char) : Option (Nat × List Char) :=
  let ds := (cs.take most).takeWhile Char.isDigit
  if ds.isEmpty then none else some (Decimal.ofDigits ds, cs.drop ds.length)

/-- Takes a year off the front: at most four digits, or a sign and any number of them. -/
def year? (cs : List Char) : Option (Int × List Char) :=
  match cs with
  | '-' :: rest => (number rest.length rest).map fun (n, more) => (-(n : Int), more)
  | '+' :: rest => (number rest.length rest).map fun (n, more) => ((n : Int), more)
  | _ => (number 4 cs).map fun (n, more) => ((n : Int), more)

/-- The date that a text writes: year, month and day with hyphens between them. Blanks may stand
    before each number, and month and day have one digit or two. -/
def ofChars? (cs : List Char) : Option Date := do
  let (year, rest) ← year? (Text.trimStart cs)
  let '-' :: rest := rest | none
  let (month, rest) ← number 2 (Text.trimStart rest)
  let '-' :: rest := rest | none
  let (day, rest) ← number 2 (Text.trimStart rest)
  if rest.isEmpty then of? year month day else none

end Date

end RowFilter
