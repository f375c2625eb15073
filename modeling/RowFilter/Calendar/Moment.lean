import RowFilter.Calendar.Date

/-! Moments in universal time, to the nanosecond. A leap second is kept as the second before it with
    a billion nanoseconds more. -/

namespace RowFilter

/-- A moment: a date, the second of its day, and nanoseconds within the second. -/
structure Moment where
  date : Date
  second : Nat
  nanos : Nat
  deriving DecidableEq, Repr, Inhabited

namespace Moment

def secondsPerDay : Nat := 86400
def nanosPerSecond : Nat := 1000000000

/-- The moment exists: its date does, and its time of day is in range. -/
def isValid (m : Moment) : Bool :=
  m.date.isValid && m.second < secondsPerDay && m.nanos < 2 * nanosPerSecond

/-- Moments are ordered by date, then second, then nanosecond. -/
def compare (a b : Moment) : Ordering :=
  (a.date.compare b.date).then
    ((Ord.compare a.second b.second).then (Ord.compare a.nanos b.nanos))

/-- The moment in universal time of a local time, `offset` seconds ahead of it by less than a day. -/
def ofLocal (date : Date) (second : Nat) (nanos : Nat) (offset : Int) : Moment :=
  let s : Int := second - offset
  if s < 0 then ⟨date.previous, (s + secondsPerDay).toNat, nanos⟩
  else if s < secondsPerDay then ⟨date, s.toNat, nanos⟩
  else ⟨date.next, (s - secondsPerDay).toNat, nanos⟩

/-! ### Text -/

/-- The fraction of a second in as few groups of three digits as hold it, none if it is zero. -/
def fractionText (nanos : Nat) : List Char :=
  if nanos == 0 then []
  else if nanos % 1000000 == 0 then '.' :: Decimal.padded 3 (nanos / 1000000)
  else if nanos % 1000 == 0 then '.' :: Decimal.padded 6 (nanos / 1000)
  else '.' :: Decimal.padded 9 nanos

/-- Date and time of day with a `T` between them, in universal time. -/
def chars (m : Moment) : List Char :=
  let leap := if nanosPerSecond ≤ m.nanos then 1 else 0
  m.date.chars ++ 'T' :: Decimal.padded 2 (m.second / 3600) ++
    ':' :: Decimal.padded 2 (m.second / 60 % 60) ++
    ':' :: Decimal.padded 2 (m.second % 60 + leap) ++
    fractionText (m.nanos - leap * nanosPerSecond) ++ "+00:00".toList

/-- The text of a moment. -/
def text (m : Moment) : String :=
  String.ofList m.chars

/-- Takes exactly `count` digits off the front. -/
def fixed (count : Nat) (cs : List Char) : Option (Nat × List Char) :=
  let ds := cs.take count
  if ds.length == count && ds.all Char.isDigit then some (Decimal.ofDigits ds, cs.drop count)
  else none

/-- Takes one character off the front. -/
def mark (c : Char) : List Char → Option (List Char)
  | d :: rest => if d == c then some rest else none
  | [] => none

/-- Takes a fraction of a second off the front, in nanoseconds, if there is one. Digits behind the
    ninth are skipped. -/
def fraction? (cs : List Char) : Option (Nat × List Char) :=
  match cs with
  | '.' :: rest =>
    let ds := rest.takeWhile Char.isDigit
    let kept := ds.take 9
    if ds.isEmpty then none
    else some (Decimal.ofDigits kept * 10 ^ (9 - kept.length), rest.drop ds.length)
  | _ => some (0, cs)

/-- Takes an offset off the front, in seconds: `Z`, or a sign, hours and minutes. -/
def offset? (cs : List Char) : Option (Int × List Char) :=
  match cs with
  | [] => none
  | c :: rest =>
    if c == 'Z' || c == 'z' then some (0, rest)
    else if c == '+' || c == '-' || c == '\u2212' then do
      let (hours, rest) ← fixed 2 rest
      let rest ← mark ':' rest
      let (minutes, rest) ← fixed 2 rest
      if minutes < 60 && hours < 24 then
        let seconds : Int := hours * 3600 + minutes * 60
        return (if c == '+' then seconds else -seconds, rest)
      else none
    else none

/-- The moment that a text writes: a date of four, two and two digits, `T` or a blank, a time of day
    with seconds, and an offset. Second sixty is a leap second. -/
def ofChars? (cs : List Char) : Option Moment := do
  let (year, rest) ← fixed 4 cs
  let (month, rest) ← fixed 2 (← mark '-' rest)
  let (day, rest) ← fixed 2 (← mark '-' rest)
  let c :: rest := rest | none
  if c == 'T' || c == 't' || c == ' ' then
    let (hour, rest) ← fixed 2 rest
    let (minute, rest) ← fixed 2 (← mark ':' rest)
    let (second, rest) ← fixed 2 (← mark ':' rest)
    let (nanos, rest) ← fraction? rest
    let (offset, rest) ← offset? rest
    let date ← Date.of? year month day
    if rest.isEmpty && hour < 24 && minute < 60 && second ≤ 60 then
      let leap := if second == 60 then 1 else 0
      return ofLocal date (hour * 3600 + minute * 60 + second - leap)
        (nanos + leap * nanosPerSecond) offset
    else none
  else none

end Moment

end RowFilter
