import RowFilter.Calendar.Moment
import RowFilter.Toml.Text

/-! Numbers, truth values, dates and times of TOML documents. -/

namespace RowFilter.Toml

/-! ### Numbers -/

/-- Further digits, an underscore standing between two of them at most. -/
def moreDigits (isDigit : Char → Bool) : List Char → List Char × List Char
  | [] => ([], [])
  | c :: rest =>
    if isDigit c then
      let (ds, more) := moreDigits isDigit rest
      (c :: ds, more)
    else match c, rest with
      | '_', d :: rest' =>
        if isDigit d then
          let (ds, more) := moreDigits isDigit rest'
          (d :: ds, more)
        else ([], c :: rest)
      | _, _ => ([], c :: rest)

/-- Digits, at least one. -/
def digits (isDigit : Char → Bool) : Reader (List Char)
  | [] => none
  | c :: rest =>
    if isDigit c then
      let (ds, more) := moreDigits isDigit rest
      some (c :: ds, more)
    else none

/-- Decimal digits without a leading zero, unless that is the only one. -/
def wholeDigits : Reader (List Char)
  | '0' :: rest => some (['0'], rest)
  | cs => digits Char.isDigit cs

/-- The number that digits of a base write. -/
def ofBase (base : Nat) (ds : List Char) : Nat :=
  ds.foldl (fun n c => base * n + (Json.hexDigit? c).getD 0) 0

/-- An integer, if 64 bits with a sign hold it. -/
def integerValue (i : Int) : Option Json :=
  if JsonNumber.isSigned i then some (.number (.integer i)) else none

/-- A natural number in digits of a base. -/
def based (base : Nat) (cs : List Char) : Option (Json × List Char) := do
  let isDigit (c : Char) : Bool := match Json.hexDigit? c with
    | some n => n < base
    | none => false
  let (ds, rest) ← digits isDigit cs
  return (← integerValue (ofBase base ds), rest)

/-- An integer: decimal with an optional sign, or with the mark of another base. -/
def integer : Reader Json
  | '0' :: 'x' :: rest => based 16 rest
  | '0' :: 'o' :: rest => based 8 rest
  | '0' :: 'b' :: rest => based 2 rest
  | cs => do
    let (negative, rest) := Decimal.sign cs
    let (ds, rest) ← wholeDigits rest
    let n : Int := Decimal.ofDigits ds
    return (← integerValue (if negative then -n else n), rest)

/-- A point and digits, if there is a point. -/
def fractionDigits : Reader (List Char)
  | '.' :: rest => (digits Char.isDigit rest).map fun (ds, more) => ('.' :: ds, more)
  | cs => some ([], cs)

/-- A mark, an optional sign and digits, if there is a mark. -/
def exponentDigits : Reader (List Char)
  | [] => some ([], [])
  | c :: rest =>
    if c == 'e' || c == 'E' then
      let (negative, rest) := Decimal.sign rest
      (digits Char.isDigit rest).map fun (ds, more) =>
        ('e' :: (if negative then '-' else '+') :: ds, more)
    else some ([], c :: rest)

/-- A number with a fraction or an exponent, unless it is too large. -/
def fractional (cs : List Char) : Option (Json × List Char) := do
  let (negative, rest) := Decimal.sign cs
  let (whole, rest) ← wholeDigits rest
  let (fraction, rest) ← fractionDigits rest
  let (exponent, rest) ← exponentDigits rest
  if fraction.isEmpty && exponent.isEmpty then none
  else
    let text := (if negative then ['-'] else []) ++ whole ++ fraction ++ exponent
    match Double.ofText? text with
    | none | some (.infinite false) => none
    | some d => some (.number (.double d), rest)

/-- The name of a number that has no digits. -/
def named (cs : List Char) : Option (Json × List Char) :=
  match Decimal.sign cs with
  | (negative, 'i' :: 'n' :: 'f' :: rest) => some (.number (.double (.infinite negative)), rest)
  | (_, 'n' :: 'a' :: 'n' :: rest) => some (.number (.double .nan), rest)
  | _ => none

/-! ### Dates and times -/

/-- Takes a date off the front. -/
def date (cs : List Char) : Option (List Char) := do
  let (year, rest) ← Moment.fixed 4 cs
  let (month, rest) ← Moment.fixed 2 (← Moment.mark '-' rest)
  let (day, rest) ← Moment.fixed 2 (← Moment.mark '-' rest)
  let _ ← Date.of? year month day
  return rest

/-- Takes a time of day off the front. -/
def time (cs : List Char) : Option (List Char) := do
  let (hour, rest) ← Moment.fixed 2 cs
  let (minute, rest) ← Moment.fixed 2 (← Moment.mark ':' rest)
  let (second, rest) ← Moment.fixed 2 (← Moment.mark ':' rest)
  let (_, rest) ← Moment.fraction? rest
  if hour < 24 && minute < 60 && second ≤ 60 then some rest else none

/-- Takes an offset from universal time off the front, if there is one. -/
def skipOffset (cs : List Char) : List Char :=
  if cs.head? == some '\u2212' then cs
  else match Moment.offset? cs with
    | some (_, rest) => rest
    | none => cs

/-- Takes a time of day behind a date off the front, if there is one. -/
def skipTime : List Char → List Char
  | [] => []
  | c :: rest =>
    if c == 'T' || c == 't' || c == ' ' then match time rest with
      | some more => skipOffset more
      | none => c :: rest
    else c :: rest

/-- A date, a time of day, or both. Its value is an object that holds its text. -/
def moment (cs : List Char) : Option (Json × List Char) :=
  let rest? := match date cs with
    | some rest => some (skipTime rest)
    | none => time cs
  rest?.map fun rest =>
    (.object [("moment", .text (String.ofList (cs.take (cs.length - rest.length))))], rest)

/-! ### Scalars -/

/-- A value that is neither an array nor a table. -/
def scalar : Reader Json
  | 't' :: 'r' :: 'u' :: 'e' :: rest => some (.bool true, rest)
  | 'f' :: 'a' :: 'l' :: 's' :: 'e' :: rest => some (.bool false, rest)
  | cs =>
    match string cs with
    | some (s, rest) => some (.text s, rest)
    | none => moment cs <|> fractional cs <|> named cs <|> integer cs

end RowFilter.Toml
