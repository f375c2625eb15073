import RowFilter.Json.Numeral

/-! Reading JSON texts. A reader takes a front part off a text and gives what follows; arrays and
    objects may stand 127 deep inside one another, and a string may not hold half a surrogate pair. -/

namespace RowFilter

/-- Takes a front part off a text: its meaning and the rest. -/
abbrev Reader (α : Type) := List Char → Option (α × List Char)

namespace Json

/-- The blanks between the tokens of a JSON text. -/
def isSpace (c : Char) : Bool :=
  c == ' ' || c == '\n' || c == '\t' || c == '\r'

/-- The text without leading blanks. -/
def skip (cs : List Char) : List Char :=
  cs.dropWhile isSpace

/-! ### Strings -/

/-- Splits a text behind an opening quote at the closing one: what stands between, as written, and
    the rest. Control characters end the attempt. -/
def stringBody : Reader (List Char)
  | [] => none
  | '"' :: rest => some ([], rest)
  | '\\' :: c :: rest => (stringBody rest).map fun (body, more) => ('\\' :: c :: body, more)
  | c :: rest =>
    if c.toNat < 0x20 then none
    else (stringBody rest).map fun (body, more) => (c :: body, more)

/-- The value of a hexadecimal digit. -/
def hexDigit? (c : Char) : Option Nat :=
  if '0' ≤ c && c ≤ '9' then some (c.toNat - '0'.toNat)
  else if 'a' ≤ c && c ≤ 'f' then some (c.toNat - 'a'.toNat + 10)
  else if 'A' ≤ c && c ≤ 'F' then some (c.toNat - 'A'.toNat + 10)
  else none

/-- The value of four hexadecimal digits. -/
def hex4? (a b c d : Char) : Option Nat := do
  return (((← hexDigit? a) * 16 + (← hexDigit? b)) * 16 + (← hexDigit? c)) * 16 + (← hexDigit? d)

/-- The character that a backslash and a letter stand for. -/
def shortEscape? (c : Char) : Option Char :=
  if c == '"' || c == '\\' || c == '/' then some c
  else if c == 'n' then some '\n'
  else if c == 'r' then some '\r'
  else if c == 't' then some '\t'
  else if c == 'b' then some '\x08'
  else if c == 'f' then some '\x0c'
  else none

/-- A part of a string: a character, or a number that an escape gives. -/
inductive StringPart where
  | char (c : Char)
  | code (n : Nat)
  deriving DecidableEq, Repr

/-- The parts of the written form of a string. -/
def stringParts : List Char → Option (List StringPart)
  | [] => some []
  | '\\' :: 'u' :: a :: b :: c :: d :: rest => do
    return .code (← hex4? a b c d) :: (← stringParts rest)
  | '\\' :: c :: rest => do
    return .char (← shortEscape? c) :: (← stringParts rest)
  | c :: rest => do
    return .char c :: (← stringParts rest)

/-- The number is the first half of a surrogate pair. -/
def isHighSurrogate (n : Nat) : Bool :=
  0xD800 ≤ n && n < 0xDC00

/-- The number is the second half of a surrogate pair. -/
def isLowSurrogate (n : Nat) : Bool :=
  0xDC00 ≤ n && n < 0xE000

/-- The characters that the parts of a string make; a surrogate pair makes one. -/
def joinParts : List StringPart → Option (List Char)
  | [] => some []
  | .char c :: rest => (joinParts rest).map (c :: ·)
  | .code h :: .code l :: rest =>
    if isHighSurrogate h then
      if isLowSurrogate l then
        (joinParts rest).map (Char.ofNat (0x10000 + (h - 0xD800) * 0x400 + (l - 0xDC00)) :: ·)
      else none
    else if isLowSurrogate h then none
    else (joinParts (.code l :: rest)).map (Char.ofNat h :: ·)
  | .code n :: rest =>
    if isHighSurrogate n || isLowSurrogate n then none
    else (joinParts rest).map (Char.ofNat n :: ·)

/-- A string, its opening quote taken off before. -/
def stringTail : Reader String := fun cs => do
  let (body, rest) ← stringBody cs
  let chars ← joinParts (← stringParts body)
  return (String.ofList chars, rest)

/-! ### Numbers -/

/-- A point and digits, if there is a point. -/
def fractionPart : Reader (Option (List Char))
  | '.' :: rest =>
    let ds := rest.takeWhile Char.isDigit
    if ds.isEmpty then none else some (some ds, rest.dropWhile Char.isDigit)
  | cs => some (none, cs)

/-- An exponent with its sign, if there is one. -/
def exponentPart : Reader (Option (Bool × List Char))
  | [] => some (none, [])
  | c :: rest =>
    if c == 'e' || c == 'E' then
      let (negative, more) := Decimal.sign rest
      let ds := more.takeWhile Char.isDigit
      if ds.isEmpty then none else some (some (negative, ds), more.dropWhile Char.isDigit)
    else some (none, c :: rest)

/-- A numeral. Its digits do not begin with a zero, unless that is the only one. -/
def numeral : Reader JsonNumeral := fun cs => do
  let (negative, rest) := match cs with
    | '-' :: rest => (true, rest)
    | _ => (false, cs)
  let whole := rest.takeWhile Char.isDigit
  if whole.isEmpty || (whole.head? == some '0' && whole.length != 1) then none
  else
    let (fraction, rest) ← fractionPart (rest.dropWhile Char.isDigit)
    let (exponent, rest) ← exponentPart rest
    let plain := fraction.isNone && exponent.isNone
    return (⟨negative, whole, fraction.getD [], exponent, plain⟩, rest)

/-- A number. -/
def numberText? : Reader JsonNumber := fun cs => do
  let (n, rest) ← numeral cs
  return (← n.number, rest)

/-! ### Documents -/

/-- A document that is neither an array nor an object. -/
def scalar : Reader Json
  | 'n' :: 'u' :: 'l' :: 'l' :: rest => some (.null, rest)
  | 't' :: 'r' :: 'u' :: 'e' :: rest => some (.bool true, rest)
  | 'f' :: 'a' :: 'l' :: 's' :: 'e' :: rest => some (.bool false, rest)
  | '"' :: rest => (stringTail rest).map fun (s, more) => (.text s, more)
  | cs => (numberText? cs).map fun (n, more) => (.number n, more)

/-- Items with commas between them up to a closing mark, at least one. -/
def separated {α : Type} (item : Reader α) (close : Char) (cs : List Char) :
    Option (List α × List Char) :=
  match item cs with
  | none => none
  | some (a, rest) =>
    match skip rest with
    | [] => none
    | c :: more =>
      if c == close then some ([a], more)
      else if c == ',' && more.length < cs.length then
        (separated item close more).map fun (l, r) => (a :: l, r)
      else none
termination_by cs.length
decreasing_by simp_all

/-- Items with commas between them up to a closing mark, or the closing mark alone. -/
def listed {α : Type} (item : Reader α) (close : Char) : Reader (List α) := fun cs =>
  match skip cs with
  | [] => none
  | c :: rest => if c == close then some ([], rest) else separated item close (c :: rest)

/-- A name, a colon and a value. -/
def member (value : Reader Json) : Reader (String × Json) := fun cs =>
  match skip cs with
  | '"' :: rest => do
    let (name, rest) ← stringTail rest
    match skip rest with
    | ':' :: rest => do
      let (j, rest) ← value rest
      return ((name, j), rest)
    | _ => none
  | _ => none

/-- A document in which arrays and objects stand at most `depth` deep inside one another. -/
def value : Nat → Reader Json
  | 0 => fun cs => scalar (skip cs)
  | depth + 1 => fun cs =>
    match skip cs with
    | '[' :: rest => (listed (value depth) ']' rest).map fun (l, more) => (.array l, more)
    | '\x7b' :: rest =>
      (listed (member (value depth)) '\x7d' rest).map fun (l, more) => (.object l, more)
    | cs => scalar cs

/-! ### Passing over -/

/-- Takes a scalar off the front by its form alone: a numeral may be too large for a number, and a
    string may hold half a surrogate pair. -/
def passScalar : Reader Unit
  | 'n' :: 'u' :: 'l' :: 'l' :: rest => some ((), rest)
  | 't' :: 'r' :: 'u' :: 'e' :: rest => some ((), rest)
  | 'f' :: 'a' :: 'l' :: 's' :: 'e' :: rest => some ((), rest)
  | '"' :: rest => do
    let (body, more) ← stringBody rest
    let _ ← stringParts body
    return ((), more)
  | cs => (numeral cs).map fun (_, more) => ((), more)

/-- Takes a name, a colon and a value off the front. -/
def passMember (value : Reader Unit) : Reader Unit := fun cs => do
  let '"' :: rest := skip cs | none
  let (body, rest) ← stringBody rest
  let _ ← stringParts body
  let ':' :: rest := skip rest | none
  value rest

/-- Takes a document off the front by its form alone, arrays and objects at most `depth` deep inside
    one another. -/
def pass : Nat → Reader Unit
  | 0 => fun cs => passScalar (skip cs)
  | depth + 1 => fun cs =>
    match skip cs with
    | '[' :: rest => (listed (pass depth) ']' rest).map fun (_, more) => ((), more)
    | '\x7b' :: rest => (listed (passMember (pass depth)) '\x7d' rest).map fun (_, more) => ((), more)
    | cs => passScalar cs

/-! ### Whole texts -/

/-- The greatest depth of a document that is read. -/
def maxDepth : Nat := 127

/-- What a reader makes of a whole text. -/
def whole {α : Type} (reader : Reader α) (cs : List Char) : Option α :=
  match reader cs with
  | some (a, rest) => if (skip rest).isEmpty then some a else none
  | none => none

/-- The document that a whole text writes. -/
def readChars (cs : List Char) : Option Json :=
  whole (value maxDepth) cs

/-- The document that a whole text writes, members in the order of the text. -/
def read (s : String) : Option Json :=
  readChars s.toList

/-- The value that a whole text writes. -/
def parse (s : String) : Option Json :=
  (read s).map canonical

end Json

end RowFilter
