/-! Texts as octets in UTF-8. `octets` writes a text; `ofOctets` reads any octets, and puts one
    replacement character for each longest part that begins a character and cannot go on. -/

namespace RowFilter.Text

/-- The UTF-8 octets of a character. -/
def charOctets (c : Char) : List Nat :=
  let n := c.toNat
  if n < 0x80 then [n]
  else if n < 0x800 then [0xC0 + n / 0x40, 0x80 + n % 0x40]
  else if n < 0x10000 then [0xE0 + n / 0x1000, 0x80 + n / 0x40 % 0x40, 0x80 + n % 0x40]
  else [0xF0 + n / 0x40000, 0x80 + n / 0x1000 % 0x40, 0x80 + n / 0x40 % 0x40, 0x80 + n % 0x40]

/-- The UTF-8 octets of a text. -/
def octets (cs : List Char) : List Nat :=
  cs.flatMap charOctets

/-- The character that stands for octets that are no text. -/
def replacement : Char := '\uFFFD'

/-- A character in the making: the tail octets still owed after the next one, the least and the
    greatest octet the next one may be, and the bits so far. -/
structure Pending where
  owed : Nat
  low : Nat
  high : Nat
  bits : Nat
  deriving DecidableEq, Repr

/-- What an octet does between characters: the characters it completes and what it begins. -/
def firstOctet (b : Nat) : List Char × Option Pending :=
  if b < 0x80 then ([Char.ofNat b], none)
  else if b < 0xC2 then ([replacement], none)
  else if b < 0xE0 then ([], some ⟨0, 0x80, 0xBF, b - 0xC0⟩)
  else if b == 0xE0 then ([], some ⟨1, 0xA0, 0xBF, 0⟩)
  else if b == 0xED then ([], some ⟨1, 0x80, 0x9F, 0xD⟩)
  else if b < 0xF0 then ([], some ⟨1, 0x80, 0xBF, b - 0xE0⟩)
  else if b == 0xF0 then ([], some ⟨2, 0x90, 0xBF, 0⟩)
  else if b < 0xF4 then ([], some ⟨2, 0x80, 0xBF, b - 0xF0⟩)
  else if b == 0xF4 then ([], some ⟨2, 0x80, 0x8F, 4⟩)
  else ([replacement], none)

/-- What an octet does at any point. One that cannot go on with the pending character ends it as a
    replacement and is read afresh. -/
def octetStep (state : Option Pending) (b : Nat) : List Char × Option Pending :=
  match state with
  | none => firstOctet b
  | some p =>
    if p.low ≤ b && b ≤ p.high then
      let bits := p.bits * 0x40 + (b - 0x80)
      match p.owed with
      | 0 => ([Char.ofNat bits], none)
      | owed + 1 => ([], some ⟨owed, 0x80, 0xBF, bits⟩)
    else
      let (out, next) := firstOctet b
      (replacement :: out, next)

/-- Reads octets from a point on. -/
def ofOctetsFrom (state : Option Pending) : List Nat → List Char
  | [] => if state.isSome then [replacement] else []
  | b :: rest =>
    let (out, next) := octetStep state b
    out ++ ofOctetsFrom next rest

/-- The text that octets stand for. -/
def ofOctets (bs : List Nat) : List Char :=
  ofOctetsFrom none bs

/-- The text whose octets these are, if there is one. -/
def ofOctets? (bs : List Nat) : Option (List Char) :=
  let cs := ofOctets bs
  if octets cs = bs then some cs else none

end RowFilter.Text
