import RowFilter.Json.Reader
import RowFilter.Text.Octets

/-! Percent coding: an octet may be written as `%` with two hexadecimal digits. -/

namespace RowFilter.Percent

/-- The hexadecimal digit of an octet. -/
def hexDigit? (b : Nat) : Option Nat :=
  Json.hexDigit? (Char.ofNat b)

/-- The octets that encoded octets stand for. A percent sign without two digits stands for
    itself. -/
def decode : List Nat → List Nat
  | [] => []
  | 0x25 :: high :: low :: rest =>
    match hexDigit? high, hexDigit? low with
    | some h, some l => (16 * h + l) :: decode rest
    | _, _ => 0x25 :: decode (high :: low :: rest)
  | b :: rest => b :: decode rest

/-- The text that an encoded one stands for, if its octets are one. -/
def decodeText? (cs : List Char) : Option (List Char) :=
  Text.ofOctets? (decode (Text.octets cs))

/-- An octet as a percent sign and two upper-case digits. -/
def encodeOctet (b : Nat) : List Char :=
  ['%', (Nat.digitChar (b / 16)).toUpper, (Nat.digitChar (b % 16)).toUpper]

/-- A text with some of its characters encoded, besides the controls and those outside ASCII. -/
def encode (reserved : List Char) (cs : List Char) : List Char :=
  cs.flatMap fun c =>
    if c.toNat < 0x20 || 0x7F ≤ c.toNat || reserved.contains c then
      (Text.charOctets c).flatMap encodeOctet
    else [c]

end RowFilter.Percent
