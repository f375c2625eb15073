import RowFilter.Text.CaseTable

/-! Lower case by the full Unicode mapping: one character may become two, and a capital sigma takes
    its final form at the end of a word. -/

namespace RowFilter.Text

/-- The run holds the code point `n`. -/
def CodeRun.covers (r : CodeRun) (n : Nat) : Bool :=
  r.first ≤ n && n ≤ r.last && (n - r.first) % r.step == 0

/-- Some range of the list holds the character. -/
def inRanges (ranges : List (Nat × Nat)) (c : Char) : Bool :=
  ranges.any fun r => r.1 ≤ c.toNat && c.toNat ≤ r.2

/-- The lower-case form of a character on its own. -/
def lowercaseChar (c : Char) : List Char :=
  let n := c.toNat
  if n < 0x80 then [c.toLower]
  else if n == 0x130 then ['i', '\u0307']
  else match lowercaseRuns.find? (·.covers n) with
    | some r => [Char.ofNat (n + r.shift).toNat]
    | none => [c]

/-- Past the characters that case rules ignore comes a cased one. -/
def meetsCased (cs : List Char) : Bool :=
  match cs.dropWhile (inRanges caseIgnorableRanges) with
  | c :: _ => inRanges casedRanges c
  | [] => false

/-- The lower-case form of a text, `before` being what precedes it, last character first. A capital
    sigma is final when a cased character stands before it and none after it. -/
def lowercaseAfter (before : List Char) : List Char → List Char
  | [] => []
  | c :: rest =>
    let lower :=
      if c == '\u03A3' then [if meetsCased before && !meetsCased rest then '\u03C2' else '\u03C3']
      else lowercaseChar c
    lower ++ lowercaseAfter (c :: before) rest

/-- The lower-case form of a text. -/
def lowercase (cs : List Char) : List Char :=
  lowercaseAfter [] cs

end RowFilter.Text
