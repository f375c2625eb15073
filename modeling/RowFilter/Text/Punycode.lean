/-! Texts in letters, digits and hyphens. The plain characters come first; the others follow in
    ascending order, each as the distance from the one before, counted over all places in the text.
    A distance is a number with digits of varying weight, which adapt to the distances so far. -/

namespace RowFilter.Punycode

/-- A digit: a letter below 26, then a decimal digit. -/
def digit (d : Nat) : Char :=
  if d < 26 then Char.ofNat ('a'.toNat + d) else Char.ofNat ('0'.toNat + (d - 26))

/-- The least value that is not the last digit at a place of a number, for a bias. -/
def threshold (place bias : Nat) : Nat :=
  max 1 (min 26 (place - bias))

theorem threshold_pos (place bias : Nat) : 0 < threshold place bias := by
  simp only [threshold]
  omega

/-- The digits of a number from a place on. Places count in steps of the base, 36. -/
def digits (bias place n : Nat) : List Char :=
  let t := threshold place bias
  if n < t then [digit n]
  else digit (t + (n - t) % (36 - t)) :: digits bias (place + 36) ((n - t) / (36 - t))
termination_by n
decreasing_by
  have hpos := threshold_pos place bias
  exact Nat.lt_of_le_of_lt (Nat.div_le_self _ _) (by omega)

/-- Brings a distance into the range of the bias and counts the steps in places. -/
def scale (distance place : Nat) : Nat × Nat :=
  if 455 < distance then scale (distance / 35) (place + 36) else (distance, place)
termination_by distance
decreasing_by exact Nat.div_lt_self (by omega) (by omega)

/-- The bias after a distance, when so many characters are there. -/
def adapt (distance count : Nat) (isFirst : Bool) : Nat :=
  let d := if isFirst then distance / 700 else distance / 2
  let (d, place) := scale (d + d / count) 0
  place + 36 * d / (d + 38)

/-- Writes distances one after another, `count` characters being there; each one moves the bias. -/
def write (bias count : Nat) (isFirst : Bool) : List Nat → List Char
  | [] => []
  | d :: rest => digits bias 36 d ++ write (adapt d (count + 1) isFirst) (count + 1) false rest

/-- The distances of the characters with code point `n` in a text, the first one counted on from
    `distance`, and the distance that is left at the end. Characters that are there already, which
    have smaller code points, are passed in one step each. -/
def distancesOf (n distance : Nat) : List Nat → List Nat × Nat
  | [] => ([], distance)
  | c :: rest =>
    if c < n then distancesOf n (distance + 1) rest
    else if c = n then
      match distancesOf n 0 rest with
      | (ds, left) => (distance :: ds, left)
    else distancesOf n distance rest

/-- The distances of the characters with some code points in ascending order. `next` is the least
    one that may come; every one that does not come costs a step for each place in the text. -/
def distances (text : List Nat) (next count distance : Nat) : List Nat → List Nat
  | [] => []
  | n :: rest =>
    let (ds, left) := distancesOf n (distance + (n - next) * (count + 1)) text
    ds ++ distances text (n + 1) (count + ds.length) (left + 1) rest

/-- The encoded form of a text of code points. -/
def encode (text : List Nat) : List Char :=
  let plain := text.filter (· < 0x80)
  let others := ((text.filter (0x80 ≤ ·)).mergeSort (· ≤ ·)).eraseDups
  (if plain.isEmpty then [] else plain.map Char.ofNat ++ ['-']) ++
    write 72 plain.length true (distances text 0x80 plain.length 0 others)

end RowFilter.Punycode
