import RowFilter.Text.Percent
import RowFilter.Text.Split

/-! Paths of web addresses: segments with slashes before them. Reading resolves the segments that
    stand for the place itself and for the one above. -/

namespace RowFilter.Url.Path

/-- The characters that a path writes encoded. -/
def reserved : List Char :=
  [' ', '"', '#', '<', '>', '?', '\x60', '\x7b', '\x7d']

/-- The text with its encoded dots as dots. -/
def plainDots : List Char → List Char
  | '%' :: '2' :: 'e' :: rest | '%' :: '2' :: 'E' :: rest => '.' :: plainDots rest
  | c :: rest => c :: plainDots rest
  | [] => []

/-- The segment stands for the place itself. -/
def isHere (segment : List Char) : Bool :=
  plainDots segment == ['.']

/-- The segment stands for the place above. -/
def isAbove (segment : List Char) : Bool :=
  plainDots segment == ['.', '.']

/-- The segment names a drive: a letter and a colon or bar. -/
def isDrive : List Char → Bool
  | [letter, mark] => letter.isAlpha && (mark == ':' || mark == '|')
  | _ => false

/-- The place above another one, which is given by its segments, the last one first. Nothing is
    above the root or a drive. -/
def above : List (List Char) → List (List Char)
  | [] => []
  | segment :: rest => if isDrive segment then segment :: rest else rest

/-- The segments of the place that some segments lead to from another one. At the end a segment
    that stands for a place leaves an empty one. -/
def resolve (place : List (List Char)) : List (List Char) → List (List Char)
  | [] => place.reverse
  | segment :: rest =>
    if isHere segment || isAbove segment then
      let place := if isAbove segment then above place else place
      resolve (if rest.isEmpty then [] :: place else place) rest
    else resolve (segment :: place) rest

/-- The text of a path. -/
def text (segments : List (List Char)) : String :=
  String.ofList (segments.flatMap ('/' :: ·))

/-- The segments of the path that a text writes with a slash before each, the first one maybe
    without. -/
def ofText (cs : List Char) : List (List Char) :=
  let cs := match cs with
    | '/' :: rest => rest
    | all => all
  resolve [] (Text.split '/' (Percent.encode reserved cs))

end RowFilter.Url.Path
