import RowFilter.Text.Blank
import RowFilter.Text.Lowercase

/-! The operators of filter conditions and the connectives of groups, with the spellings in which
    they are accepted and the one in which they are written. -/

namespace RowFilter

/-- How two values are compared. -/
inductive Comparison where
  | eq
  | ne
  | gt
  | gte
  | lt
  | lte
  deriving DecidableEq, Repr, Inhabited

/-- Where a text is looked for in another one. -/
inductive Anchor where
  | anywhere
  | front
  | back
  deriving DecidableEq, Repr, Inhabited

/-- The operator of a condition. `member` and `null` come with their negation. -/
inductive Operator where
  | compare (c : Comparison)
  | pattern (a : Anchor)
  | member (positive : Bool)
  | between
  | null (positive : Bool)
  deriving DecidableEq, Repr, Inhabited

/-- How many values an operator takes. -/
inductive Arity where
  | exactly (n : Nat)
  | atLeastOne
  deriving DecidableEq, Repr

namespace Arity

/-- The count fits. -/
def accepts : Arity → Nat → Bool
  | exactly n, count => count == n
  | atLeastOne, count => 1 ≤ count

/-- The arity in words. -/
def text : Arity → String
  | exactly n => "exactly " ++ toString n
  | atLeastOne => "at least 1"

end Arity

namespace Comparison

/-- The name of a comparison. -/
def name : Comparison → String
  | eq => "eq"
  | ne => "ne"
  | gt => "gt"
  | gte => "gte"
  | lt => "lt"
  | lte => "lte"

/-- The comparison is one of order. -/
def isRange : Comparison → Bool
  | eq | ne => false
  | _ => true

/-- The comparison holds of two values in this order. -/
def holds : Comparison → Ordering → Bool
  | eq, o => o == .eq
  | ne, o => o != .eq
  | gt, o => o == .gt
  | gte, o => o != .lt
  | lt, o => o == .lt
  | lte, o => o != .gt

end Comparison

namespace Operator

/-- The name of an operator, as filters write it. -/
def name : Operator → String
  | compare c => c.name
  | pattern .anywhere => "like"
  | pattern .front => "begins_with"
  | pattern .back => "ends_with"
  | member true => "in"
  | member false => "not_in"
  | between => "between"
  | null true => "is_null"
  | null false => "is_not_null"

/-- Every accepted spelling of an operator. -/
def spellings : List (String × Operator) :=
  [("eq", compare .eq), ("equals", compare .eq), ("=", compare .eq),
   ("ne", compare .ne), ("neq", compare .ne), ("not_eq", compare .ne), ("!=", compare .ne),
   ("gt", compare .gt), (">", compare .gt),
   ("gte", compare .gte), ("ge", compare .gte), (">=", compare .gte),
   ("lt", compare .lt), ("<", compare .lt),
   ("lte", compare .lte), ("le", compare .lte), ("<=", compare .lte),
   ("like", pattern .anywhere), ("contains", pattern .anywhere),
   ("begins_with", pattern .front), ("starts_with", pattern .front),
   ("ends_with", pattern .back),
   ("in", member true),
   ("not_in", member false), ("nin", member false),
   ("between", between),
   ("is_null", null true), ("null", null true), ("empty", null true),
   ("is_not_null", null false), ("not_null", null false), ("not_empty", null false)]

/-- The operator that a text spells, blanks around it and the case of its letters aside; a hyphen
    stands for an underscore. -/
def ofText? (s : String) : Option Operator :=
  let key := (Text.lowercase (Text.trim s.toList)).map fun c => if c == '-' then '_' else c
  spellings.lookup (String.ofList key)

/-- How many values an operator takes. -/
def arity : Operator → Arity
  | compare _ | pattern _ => .exactly 1
  | member _ => .atLeastOne
  | between => .exactly 2
  | null _ => .exactly 0

/-- The value of the operator is always written as a list. -/
def takesList : Operator → Bool
  | member _ | between => true
  | _ => false

/-- The operator looks for a text. -/
def isPattern : Operator → Bool
  | pattern _ => true
  | _ => false

/-- The operator needs values with an order. -/
def isRange : Operator → Bool
  | compare c => c.isRange
  | between => true
  | _ => false

end Operator

/-- How the operands of a group are joined. -/
inductive Connective where
  | and
  | or
  deriving DecidableEq, Repr, Inhabited

namespace Connective

/-- The name of a connective, as filters write it. -/
def name : Connective → String
  | and => "AND"
  | or => "OR"

/-- Every accepted spelling of a connective. -/
def spellings : List (String × Connective) :=
  [("AND", and), ("&&", and), ("&", and), ("OR", or), ("||", or), ("|", or)]

/-- The connective that a text spells, blanks around it and the case of its letters aside. No
    character outside ASCII has one of these letters as its capital. -/
def ofText? (s : String) : Option Connective :=
  spellings.lookup (String.ofList ((Text.trim s.toList).map Char.toUpper))

end Connective

end RowFilter
