/-!
# Terms

A query as it is written: names stand for themselves, calls and properties are not yet
checked, and parentheses are kept.
-/

namespace RefViewer.Query

/-- `!` binds tighter than every operator, `not` only tighter than `and` and `or`. -/
inductive Sign where
  | bang
  | not
  deriving DecidableEq, Repr

inductive Operator where
  | or
  | and
  | eq
  | ne
  | le
  | ge
  | lt
  | gt
  | contains
  | startsWith
  | endsWith
  | matches
  deriving DecidableEq, Repr

def Operator.level : Operator → Nat
  | .or => 1
  | .and => 2
  | .eq | .ne => 4
  | _ => 5

def Sign.level : Sign → Nat
  | .not => 3
  | .bang => 6

inductive Term where
  | null
  | boolean (b : Bool)
  /-- A number as its digits are written. -/
  | number (digits : List Char)
  /-- The characters between the quotes, escapes included. -/
  | string (quoted : List Char)
  | name (ident : String)
  | group (inner : Term)
  | call (receiver : Term) (method : String) (arguments : List Term)
  | property (receiver : Term) (name : String)
  | signed (sign : Sign) (operand : Term)
  | binary (operator : Operator) (lhs rhs : Term)
  deriving Repr

structure Operand where
  signs : List Sign
  term : Term

structure Link where
  operator : Operator
  operand : Operand

end RefViewer.Query
