/-!
# Query errors

Why a query is refused or fails on an item, and how each cause reads. Only a syntax error has
a position.
-/

namespace RefViewer.Query

/-- The named parts of the grammar that an error message can list, in the order in which it
lists them. -/
inductive Rule where
  | endOfInput
  | expr
  | or
  | and
  | eq
  | ne
  | le
  | ge
  | lt
  | gt
  | contains
  | startsWith
  | endsWith
  | matches
  | bang
  | not
  | call
  | property
  | number
  | string
  | boolean
  | null
  | ident
  deriving DecidableEq, Repr

namespace Rule

def all : List Rule :=
  [.endOfInput, .expr, .or, .and, .eq, .ne, .le, .ge, .lt, .gt, .contains, .startsWith,
   .endsWith, .matches, .bang, .not, .call, .property, .number, .string, .boolean, .null, .ident]

def text : Rule → String
  | .endOfInput => "EOI"
  | .expr => "expr"
  | .or => "or"
  | .and => "and"
  | .eq => "eq"
  | .ne => "ne"
  | .le => "le"
  | .ge => "ge"
  | .lt => "lt"
  | .gt => "gt"
  | .contains => "contains"
  | .startsWith => "startswith"
  | .endsWith => "endswith"
  | .matches => "matches"
  | .bang => "bang"
  | .not => "not"
  | .call => "call"
  | .property => "property"
  | .number => "number"
  | .string => "string"
  | .boolean => "boolean"
  | .null => "null"
  | .ident => "ident"

def sorted (rules : List Rule) : List Rule := all.filter (rules.contains ·)

/-- `A`, `A or B`, or `A, B, or C`. -/
def enumerate (rules : List Rule) : String :=
  match rules with
  | [] => ""
  | [a] => a.text
  | [a, b] => a.text ++ " or " ++ b.text
  | rules => ", ".intercalate (rules.dropLast.map text) ++ ", or "
      ++ (rules.getLast?.map text).getD ""

end Rule

structure Position where
  line : Nat
  column : Nat
  deriving DecidableEq, Repr

inductive TextUse where
  | contains
  | startsWith
  | endsWith
  | matches
  | caseConversion
  deriving DecidableEq, Repr

def TextUse.text : TextUse → String
  | .contains => "contains"
  | .startsWith => "startswith"
  | .endsWith => "endswith"
  | .matches => "matches"
  | .caseConversion => "case conversion"

inductive Error where
  | tooDeep
  | tooLong
  | syntaxAt (position : Position) (expected : List Rule)
  | unknownField (name : String) (available : List String)
  | unknownProperty (name : String)
  | unknownMethod (name : String)
  | argumentCount (method : String) (expected given : Nat)
  | patternNotLiteral
  | patternInvalid
  | booleanOperand (use : TextUse)
  | noLength (kind : String)
  deriving DecidableEq, Repr

namespace Error

def message : Error → String
  | .tooDeep => "Query is nested too deeply"
  | .tooLong => "Query is too long"
  | .syntaxAt position expected =>
    let rules := Rule.enumerate expected
    s!"Syntax error at column {position.column}: expected {rules}"
  | .unknownField name available =>
    let fields := ", ".intercalate available
    s!"Unknown field '{name}' (available: {fields})"
  | .unknownProperty name => s!"Unknown property '{name}'"
  | .unknownMethod name => s!"Unknown method '{name}'"
  | .argumentCount method expected given =>
    s!"{method} expects {expected} argument(s), got {given}"
  | .patternNotLiteral => "matches expects a string literal pattern"
  | .patternInvalid => "Invalid regular expression"
  | .booleanOperand use => s!"{use.text} is not defined on a boolean value"
  | .noLength kind => s!"length is not defined on a {kind} value"

def position? : Error → Option Position
  | .syntaxAt position _ => some position
  | _ => none

end Error

end RefViewer.Query
