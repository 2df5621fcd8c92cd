import RefViewer.Query.Expr
import RefViewer.Query.Term

/-!
# Resolving names

A written term becomes an expression when its names are fields, its properties and methods
are known, and its patterns are regular expressions. The first fault from the left is
reported; that of an operator or a method comes after those of its operands.
-/

namespace RefViewer.Query

/-- Removes escapes: three letters stand for control characters, any other character for
itself. A backslash at the end stays. -/
def unescape : List Char → List Char
  | [] => []
  | ['\\'] => ['\\']
  | '\\' :: c :: rest =>
    (if c = 'n' then '\n' else if c = 't' then '\t' else if c = 'r' then '\r' else c)
      :: unescape rest
  | c :: rest => c :: unescape rest

namespace Term

def fieldNamed (name : String) : Except Error Expr :=
  match Field.ofText? name with
  | some field => .ok (.field field)
  | none => .error (.unknownField name (Field.all.map Field.text))

def patternOf : Expr → Except Error Pattern
  | .literal (.string source) =>
    match Pattern.ofText? source with
    | some pattern => .ok pattern
    | none => .error .patternInvalid
  | _ => .error .patternNotLiteral

def applyOperator (lhs rhs : Expr) : Operator → Except Error Expr
  | .or => .ok (.or lhs rhs)
  | .and => .ok (.and lhs rhs)
  | .eq => .ok (.compare .eq lhs rhs)
  | .ne => .ok (.compare .ne lhs rhs)
  | .le => .ok (.compare .le lhs rhs)
  | .ge => .ok (.compare .ge lhs rhs)
  | .lt => .ok (.compare .lt lhs rhs)
  | .gt => .ok (.compare .gt lhs rhs)
  | .contains => .ok (.text .contains lhs rhs)
  | .startsWith => .ok (.text .startsWith lhs rhs)
  | .endsWith => .ok (.text .endsWith lhs rhs)
  | .matches => (patternOf rhs).map fun pattern => .matches lhs pattern

inductive Method where
  | nullary (build : Expr → Expr)
  | unary (build : Expr → Expr → Except Error Expr)

def method? (name : String) : Option Method :=
  match name with
  | "includes" | "contains" => some (.unary fun lhs rhs => applyOperator lhs rhs .contains)
  | "startsWith" => some (.unary fun lhs rhs => applyOperator lhs rhs .startsWith)
  | "endsWith" => some (.unary fun lhs rhs => applyOperator lhs rhs .endsWith)
  | "matches" => some (.unary fun lhs rhs => applyOperator lhs rhs .matches)
  | "toLowerCase" => some (.nullary (.convert .lower))
  | "toUpperCase" => some (.nullary (.convert .upper))
  | _ => none

def applyMethod (receiver : Expr) (name : String) (arguments : List Expr) :
    Except Error Expr :=
  match method? name, arguments with
  | none, _ => .error (.unknownMethod name)
  | some (.nullary build), [] => .ok (build receiver)
  | some (.nullary _), arguments => .error (.argumentCount name 0 arguments.length)
  | some (.unary build), [argument] => build receiver argument
  | some (.unary _), arguments => .error (.argumentCount name 1 arguments.length)

def applyProperty (receiver : Expr) (name : String) : Except Error Expr :=
  if name = "length" then .ok (.length receiver) else .error (.unknownProperty name)

mutual

def resolve : Term → Except Error Expr
  | .null => .ok (.literal .null)
  | .boolean b => .ok (.literal (.bool b))
  | .number digits => .ok (.literal (.number ((Number.ofText? (.ofList digits)).getD .zero)))
  | .string quoted => .ok (.literal (.string (.ofList (unescape quoted))))
  | .name ident => fieldNamed ident
  | .group inner => inner.resolve
  | .call receiver method arguments => do
    let receiver ← receiver.resolve
    applyMethod receiver method (← resolveAll arguments)
  | .property receiver wanted => do applyProperty (← receiver.resolve) wanted
  | .signed _ operand => do return .not (← operand.resolve)
  | .binary operator lhs rhs => do
    let lhs ← lhs.resolve
    let rhs ← rhs.resolve
    applyOperator lhs rhs operator

def resolveAll : List Term → Except Error (List Expr)
  | [] => .ok []
  | term :: rest => do
    let first ← term.resolve
    return first :: (← resolveAll rest)

end

end Term

end RefViewer.Query
