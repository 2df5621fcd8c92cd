import RefViewer.Pattern.Reader
import RefViewer.Query.Field
import RefViewer.Query.Value

/-!
# Expressions

The meaning of a query: every name is a field and every pattern a regular expression.
Evaluation goes from left to right and stops at the first error; `and` and `or` leave out
their right side where the left side decides.
-/

namespace RefViewer.Query

inductive Literal where
  | null
  | bool (b : Bool)
  | number (n : Number)
  | string (s : String)
  deriving DecidableEq, Repr

inductive Comparison where
  | eq
  | ne
  | lt
  | le
  | gt
  | ge
  deriving DecidableEq, Repr

inductive TextTest where
  | contains
  | startsWith
  | endsWith
  deriving DecidableEq, Repr

inductive LetterCase where
  | lower
  | upper
  deriving DecidableEq, Repr

inductive Expr where
  | literal (value : Literal)
  | field (f : Field)
  | not (operand : Expr)
  | and (lhs rhs : Expr)
  | or (lhs rhs : Expr)
  | compare (comparison : Comparison) (lhs rhs : Expr)
  | text (test : TextTest) (lhs rhs : Expr)
  | matches (subject : Expr) (pattern : Pattern)
  | length (subject : Expr)
  | convert (case : LetterCase) (subject : Expr)
  deriving DecidableEq

abbrev Record := Field → Value

def Literal.value : Literal → Value
  | .null => .null
  | .bool b => .bool b
  | .number n => .number n
  | .string s => .string s

/-- Kinds without an order between them answer no to every order test. -/
def Comparison.holds (a b : Value) : Comparison → Bool
  | .eq => a.looseEq b
  | .ne => !a.looseEq b
  | .lt => a.order b = some .lt
  | .le => a.order b = some .lt || a.order b = some .eq
  | .gt => a.order b = some .gt
  | .ge => a.order b = some .gt || a.order b = some .eq

namespace TextTest

def use : TextTest → TextUse
  | .contains => .contains
  | .startsWith => .startsWith
  | .endsWith => .endsWith

def containsChars (needle : List Char) : List Char → Bool
  | [] => needle.isEmpty
  | c :: rest => needle.isPrefixOf (c :: rest) || containsChars needle rest

def holds (haystack needle : String) : TextTest → Bool
  | .contains => containsChars needle.toList haystack.toList
  | .startsWith => needle.toList.isPrefixOf haystack.toList
  | .endsWith => needle.toList.isSuffixOf haystack.toList

end TextTest

def LetterCase.apply (text : String) : LetterCase → String
  | .lower => Unicode.lower text
  | .upper => Unicode.upper text

namespace Value

/-- A test passes on a list when it passes on a member, and never on null. -/
def passes (use : TextUse) (test : String → Bool) : Value → Except Error Bool
  | .list names => .ok (names.any test)
  | value => (value.text use).map fun text => text.any test

/-- An operand without text makes the test fail before its subject is looked at. -/
def textTest (test : TextTest) (subject operand : Value) : Except Error Bool :=
  match operand.text test.use with
  | .error e => .error e
  | .ok none => .ok false
  | .ok (some needle) => subject.passes test.use fun haystack => test.holds haystack needle

def length : Value → Except Error Value
  | .null => .ok .null
  | .string s => .ok (.number (.ofNat s.toList.length))
  | .list names => .ok (.number (.ofNat names.length))
  | other => .error (.noLength other.kind)

def convert (case : LetterCase) (subject : Value) : Except Error Value :=
  (subject.text .caseConversion).map fun
    | some text => .string (case.apply text)
    | none => .null

end Value

namespace Expr

def eval (item : Record) : Expr → Except Error Value
  | .literal value => .ok value.value
  | .field f => .ok (item f)
  | .not operand => do return .bool (!(← operand.eval item).truthy)
  | .and lhs rhs => do
    if (← lhs.eval item).truthy then return .bool (← rhs.eval item).truthy
    else return .bool false
  | .or lhs rhs => do
    if (← lhs.eval item).truthy then return .bool true
    else return .bool (← rhs.eval item).truthy
  | .compare comparison lhs rhs => do
    let a ← lhs.eval item
    let b ← rhs.eval item
    return .bool (comparison.holds a b)
  | .text test lhs rhs => do
    let subject ← lhs.eval item
    let operand ← rhs.eval item
    return .bool (← subject.textTest test operand)
  | .matches subject pattern => do
    return .bool (← (← subject.eval item).passes .matches pattern.matchesIn)
  | .length subject => do (← subject.eval item).length
  | .convert case subject => do (← subject.eval item).convert case

end Expr

end RefViewer.Query
