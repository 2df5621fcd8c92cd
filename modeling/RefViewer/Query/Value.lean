import RefViewer.Number.Shortest
import RefViewer.Unicode.Letter
import RefViewer.Query.Error

/-!
# Values

What fields hold and expressions give. Equality and order are loose: a string stands for the
number it spells, a list for its comma-joined text. Kinds that do not mix are unequal and
unordered.
-/

namespace RefViewer.Query

inductive Value where
  | null
  | bool (b : Bool)
  | number (n : Number)
  | string (s : String)
  | list (names : List String)
  deriving DecidableEq, Repr

namespace Value

def ofOption : Option String → Value
  | some s => .string s
  | none => .null

def truthy : Value → Bool
  | .null => false
  | .bool b => b
  | .number n => !n.isZero && !n.isNaN
  | .string s => s ≠ ""
  | .list names => names ≠ []

def kind : Value → String
  | .null => "null"
  | .bool _ => "boolean"
  | .number _ => "number"
  | .string _ => "string"
  | .list _ => "list"

def joined (names : List String) : String := ",".intercalate names

def display : Value → String
  | .null => "null"
  | .bool b => if b then "true" else "false"
  | .number n => n.display
  | .string s => s
  | .list names => joined names

/-- The text that string operations work on. Null has none, and booleans are refused. -/
def text (use : TextUse) : Value → Except Error (Option String)
  | .null => .ok none
  | .bool _ => .error (.booleanOperand use)
  | .number n => .ok n.display
  | .string s => .ok s
  | .list names => .ok (joined names)

def spelled (s : String) : Option Number := Number.ofText? (Unicode.trim s)

def spells (s : String) (n : Number) : Bool :=
  match spelled s with
  | some parsed => parsed.equals n
  | none => false

def looseEq : Value → Value → Bool
  | .null, .null => true
  | .bool a, .bool b => a = b
  | .number a, .number b => a.equals b
  | .string a, .string b => a = b
  | .number n, .string s => spells s n
  | .string s, .number n => spells s n
  | .list a, .list b => a = b
  | .list names, .string s => joined names = s
  | .string s, .list names => joined names = s
  | _, _ => false

def compareText (a b : String) : Ordering :=
  if a < b then .lt else if a = b then .eq else .gt

def order : Value → Value → Option Ordering
  | .number a, .number b => a.order b
  | .string a, .string b => some (compareText a b)
  | .number a, .string b =>
    (spelled b).bind fun parsed => (parsed.order a).map Ordering.swap
  | .string a, .number b => (spelled a).bind fun parsed => parsed.order b
  | _, _ => none

end Value

end RefViewer.Query
