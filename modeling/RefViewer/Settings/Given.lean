import RefViewer.Json.Basic
import RefViewer.Number.Shortest
import RefViewer.Number.Decimal
import RefViewer.Toml.Basic
import RefViewer.Unicode.Letter

/-!
# Given values

What a source gives for a setting. Sources differ in what they can write, so each kind of
setting takes every plain value that has a meaning for it: numbers and truth values may be
given as text, and text as any of them.
-/

namespace RefViewer.Settings

inductive Given where
  | null
  | bool (b : Bool)
  | integer (i : Int)
  | real (x : Number)
  | text (s : String)
  /-- A list or a table, which suits no setting. -/
  | collection
  deriving DecidableEq, Repr

namespace Given

def ofDocument : Json → Given
  | .null => .null
  | .bool b => .bool b
  | .number (.integer i) => .integer i
  | .number (.float x) => .real x
  | .string s => .text s
  | .array _ | .object _ => .collection

/-- Whole numbers beyond the signed range are kept as any other number. -/
def ofJson : Json → Given
  | .number (.integer i) => if i < Numeral.signedLimit then .integer i else .real (.ofInt i)
  | value => .ofDocument value

def ofToml : Toml.Value → Given
  | .text s | .moment s => .text s
  | .integer i => .integer i
  | .real x => .real x
  | .bool b => .bool b
  | .list _ | .inline _ | .table _ _ | .tables _ _ => .collection

def truthWord? (s : String) : Option Bool :=
  let word := Unicode.lower s
  if ["true", "on", "yes"].contains word then some true
  else if ["false", "off", "no"].contains word then some false
  else none

def countLimit : Nat := 0x10000000000000000

def readCount? (s : String) : Option Nat :=
  let digits := match s.toList with
    | '+' :: digits => digits
    | digits => digits
  let n := Decimal.ofDigits digits
  if digits ≠ [] && digits.all Decimal.isDigit && n < countLimit then some n else none

/-- The nearest count. Halves go up, and what is out of range becomes the end of the range. -/
def nearestCount : Number → Nat
  | .finite false units =>
    min ((units + Number.one / 2) / Number.one) (countLimit - 1)
  | .infinity false => countLimit - 1
  | .finite true _ | .infinity true | .nan => 0

def toCount? : Given → Option Nat
  | .bool b => some b.toNat
  | .integer i => if 0 ≤ i && i < countLimit then some i.toNat else none
  | .real x => some (nearestCount x)
  | .text s => ((truthWord? s).map Bool.toNat).orElse fun _ => readCount? s
  | .null | .collection => none

def toNumber? : Given → Option Number
  | .bool b => some (.ofNat b.toNat)
  | .integer i => some (.ofInt i)
  | .real x => some x
  | .text s => ((truthWord? s).map fun b => .ofNat b.toNat).orElse fun _ => Number.ofText? s
  | .null | .collection => none

def toText? : Given → Option String
  | .bool b => some (toString b)
  | .integer i => some (toString i)
  | .real x => some x.toText
  | .text s => some s
  | .null | .collection => none

def toOptionalText? : Given → Option (Option String)
  | .null => some none
  | given => given.toText?.map some

end Given

end RefViewer.Settings
