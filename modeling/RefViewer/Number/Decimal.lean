import RefViewer.Number.Basic

/-!
# Decimal text

Reads a number from decimal text: a sign, digits with a point on either side of them, an
exponent, or one of the words for infinity and for not-a-number in any case. The nearest
number is taken, so a value out of range is infinite or zero.
-/

namespace RefViewer

/-- The value is `coefficient * 10 ^ exponent`. -/
structure Decimal where
  coefficient : Nat
  exponent : Int
  deriving DecidableEq, Repr

namespace Decimal

def digitValue (c : Char) : Nat := c.toNat - 48

def ofDigits (digits : List Char) : Nat :=
  digits.foldl (fun n c => 10 * n + digitValue c) 0

/-- A large exponent decides by itself: the powers of ten below are never built. -/
def toNumber (negative : Bool) (d : Decimal) : Number :=
  if d.coefficient = 0 then .finite negative 0
  else if 310 < d.exponent then .infinity negative
  else if 0 ≤ d.exponent then
    .ofRatio negative (d.coefficient * Nat.pow 10 d.exponent.toNat) 1
  else
    let places := (-d.exponent).toNat
    if d.coefficient.log2 + 1100 < 3 * places then .finite negative 0
    else .ofRatio negative d.coefficient (Nat.pow 10 places)

def readSign : List Char → Bool × List Char
  | '-' :: rest => (true, rest)
  | '+' :: rest => (false, rest)
  | text => (false, text)

def isDigit (c : Char) : Bool := '0' ≤ c && c ≤ '9'

def readExponent? : List Char → Option Int
  | [] => some 0
  | c :: rest =>
    if c = 'e' || c = 'E' then
      let (negative, digits) := readSign rest
      if digits ≠ [] && digits.all isDigit then
        some (Number.signed negative (ofDigits digits))
      else none
    else none

def read? (text : List Char) : Option Decimal :=
  let whole := text.takeWhile isDigit
  let rest := text.dropWhile isDigit
  let (fraction, rest) :=
    match rest with
    | '.' :: rest => (rest.takeWhile isDigit, rest.dropWhile isDigit)
    | rest => ([], rest)
  if whole = [] && fraction = [] then none
  else (readExponent? rest).map fun exponent =>
    ⟨ofDigits (whole ++ fraction), exponent - fraction.length⟩

end Decimal

def Number.ofText? (text : String) : Option Number :=
  let (negative, body) := Decimal.readSign text.toList
  let word := String.ofList (body.map Char.toLower)
  if word = "inf" || word = "infinity" then some (.infinity negative)
  else if word = "nan" then some .nan
  else (Decimal.read? body).map (Decimal.toNumber negative)

end RefViewer
