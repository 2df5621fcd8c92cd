/-!
# Binary floating-point numbers

Numbers have 53 significant bits and exponents from -1074 to 971. Every finite number is a
whole multiple of `2 ^ -1074`, so it is kept as a sign and a count of these units, and
comparison is comparison of integers. Arithmetic is exact on ratios and rounds once, to the
nearest number, a tie to the even one.
-/

namespace RefViewer

inductive Number where
  | nan
  | infinity (negative : Bool)
  | finite (negative : Bool) (units : Nat)
  deriving DecidableEq, Repr

namespace Number

def one : Nat := Nat.pow 2 1074

/-- The first count of units that no finite number has. -/
def limit : Nat := Nat.pow 2 2098

def zero : Number := .finite false 0

def signed (negative : Bool) (magnitude : Nat) : Int :=
  if negative then -(magnitude : Int) else magnitude

/-- Position on the number line; both zeros share one, and `nan` has none. -/
def position : Number → Option Int
  | .nan => none
  | .infinity negative => some (signed negative limit)
  | .finite negative units => some (signed negative units)

def equals (a b : Number) : Bool :=
  match a.position, b.position with
  | some x, some y => x = y
  | _, _ => false

def order (a b : Number) : Option Ordering :=
  match a.position, b.position with
  | some x, some y => some (compare x y)
  | _, _ => none

def isZero (a : Number) : Bool := a.position = some 0

def isNaN (a : Number) : Bool := a.position = none

def roundHalfEven (num den : Nat) : Nat :=
  let quotient := num / den
  let twice := 2 * (num % den)
  if twice < den then quotient
  else if den < twice then quotient + 1
  else quotient + quotient % 2

/-- The nearest number to `num / den`. All bits below the 53 leading ones are rounded away. -/
def ofRatio (negative : Bool) (num den : Nat) : Number :=
  let scaled := num * one
  let shift := (scaled / den).log2 - 52
  let step := Nat.pow 2 shift
  let units := roundHalfEven scaled (den * step) * step
  if units < limit then .finite negative units else .infinity negative

def ofNat (n : Nat) : Number := ofRatio false n 1

def ofInt (n : Int) : Number := ofRatio (n < 0) n.natAbs 1

def isNegative : Number → Bool
  | .nan => false
  | .infinity negative => negative
  | .finite negative _ => negative

def neg : Number → Number
  | .nan => .nan
  | .infinity negative => .infinity !negative
  | .finite negative units => .finite (!negative) units

/-- A sum of zero has no sign unless both operands have it. -/
def add : Number → Number → Number
  | .finite s m, .finite t n =>
    let sum := signed s m + signed t n
    if sum = 0 then .finite (s && t) 0 else ofRatio (sum < 0) sum.natAbs one
  | .nan, _ | _, .nan => .nan
  | .infinity s, .infinity t => if s = t then .infinity s else .nan
  | .infinity s, _ => .infinity s
  | _, .infinity t => .infinity t

/-- Infinite operands are taken as they are; a zero beside one gives `nan`. -/
def mul (a b : Number) : Number :=
  let negative := a.isNegative != b.isNegative
  match a, b with
  | .finite _ m, .finite _ n => ofRatio negative (m * n) (one * one)
  | .nan, _ | _, .nan => .nan
  | a, b => if a.isZero || b.isZero then .nan else .infinity negative

def div (a b : Number) : Number :=
  let negative := a.isNegative != b.isNegative
  match a, b with
  | .finite _ m, .finite _ n =>
    if n = 0 then if m = 0 then .nan else .infinity negative
    else ofRatio negative m n
  | .infinity _, .finite _ _ => .infinity negative
  | .finite _ _, .infinity _ => .finite negative 0
  | _, _ => .nan

def toInt? : Number → Option Int
  | .finite negative units =>
    if units % one = 0 then some (signed negative (units / one)) else none
  | _ => none

end Number

end RefViewer
