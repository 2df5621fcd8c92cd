import RefViewer.Number.Decimal

/-!
# Shortest decimal text

A number is written with the fewest significant digits that read back as the number; among
these the nearest to it is taken. The three written forms share the digits: plain text never
has an exponent, query text drops the fraction of whole numbers, and document text marks
every number as one with a fraction and keeps far exponents.
-/

namespace RefViewer

inductive DecimalTie where
  | up
  | even
  deriving DecidableEq, Repr

namespace Shortest

/-- The numbers that round to one number, as ratios over `den`. -/
structure Interval where
  low : Nat
  value : Nat
  high : Nat
  den : Nat
  closed : Bool

/-- Half of the way to either neighbour; the neighbour below a power of two is nearer. An end
belongs to the interval when the significand is even. -/
def interval (units : Nat) : Interval :=
  let shift := units.log2 - 52
  let step := Nat.pow 2 shift
  let significand := units / step
  let below := if significand = 0x10000000000000 && 0 < shift then step else 2 * step
  ⟨4 * units - below, 4 * units, 4 * units + 2 * step, 4 * Number.one, significand % 2 = 0⟩

def Interval.holds (i : Interval) (num den : Nat) : Bool :=
  let x := num * i.den
  let low := i.low * den
  let high := i.high * den
  if i.closed then low ≤ x && x ≤ high else low < x && x < high

def ratio (d : Decimal) : Nat × Nat :=
  if 0 ≤ d.exponent then (d.coefficient * Nat.pow 10 d.exponent.toNat, 1)
  else (d.coefficient, Nat.pow 10 (-d.exponent).toNat)

def Interval.holdsDecimal (i : Interval) (d : Decimal) : Bool :=
  i.holds (ratio d).1 (ratio d).2

/-- The value cut to a whole multiple of `10 ^ exponent`, and what the cut leaves compared
with half of that power. -/
def Interval.cut (i : Interval) (exponent : Int) : Nat × Ordering :=
  let (num, den) :=
    if 0 ≤ exponent then (i.value, i.den * Nat.pow 10 exponent.toNat)
    else (i.value * Nat.pow 10 (-exponent).toNat, i.den)
  (num / den, compare (2 * (num % den)) den)

/-- The better of the two neighbours of the value on one decimal grid. -/
def Interval.onGrid (i : Interval) (tie : DecimalTie) (exponent : Int) : Option Decimal :=
  let (floor, half) := i.cut exponent
  let lower : Decimal := ⟨floor, exponent⟩
  let upper : Decimal := ⟨floor + 1, exponent⟩
  let takeUpper : Bool := match half with
    | .lt => false
    | .gt => true
    | .eq => tie = .up || floor % 2 = 1
  match i.holdsDecimal lower, i.holdsDecimal upper with
  | false, false => none
  | true, false => some lower
  | false, true => some upper
  | true, true => some (if takeUpper then upper else lower)

/-- The exponent of the leading decimal digit, searched upward from a low estimate. -/
def Interval.leading (i : Interval) : Nat → Int → Int
  | 0, exponent => exponent
  | fuel + 1, exponent =>
    if 10 ≤ (i.cut exponent).1 then i.leading fuel (exponent + 1) else exponent

def Interval.search (i : Interval) (tie : DecimalTie) : Nat → Int → Decimal
  | 0, exponent => ⟨(i.cut exponent).1, exponent⟩
  | fuel + 1, exponent =>
    match i.onGrid tie exponent with
    | some d => d
    | none => i.search tie fuel (exponent - 1)

def dropZeros : Nat → Decimal → Decimal
  | 0, d => d
  | fuel + 1, d =>
    if d.coefficient % 10 = 0 && d.coefficient ≠ 0 then
      dropZeros fuel ⟨d.coefficient / 10, d.exponent + 1⟩
    else d

/-- The leading digit of `2 ^ k` stands near the place `3 * k / 10`. -/
def estimate (units : Nat) : Int :=
  ((units.log2 : Int) - 1074) * 3 / 10 - 3

/-- The shortest decimal of a count of units. Seventeen digits always suffice. -/
def decimal (tie : DecimalTie) (units : Nat) : Decimal :=
  if units = 0 then ⟨0, 0⟩
  else
    let i := interval units
    dropZeros 20 (i.search tie 17 (i.leading 40 (estimate units)))

def digits (d : Decimal) : List Char := Nat.toDigits 10 d.coefficient

def zeros (count : Int) : List Char := List.replicate count.toNat '0'

def positional (d : Decimal) : List Char :=
  let ds := digits d
  let point : Int := ds.length + d.exponent
  if 0 ≤ d.exponent then ds ++ zeros d.exponent
  else if 0 < point then ds.take point.toNat ++ '.' :: ds.drop point.toNat
  else '0' :: '.' :: (zeros (-point) ++ ds)

def sign (negative : Bool) : List Char := if negative then ['-'] else []

end Shortest

namespace Number

def toText : Number → String
  | .nan => "NaN"
  | .infinity negative => if negative then "-inf" else "inf"
  | .finite negative units =>
    .ofList (Shortest.sign negative ++ Shortest.positional (Shortest.decimal .up units))

/-- Whole numbers below `10 ^ 15` print without a fraction or a sign of zero. -/
def display (n : Number) : String :=
  match n.toInt? with
  | some whole => if whole.natAbs < 1000000000000000 then toString whole else n.toText
  | none => n.toText

/-- Document text of a finite number: positional when the leading digit stands between the
fifth place after the point and the sixteenth before it, and always with a point or an
exponent. -/
def toDocument (negative : Bool) (units : Nat) : List Char :=
  let d := Shortest.decimal .even units
  let ds := Shortest.digits d
  let lead : Int := ds.length + d.exponent - 1
  let body :=
    if -5 ≤ lead && lead ≤ 15 || units = 0 then
      Shortest.positional d ++ (if 0 ≤ d.exponent then ['.', '0'] else [])
    else
      let mantissa := ds.take 1 ++ (if ds.length = 1 then [] else '.' :: ds.drop 1)
      mantissa ++ 'e' :: (if lead < 0 then '-' else '+') :: Nat.toDigits 10 lead.natAbs
  Shortest.sign negative ++ body

end Number

end RefViewer
