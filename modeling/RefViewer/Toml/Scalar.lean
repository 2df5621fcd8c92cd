import RefViewer.Number.Decimal
import RefViewer.Time.Instant
import RefViewer.Toml.Basic

/-!
# Plain values in settings documents

Truth values, numbers and moments, each written as one word. Underscores may part the digits
of a number, a decimal has no needless leading zero, and whole numbers fit into 64 bits.
-/

namespace RefViewer.Toml

def spacedDigits? (isDigit : Char → Bool) : List Char → Option (List Char)
  | [] => none
  | c :: rest =>
    if !isDigit c then none
    else match rest with
      | [] => some [c]
      | '_' :: rest => (spacedDigits? isDigit rest).map (c :: ·)
      | rest => (spacedDigits? isDigit rest).map (c :: ·)

def decimalDigits? (text : List Char) : Option (List Char) :=
  match spacedDigits? Decimal.isDigit text with
  | some ('0' :: _ :: _) => none
  | digits => digits

def digitOf (c : Char) : Nat :=
  if c.isDigit then c.toNat - 48 else c.toLower.toNat - 87

def isDigitOf (base : Nat) (c : Char) : Bool :=
  (c.isDigit || ('a' ≤ c.toLower && c.toLower ≤ 'f')) && digitOf c < base

def based? (base : Nat) (text : List Char) : Option Int :=
  (spacedDigits? (isDigitOf base) text).map fun digits =>
    (digits.foldl (fun n c => base * n + digitOf c) 0 : Nat)

def integer? (text : List Char) : Option Int := do
  let value ← match text with
    | '0' :: 'x' :: digits => based? 16 digits
    | '0' :: 'o' :: digits => based? 8 digits
    | '0' :: 'b' :: digits => based? 2 digits
    | text =>
      let (negative, body) := Decimal.readSign text
      (decimalDigits? body).map fun digits => Number.signed negative (Decimal.ofDigits digits)
  if -0x8000000000000000 ≤ value && value < 0x8000000000000000 then some value else none

def isExponentMark (c : Char) : Bool := c = 'e' || c = 'E'

def decimal? (text : List Char) : Option Decimal := do
  let (mantissa, tail) := text.span fun c => !isExponentMark c
  let (whole, places) := mantissa.span (· ≠ '.')
  let whole ← decimalDigits? whole
  let fraction ← match places with
    | [] => some []
    | _ :: places => spacedDigits? Decimal.isDigit places
  let exponent ← match tail with
    | [] => if places = [] then none else some 0
    | _ :: tail =>
      let (negative, digits) := Decimal.readSign tail
      (spacedDigits? Decimal.isDigit digits).map fun digits =>
        Number.signed negative (Decimal.ofDigits digits)
  return ⟨Decimal.ofDigits (whole ++ fraction), exponent - fraction.length⟩

/-- A number beyond the range of numbers is refused unless it is written as infinite. -/
def real? (text : List Char) : Option Number :=
  let (negative, body) := Decimal.readSign text
  if body = ['i', 'n', 'f'] then some (.infinity negative)
  else if body = ['n', 'a', 'n'] then some .nan
  else do
    match (← decimal? body).toNumber negative with
    | .infinity _ => none
    | x => some x

/-! ## Moments -/

def takeDate (text : List Char) : Option (String × List Char) := do
  let (year, text) ← Instant.takeDigits 4 text
  let text ← Instant.takeChar ['-'] text
  let (month, text) ← Instant.takeDigits 2 text
  let text ← Instant.takeChar ['-'] text
  let (day, text) ← Instant.takeDigits 2 text
  if (Date.mk year month day).isValid then
    some (Instant.padded 4 year ++ "-" ++ Instant.padded 2 month ++ "-" ++ Instant.padded 2 day,
      text)
  else none

def fractionText (nanos : Nat) : String :=
  let digits := (Instant.padded 9 nanos).toList.reverse.dropWhile (· = '0')
  if digits = [] then "" else "." ++ .ofList digits.reverse

/-- The seconds may be left out. -/
def takeSeconds : List Char → Option (String × List Char)
  | ':' :: text => do
    let (second, text) ← Instant.takeDigits 2 text
    let (nanos, text) ← Instant.takeFraction text
    if second ≤ 60 then some (":" ++ Instant.padded 2 second ++ fractionText nanos, text) else none
  | text => some ("", text)

def takeHour (text : List Char) : Option (String × List Char) := do
  let (hour, text) ← Instant.takeDigits 2 text
  let text ← Instant.takeChar [':'] text
  let (minute, text) ← Instant.takeDigits 2 text
  if hour < 24 && minute < 60 then
    some (Instant.padded 2 hour ++ ":" ++ Instant.padded 2 minute, text)
  else none

def takeTime (text : List Char) : Option (String × List Char) := do
  let (hour, text) ← takeHour text
  let (seconds, text) ← takeSeconds text
  return (hour ++ seconds, text)

def offset? : List Char → Option String
  | [] => some ""
  | sign :: text =>
    if text = [] && (sign = 'Z' || sign = 'z') then some "Z"
    else if sign = '+' || sign = '-' then
      match takeHour text with
      | some (zone, []) => some (String.singleton (if zone = "00:00" then '+' else sign) ++ zone)
      | _ => none
    else none

def moment? (text : List Char) : Option String :=
  match takeDate text with
  | some (date, []) => some date
  | some (date, mark :: text) =>
    if mark = 'T' || mark = 't' || mark = ' ' then do
      let (time, text) ← takeTime text
      return date ++ "T" ++ time ++ (← offset? text)
    else none
  | none =>
    match takeTime text with
    | some (time, []) => some time
    | _ => none

/-! ## Words -/

def word? (word : List Char) : Option Value :=
  if word = "true".toList then some (.bool true)
  else if word = "false".toList then some (.bool false)
  else
    ((integer? word).map Value.integer).orElse fun _ =>
      ((real? word).map Value.real).orElse fun _ => (moment? word).map Value.moment

def endsWord (c : Char) : Bool := " \t\r\n#,=[]\x7b\x7d\"'".toList.contains c

/-- One blank joins a date and a time of day. -/
def takeWord (text : List Char) : List Char × List Char :=
  let (word, rest) := text.span fun c => !endsWord c
  match takeDate word, rest with
  | some (_, []), ' ' :: next =>
    let (time, after) := next.span fun c => !endsWord c
    match time with
    | c :: _ => if c.isDigit then (word ++ ' ' :: time, after) else (word, rest)
    | [] => (word, rest)
  | _, _ => (word, rest)

end RefViewer.Toml
