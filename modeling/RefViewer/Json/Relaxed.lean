import RefViewer.Json.Basic
import RefViewer.Number.Decimal
import RefViewer.Unicode.Category
import RefViewer.Unicode.CodePoint

/-!
# Relaxed documents

Documents as people write them: comments, keys without quotes, strings in either kind of
quotes, a comma after the last item, numbers in hexadecimal digits or with a bare point.
-/

namespace RefViewer.Json.Relaxed

open Unicode (Category)

def endsLine (c : Char) : Bool := ['\n', '\r', '\u2028', '\u2029'].contains c

def isBlank (c : Char) : Bool :=
  endsLine c || ['\t', '\x0b', '\x0c', '\ufeff'].contains c || Category.zs.contains c

def closeComment? : List Char → Option (List Char)
  | [] => none
  | '*' :: '/' :: rest => some rest
  | _ :: rest => closeComment? rest

def skipAll : Nat → List Char → List Char
  | 0, text => text
  | _ + 1, [] => []
  | fuel + 1, c :: rest =>
    if isBlank c then skipAll fuel rest
    else match c, rest with
      | '/', '/' :: rest => skipAll fuel (rest.dropWhile fun c => !endsLine c)
      | '/', '*' :: inside =>
        match closeComment? inside with
        | some rest => skipAll fuel rest
        | none => c :: rest
      | c, rest => c :: rest

def skip (text : List Char) : List Char := skipAll text.length text

/-! ## Strings -/

/-- A character in units of 16 bits: two of them stand for one beyond the first plane. -/
def takeUnits (text : List Char) : Option (Char × List Char) := do
  let (lead, rest) ← Unicode.takeHex 4 text
  if lead < 0xd800 || 0xdc00 ≤ lead then return (← Unicode.charOf? lead, rest)
  match rest with
  | '\\' :: 'u' :: rest =>
    let (trail, rest) ← Unicode.takeHex 4 rest
    if trail < 0xdc00 || 0xe000 ≤ trail then none
    else return (← Unicode.charOf? (0x10000 + 0x400 * (lead - 0xd800) + (trail - 0xdc00)), rest)
  | _ => none

def takeEscape : List Char → Option (List Char × List Char)
  | [] => none
  | '\r' :: '\n' :: rest => some ([], rest)
  | 'x' :: rest => do
    let (c, rest) ← Unicode.takeCode 2 rest
    return ([c], rest)
  | 'u' :: rest => do
    let (c, rest) ← takeUnits rest
    return ([c], rest)
  | c :: rest =>
    let simple : List (Char × Char) := [('0', '\x00'), ('b', '\x08'), ('f', '\x0c'), ('n', '\n'),
      ('r', '\r'), ('t', '\t'), ('v', '\x0b')]
    if endsLine c then some ([], rest)
    else match simple.lookup c with
      | some escaped => some ([escaped], rest)
      | none => if Decimal.isDigit c then none else some ([c], rest)

def takeString (quote : Char) : Nat → List Char → List Char → Option (String × List Char)
  | 0, _, _ => none
  | _ + 1, _, [] => none
  | fuel + 1, read, c :: rest =>
    if c = quote then some (.ofList read.reverse, rest)
    else if c = '\\' then do
      let (escaped, rest) ← takeEscape rest
      takeString quote fuel (escaped ++ read) rest
    else if endsLine c then none
    else takeString quote fuel (c :: read) rest

/-! ## Names -/

def startsName (c : Char) : Bool :=
  c = '$' || c = '_' || [Category.lu, .ll, .lt, .lm, .lo, .nl].any (·.contains c)

def continuesName (c : Char) : Bool :=
  startsName c || c = '\u200c' || c = '\u200d' || [Category.mn, .nd, .pc].any (·.contains c)

def takeNameChar (allowed : Char → Bool) : List Char → Option (Char × List Char)
  | '\\' :: 'u' :: rest => takeUnits rest
  | c :: rest => if allowed c then some (c, rest) else none
  | [] => none

def takeNameRest : Nat → List Char → List Char → String × List Char
  | 0, read, text => (.ofList read.reverse, text)
  | fuel + 1, read, text =>
    match takeNameChar continuesName text with
    | some (c, rest) => takeNameRest fuel (c :: read) rest
    | none => (.ofList read.reverse, text)

def takeName (text : List Char) : Option (String × List Char) :=
  (takeNameChar startsName text).map fun (c, rest) => takeNameRest rest.length [c] rest

def takeKey (text : List Char) : Option (String × List Char) :=
  match text with
  | '"' :: rest => takeString '"' text.length [] rest
  | '\'' :: rest => takeString '\'' text.length [] rest
  | text => takeName text

/-! ## Numbers -/

def hexLimit : Nat := 0x100000000

def hexNumber? (digits : List Char) : Option Numeral :=
  match Unicode.ofHex? digits with
  | some n => if digits ≠ [] && n < hexLimit then some (.integer n) else none
  | none => none

def isNumberChar (c : Char) : Bool := c.isAlphanum || c = '.' || c = '+' || c = '-'

/-- A needless leading zero is refused. -/
def hasPlainStart : List Char → Bool
  | '0' :: c :: _ => !Decimal.isDigit c
  | _ => true

/-- A number with a point or an exponent may not exceed the range of numbers. -/
def number? (text : List Char) : Option Numeral :=
  let (negative, body) := Decimal.readSign text
  match text, body with
  | '0' :: 'x' :: digits, _ | '0' :: 'X' :: digits, _ => hexNumber? digits
  | _, body =>
    if body = "Infinity".toList && text.head? ≠ some '+' then some (.float (.infinity negative))
    else if body = "NaN".toList && text.head? ≠ some '+' then some (.float .nan)
    else if !hasPlainStart body then none
    else if body ≠ [] && body.all Decimal.isDigit then
      let n := Number.signed negative (Decimal.ofDigits body)
      if Numeral.signedMin ≤ n && n < Numeral.signedLimit then some (.integer n) else none
    else
      match (Decimal.read? body).map (Decimal.toNumber negative) with
      | some (.finite negative units) => some (.float (.finite negative units))
      | _ => none

/-! ## Values -/

def words : List (String × Json) := [("null", .null), ("true", .bool true), ("false", .bool false)]

def takeWord (text : List Char) : Option (Json × List Char) := do
  let word := text.takeWhile isNumberChar
  let rest := text.dropWhile isNumberChar
  match words.lookup (.ofList word) with
  | some value => return (value, rest)
  | none => return (.number (← number? word), rest)

mutual

def takeValue : Nat → List Char → Option (Json × List Char)
  | 0, _ => none
  | fuel + 1, text =>
    match text with
    | '[' :: rest => takeItems fuel [] (skip rest)
    | '\x7b' :: rest => takeEntries fuel [] (skip rest)
    | '"' :: _ | '\'' :: _ => (takeKey text).map fun (s, rest) => (.string s, rest)
    | text => takeWord text

def takeItems : Nat → List Json → List Char → Option (Json × List Char)
  | 0, _, _ => none
  | _ + 1, read, ']' :: rest => some (.array read.reverse, rest)
  | fuel + 1, read, text => do
    let (item, rest) ← takeValue fuel text
    match skip rest with
    | ',' :: rest => takeItems fuel (item :: read) (skip rest)
    | ']' :: rest => return (.array (item :: read).reverse, rest)
    | _ => none

def takeEntries : Nat → List (String × Json) → List Char → Option (Json × List Char)
  | 0, _, _ => none
  | _ + 1, read, '\x7d' :: rest => some (.object read.reverse, rest)
  | fuel + 1, read, text => do
    let (key, rest) ← takeKey text
    match skip rest with
    | ':' :: rest =>
      let (value, rest) ← takeValue fuel (skip rest)
      match skip rest with
      | ',' :: rest => takeEntries fuel ((key, value) :: read) (skip rest)
      | '\x7d' :: rest => return (.object ((key, value) :: read).reverse, rest)
      | _ => none
    | _ => none

end

def read? (text : String) : Option Json := do
  let text := text.toList
  let (value, rest) ← takeValue (2 * text.length + 2) (skip text)
  if skip rest = [] then some value else none

end RefViewer.Json.Relaxed
