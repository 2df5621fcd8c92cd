import RefViewer.Json.Basic
import RefViewer.Number.Decimal
import RefViewer.Unicode.CodePoint
import RefViewer.Unicode.Letter

/-!
# Record notation

Documents of records in parentheses, maps in braces and lists in brackets. The name of a
record does not count, a present option counts as what is in it, and an absent one as null.
-/

namespace RefViewer.Ron

def isBlank (c : Char) : Bool :=
  ['\t', '\n', '\x0b', '\x0c', '\r', ' ', '\u0085', '\u200e', '\u200f', '\u2028',
    '\u2029'].contains c

/-- The text after the end of a block comment with so many block comments around it. -/
def closeComment? : Nat → List Char → Option (List Char)
  | _, [] => none
  | depth, '*' :: '/' :: rest => if depth = 0 then some rest else closeComment? (depth - 1) rest
  | depth, '/' :: '*' :: rest => closeComment? (depth + 1) rest
  | depth, _ :: rest => closeComment? depth rest

def skipAll : Nat → List Char → List Char
  | 0, text => text
  | _ + 1, [] => []
  | fuel + 1, c :: rest =>
    if isBlank c then skipAll fuel rest
    else match c, rest with
      | '/', '/' :: rest => skipAll fuel (rest.dropWhile (· ≠ '\n'))
      | '/', '*' :: inside =>
        match closeComment? 0 inside with
        | some rest => skipAll fuel rest
        | none => c :: rest
      | c, rest => c :: rest

def skip (text : List Char) : List Char := skipAll text.length text

/-! ## Names and strings -/

def startsName (c : Char) : Bool := c = '_' || (Unicode.isAlphanumeric c && !c.isDigit)

def continuesName (c : Char) : Bool := c = '_' || Unicode.isAlphanumeric c

def continuesRawName (c : Char) : Bool := continuesName c || ['.', '+', '-'].contains c

def takeName (text : List Char) : Option (String × List Char) :=
  match text with
  | 'r' :: '#' :: rest =>
    match rest.takeWhile continuesRawName with
    | [] => none
    | name => some (.ofList name, rest.dropWhile continuesRawName)
  | c :: _ =>
    if startsName c then some (.ofList (text.takeWhile continuesName), text.dropWhile continuesName)
    else none
  | [] => none

def takeEscape : List Char → Option (Char × List Char)
  | '"' :: rest => some ('"', rest)
  | '\'' :: rest => some ('\'', rest)
  | '\\' :: rest => some ('\\', rest)
  | 'n' :: rest => some ('\n', rest)
  | 'r' :: rest => some ('\r', rest)
  | 't' :: rest => some ('\t', rest)
  | '0' :: rest => some ('\x00', rest)
  | 'x' :: rest => Unicode.takeCode 2 rest
  | 'u' :: '\x7b' :: rest => do
    let digits := rest.takeWhile (· ≠ '\x7d')
    if digits = [] || 6 < digits.length then none
    else return (← Unicode.charOf? (← Unicode.ofHex? digits),
      ← (rest.drop digits.length).tail?)
  | _ => none

def takeString : Nat → List Char → List Char → Option (String × List Char)
  | 0, _, _ => none
  | _ + 1, _, [] => none
  | fuel + 1, read, c :: rest =>
    if c = '"' then some (.ofList read.reverse, rest)
    else if c = '\\' then do
      let (escaped, rest) ← takeEscape rest
      takeString fuel (escaped :: read) rest
    else takeString fuel (c :: read) rest

/-- A raw string after its opening quote, which so many marks stand before. -/
def takeRaw (marks : Nat) (read : List Char) : List Char → Option (String × List Char)
  | [] => none
  | c :: rest =>
    if c = '"' && (rest.take marks = List.replicate marks '#') then
      some (.ofList read.reverse, rest.drop marks)
    else takeRaw marks (c :: read) rest

def takeRawString (text : List Char) : Option (String × List Char) :=
  let marks := (text.takeWhile (· = '#')).length
  match text.drop marks with
  | '"' :: rest => takeRaw marks [] rest
  | _ => none

def takeCharacter (text : List Char) : Option (Char × List Char) := do
  let (c, rest) ← match text with
    | '\\' :: rest => takeEscape rest
    | c :: rest => some (c, rest)
    | [] => none
  match rest with
  | '\'' :: rest => return (c, rest)
  | _ => none

/-! ## Numbers -/

def suffixes : List (String × Int × Int) := [
  ("i8", -0x80, 0x7f), ("i16", -0x8000, 0x7fff), ("i32", -0x80000000, 0x7fffffff),
  ("i64", Numeral.signedMin, Numeral.signedLimit - 1), ("u8", 0, 0xff), ("u16", 0, 0xffff),
  ("u32", 0, 0xffffffff), ("u64", 0, Numeral.unsignedLimit - 1)]

def digitOf? (base : Nat) (c : Char) : Option Nat := (Unicode.hexValue? c).filter (· < base)

/-- Underscores may stand anywhere but before the first digit. -/
def magnitude? (base : Nat) : List Char → Option Nat
  | [] => none
  | c :: rest => do
    let digits ← (c :: rest.filter (· ≠ '_')).mapM (digitOf? base)
    return digits.foldl (fun n d => base * n + d) 0

def based? : List Char → Option Nat
  | '0' :: 'x' :: digits => magnitude? 16 digits
  | '0' :: 'o' :: digits => magnitude? 8 digits
  | '0' :: 'b' :: digits => magnitude? 2 digits
  | digits => magnitude? 10 digits

def within (low high n : Int) : Bool := low ≤ n && n ≤ high

def integer? (text : List Char) : Option Int :=
  let (negative, body) := Decimal.readSign text
  let signed (body : List Char) := (based? body).map (Number.signed negative)
  match signed body with
  | some n => if within Numeral.signedMin (Numeral.unsignedLimit - 1) n then some n else none
  | none =>
    suffixes.findSome? fun (suffix, low, high) =>
      let count := body.length - suffix.length
      if body.drop count = suffix.toList then (signed (body.take count)).filter (within low high)
      else none

def realBody? (negative : Bool) (body : List Char) : Option Number :=
  if body = "inf".toList then some (.infinity negative)
  else if body = "NaN".toList then some .nan
  else if body.head? = some '_' then none
  else (Decimal.read? (body.filter (· ≠ '_'))).map (Decimal.toNumber negative)

def real? (text : List Char) : Option Number :=
  let (negative, body) := Decimal.readSign text
  let unmarked := body.take (body.length - 3)
  if body.drop (body.length - 3) = "f32".toList || body.drop (body.length - 3) = "f64".toList then
    realBody? negative unmarked
  else realBody? negative body

def isNumberChar (c : Char) : Bool := c.isAlphanum || ['_', '.', '+', '-'].contains c

def takeNumber (text : List Char) : Option (Json × List Char) := do
  let word := text.takeWhile isNumberChar
  let numeral ← ((integer? word).map Numeral.integer).orElse fun _ => (real? word).map Numeral.float
  return (.number numeral, text.dropWhile isNumberChar)

/-! ## Values -/

def afterColon? (text : List Char) : Option (List Char) :=
  match skip text with
  | ':' :: rest => some (skip rest)
  | _ => none

def word? (name : String) : Option Json :=
  if name = "true" then some (.bool true)
  else if name = "false" then some (.bool false)
  else if name = "None" then some .null
  else if name = "inf" then some (.number (.float (.infinity false)))
  else if name = "NaN" then some (.number (.float .nan))
  else none

def takeText (text : List Char) : Option (String × List Char) :=
  match text with
  | '"' :: rest => takeString text.length [] rest
  | 'r' :: rest => takeRawString rest
  | '\'' :: rest => (takeCharacter rest).map fun (c, rest) => (.singleton c, rest)
  | _ => none

mutual

def takeValue : Nat → List Char → Option (Json × List Char)
  | 0, _ => none
  | fuel + 1, text =>
    match takeText text, takeName text, text with
    | some (s, rest), _, _ => some (.string s, rest)
    | none, some (name, rest), _ =>
      match word? name, skip rest with
      | some value, _ => some (value, rest)
      | none, '(' :: inside =>
        if name = "Some" then do
          let (value, rest) ← takeValue fuel (skip inside)
          match skip rest with
          | ')' :: rest => return (value, rest)
          | _ => none
        else takeParentheses fuel (skip inside)
      | none, _ => if name = "Some" then none else some (.null, rest)
    | none, none, '(' :: rest => takeParentheses fuel (skip rest)
    | none, none, '[' :: rest => takeItems fuel ']' [] (skip rest)
    | none, none, '\x7b' :: rest => takeEntries fuel [] (skip rest)
    | none, none, text => takeNumber text

def takeParentheses : Nat → List Char → Option (Json × List Char)
  | 0, _ => none
  | fuel + 1, text =>
    match text, takeName text with
    | ')' :: rest, _ => some (.null, rest)
    | text, some (_, rest) =>
      if (afterColon? rest).isSome then takeFields fuel [] text else takeItems fuel ')' [] text
    | text, none => takeItems fuel ')' [] text

def takeItems : Nat → Char → List Json → List Char → Option (Json × List Char)
  | 0, _, _, _ => none
  | fuel + 1, close, read, text =>
    if text.head? = some close then some (.array read.reverse, text.drop 1)
    else do
      let (item, rest) ← takeValue fuel text
      match skip rest with
      | ',' :: rest => takeItems fuel close (item :: read) (skip rest)
      | c :: rest => if c = close then return (.array (item :: read).reverse, rest) else none
      | [] => none

def takeFields : Nat → List (String × Json) → List Char → Option (Json × List Char)
  | 0, _, _ => none
  | _ + 1, read, ')' :: rest => some (.object read.reverse, rest)
  | fuel + 1, read, text => do
    let (name, rest) ← takeName text
    let (value, rest) ← takeValue fuel (← afterColon? rest)
    match skip rest with
    | ',' :: rest => takeFields fuel ((name, value) :: read) (skip rest)
    | ')' :: rest => return (.object ((name, value) :: read).reverse, rest)
    | _ => none

def takeEntries : Nat → List (String × Json) → List Char → Option (Json × List Char)
  | 0, _, _ => none
  | _ + 1, read, '\x7d' :: rest => some (.object read.reverse, rest)
  | fuel + 1, read, text => do
    let (key, rest) ← takeText text
    let (value, rest) ← takeValue fuel (← afterColon? rest)
    match skip rest with
    | ',' :: rest => takeEntries fuel ((key, value) :: read) (skip rest)
    | '\x7d' :: rest => return (.object ((key, value) :: read).reverse, rest)
    | _ => none

end

/-! ## Documents -/

def extensions : List String :=
  ["unwrap_newtypes", "implicit_some", "unwrap_variant_newtypes", "explicit_struct_names"]

def takeExtensions : Nat → List Char → Option (List Char)
  | 0, _ => none
  | fuel + 1, text => do
    let (name, rest) ← takeName text
    if !extensions.contains name then none
    else match skip rest with
      | ',' :: rest =>
        match skip rest with
        | ')' :: rest => return rest
        | rest => takeExtensions fuel rest
      | ')' :: rest => return rest
      | _ => none

/-- What a document asks of its reader, line by line before its value. -/
def skipHeaders : Nat → List Char → Option (List Char)
  | 0, text => some text
  | fuel + 1, text =>
    match skip text with
    | '#' :: rest => do
      let rest ← match skip rest with
        | '!' :: rest => some (skip rest)
        | _ => none
      let rest ← match rest with
        | '[' :: rest => some (skip rest)
        | _ => none
      let (name, rest) ← takeName rest
      match skip rest with
      | '(' :: rest =>
        let rest ← takeExtensions rest.length (skip rest)
        match skip rest with
        | ']' :: rest => if name = "enable" then skipHeaders fuel rest else none
        | _ => none
      | _ => none
    | rest => some rest

def read? (text : String) : Option Json := do
  let text ← skipHeaders text.length text.toList
  let (value, rest) ← takeValue (3 * text.length + 3) text
  if skip rest = [] then some value else none

end RefViewer.Ron
