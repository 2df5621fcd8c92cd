import RefViewer.Json.Basic
import RefViewer.Number.Decimal
import RefViewer.Unicode.CodePoint

/-!
# Scalars in indented documents

A plain word stands for the value that it spells, and for text if it spells none. Text in
quotes may go over several lines: one line end reads as a blank, further ones stay.
-/

namespace RefViewer.Yaml

def isSpace (c : Char) : Bool := c = ' ' || c = '\t'

def isBlank (c : Char) : Bool := isSpace c || c = '\n'

def isFlowMark (c : Char) : Bool := [',', '[', ']', '\x7b', '\x7d'].contains c

/-! ## Plain words -/

def based? (base : Nat) (digits : List Char) : Option Nat := do
  let values ← digits.mapM Unicode.hexValue?
  if digits ≠ [] && values.all (· < base) then
    some (values.foldl (fun n d => base * n + d) 0)
  else none

def decimal? (text : List Char) : Option Int :=
  let (negative, digits) := Decimal.readSign text
  if digits ≠ [] && digits.all Decimal.isDigit then
    some (Number.signed negative (Decimal.ofDigits digits))
  else none

def fits (n : Int) : Bool := Numeral.signedMin ≤ n && n < Numeral.signedLimit

def integer? (text : List Char) : Option Int :=
  let value := match text with
    | '0' :: 'x' :: digits => (based? 16 digits).map Int.ofNat
    | '0' :: 'o' :: digits => (based? 8 digits).map Int.ofNat
    | text => decimal? text
  value.filter fits

def limitWords : List String :=
  [".inf", ".Inf", ".INF", "+.inf", "+.Inf", "+.INF", "-.inf", "-.Inf", "-.INF",
   ".nan", ".NaN", ".NAN"]

def real? (text : List Char) : Option Number :=
  if text.any Decimal.isDigit then Number.ofText? (.ofList text) else none

/-- The value of a plain word. Settings have no use for limits, so these are refused. -/
def plain? (text : List Char) : Option Json :=
  let word := String.ofList text
  if ["", "~", "null"].contains word then some .null
  else if ["true", "True", "TRUE"].contains word then some (.bool true)
  else if ["false", "False", "FALSE"].contains word then some (.bool false)
  else if limitWords.contains word then none
  else match integer? text, real? text with
    | some n, _ => some (.number (.integer n))
    | none, some x => some (.number (.float x))
    | none, none => some (.string word)

/-- The value of a plain word under a tag. One that does not fit its tag is null. -/
def tagged? (tag : String) (text : List Char) : Option Json :=
  let word := String.ofList text
  if tag = "!!bool" then
    some (if word = "true" then .bool true else if word = "false" then .bool false else .null)
  else if tag = "!!int" then
    some (match (decimal? text).filter fits with
      | some n => .number (.integer n)
      | none => .null)
  else if tag = "!!float" then
    if limitWords.contains word then none
    else some (match real? text with
      | some x => .number (.float x)
      | none => .null)
  else if tag = "!!null" then some .null
  else some (.string word)

def resolve? (tag : Option String) (text : List Char) : Option Json :=
  match tag with
  | some tag => tagged? tag text
  | none => plain? text

def startsPlain (flow : Bool) : List Char → Bool
  | [] => false
  | c :: rest =>
    if ['-', '?', ':'].contains c then
      rest.head?.any fun next => !isBlank next && !(flow && isFlowMark next)
    else !isBlank c && !isFlowMark c
      && !(['#', '&', '*', '!', '|', '>', '\'', '"', '%', '@', '\x60'].contains c)

def endsKey (flow : Bool) (after : List Char) : Bool :=
  match after with
  | [] => true
  | c :: _ => isBlank c || (flow && isFlowMark c)

/-! ## Text in quotes -/

def folded (lineEnds : Nat) : List Char :=
  if lineEnds = 1 then [' '] else List.replicate (lineEnds - 1) '\n'

def foldBlanks (run : List Char) : List Char :=
  let lineEnds := run.count '\n'
  if lineEnds = 0 then run else folded lineEnds

def takeEscape : List Char → Option (Char × List Char)
  | 'x' :: rest => Unicode.takeCode 2 rest
  | 'u' :: rest => Unicode.takeCode 4 rest
  | 'U' :: rest => Unicode.takeCode 8 rest
  | c :: rest =>
    let simple : List (Char × Char) := [('0', '\x00'), ('a', '\x07'), ('b', '\x08'), ('t', '\t'),
      ('\t', '\t'), ('n', '\n'), ('v', '\x0b'), ('f', '\x0c'), ('r', '\r'), ('e', '\x1b'),
      (' ', ' '), ('"', '"'), ('/', '/'), ('\\', '\\'), ('N', '\u0085'), ('_', '\u00a0'),
      ('L', '\u2028'), ('P', '\u2029')]
    (simple.lookup c).map fun escaped => (escaped, rest)
  | [] => none

/-- Text after its opening single quote. Two quotes in it stand for one. -/
def takeSingle : Nat → List Char → List Char → Option (List Char × List Char)
  | 0, _, _ => none
  | fuel + 1, read, text =>
    match text with
    | [] => none
    | '\'' :: '\'' :: rest => takeSingle fuel (read ++ ['\'']) rest
    | '\'' :: rest => some (read, rest)
    | c :: rest =>
      if isBlank c then
        takeSingle fuel (read ++ foldBlanks (text.takeWhile isBlank)) (text.dropWhile isBlank)
      else takeSingle fuel (read ++ [c]) rest

def takeDouble : Nat → List Char → List Char → Option (List Char × List Char)
  | 0, _, _ => none
  | fuel + 1, read, text =>
    match text with
    | [] => none
    | '"' :: rest => some (read, rest)
    | '\\' :: '\n' :: rest =>
      let lineEnds := (rest.takeWhile isBlank).count '\n'
      takeDouble fuel (read ++ List.replicate lineEnds '\n') (rest.dropWhile isBlank)
    | '\\' :: rest => do
      let (escaped, rest) ← takeEscape rest
      takeDouble fuel (read ++ [escaped]) rest
    | c :: rest =>
      if isBlank c then
        takeDouble fuel (read ++ foldBlanks (text.takeWhile isBlank)) (text.dropWhile isBlank)
      else takeDouble fuel (read ++ [c]) rest

def takeQuoted (text : List Char) : Option (List Char × List Char) :=
  match text with
  | '"' :: rest => takeDouble text.length [] rest
  | '\'' :: rest => takeSingle text.length [] rest
  | _ => none

/-! ## Properties of a node -/

structure Properties where
  anchor : Option String
  tag : Option String
  deriving DecidableEq, Repr

def endsProperty (c : Char) : Bool := isBlank c || isFlowMark c

def takeProperties : Nat → Properties → List Char → Properties × List Char
  | 0, properties, text => (properties, text)
  | fuel + 1, properties, text =>
    let word (rest : List Char) : String := .ofList (rest.takeWhile fun c => !endsProperty c)
    let after := (text.dropWhile fun c => !endsProperty c).dropWhile isSpace
    match text with
    | '&' :: rest => takeProperties fuel { properties with anchor := word rest } after
    | '!' :: _ => takeProperties fuel { properties with tag := word text } after
    | text => (properties, text)

end RefViewer.Yaml
