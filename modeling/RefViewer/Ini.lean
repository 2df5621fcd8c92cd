import RefViewer.Unicode.CodePoint
import RefViewer.Unicode.Letter

/-!
# Sectioned settings

Keys with values, line by line, under section headers. A comment has a line for itself and
starts it. Values are text: blanks around them do not count, and a value may begin with
parts in quotes, in which blanks and line ends do count.
-/

namespace RefViewer.Ini

structure Document where
  /-- What stands before the first header. -/
  general : List (String × String)
  /-- The sections, the last one first. -/
  sections : List (String × List (String × String))
  deriving DecidableEq, Repr

namespace Document

def empty : Document := ⟨[], []⟩

def put (document : Document) (key value : String) : Document :=
  match document.sections with
  | [] => { document with general := document.general ++ [(key, value)] }
  | (name, entries) :: before =>
    { document with sections := (name, entries ++ [(key, value)]) :: before }

end Document

/-- What a backslash stands for. Before a line end it takes the line end away. -/
def takeEscape : List Char → Option (List Char × List Char)
  | [] => none
  | '0' :: rest => some (['\x00'], rest)
  | 'a' :: rest => some (['\x07'], rest)
  | 'b' :: rest => some (['\x08'], rest)
  | 't' :: rest => some (['\t'], rest)
  | 'r' :: rest => some (['\r'], rest)
  | 'n' :: rest => some (['\n'], rest)
  | '\n' :: rest => some ([], rest)
  | 'x' :: rest => do
    let (c, rest) ← Unicode.takeCode 4 rest
    return ([c], rest)
  | c :: rest => some ([c], rest)

def takeUntil (ends : Char → Bool) : Nat → List Char → List Char → Option (List Char × List Char)
  | 0, _, _ => none
  | _ + 1, read, [] => some (read.reverse, [])
  | fuel + 1, read, c :: rest =>
    if ends c then some (read.reverse, c :: rest)
    else if c = '\\' then do
      let (escaped, rest) ← takeEscape rest
      takeUntil ends fuel (escaped.reverse ++ read) rest
    else takeUntil ends fuel (c :: read) rest

def takeBefore (ends : Char → Bool) (text : List Char) : Option (List Char × List Char) := do
  let (read, rest) ← takeUntil ends (text.length + 1) [] text
  match rest with
  | _ :: rest => return (read, rest)
  | [] => none

def endsLine (c : Char) : Bool := c = '\n' || c = '\r'

def isQuote (c : Char) : Bool := c = '"' || c = '\''

/-- The rest of a line, without the blanks at its end. -/
def takeLine (text : List Char) : Option (List Char × List Char) := do
  let (line, rest) ← takeUntil endsLine (text.length + 1) [] text
  return ((line.reverse.dropWhile Unicode.isBlank).reverse, rest)

def takeParts (read : List Char) : Nat → List Char → Option (List Char × List Char)
  | 0, _ => none
  | _ + 1, [] => some (read, [])
  | fuel + 1, c :: rest =>
    if isQuote c then do
      let (part, rest) ← takeBefore (· = c) rest
      takeParts (read ++ part) fuel rest
    else do
      let (line, rest) ← takeLine (c :: rest)
      return (read ++ line, rest)

/-- A value after its mark. Blanks at its start count only in quotes, even if escaped. -/
def takeValue (text : List Char) : Option (List Char × List Char) :=
  if text.head?.any isQuote then takeParts [] (text.length + 1) text
  else (takeLine text).map fun (line, rest) => (Unicode.trimStartChars line, rest)

def isInlineBlank (c : Char) : Bool := Unicode.isBlank c && !endsLine c

/-- Skips blanks and line ends, and tells whether what follows starts its line. -/
def skipBlanks : Bool → List Char → Bool × List Char
  | starts, [] => (starts, [])
  | starts, c :: rest =>
    if Unicode.isBlank c then skipBlanks (c = '\n') rest else (starts, c :: rest)

def skipComment (text : List Char) : List Char := (text.dropWhile (· ≠ '\n')).drop 1

def trimmed (text : List Char) : String := .ofList (Unicode.trimChars text)

def readLines : Nat → Document → Bool → List Char → Option Document
  | 0, _, _, _ => none
  | fuel + 1, document, starts, text =>
    let (starts, text) := skipBlanks starts text
    match text with
    | [] => some document
    | c :: rest =>
      if c = ';' || c = '#' then
        if starts then readLines fuel document true (skipComment rest) else none
      else if c = '[' then do
        let (name, rest) ← takeBefore (· = ']') rest
        readLines fuel { document with sections := (trimmed name, []) :: document.sections }
          false rest
      else do
        let (key, rest) ← takeBefore (fun c => c = '=' || c = ':') text
        let (value, rest) ← takeValue (rest.dropWhile isInlineBlank)
        if trimmed key = "" then none
        else readLines fuel (document.put (trimmed key) (.ofList value)) false rest

def read? (text : String) : Option Document :=
  let text := text.toList
  readLines (text.length + 1) .empty true text

end RefViewer.Ini
