import RefViewer.Unicode.CodePoint

/-!
# Strings in settings documents

Four kinds of string: basic ones with escapes and literal ones without, each on one line or
on several. A line end right after the opening quotes of several lines does not count, and a
backslash at the end of a line takes all blanks and line ends after it away.
-/

namespace RefViewer.Toml

def isPlain (c : Char) : Bool := c = '\t' || (' ' ≤ c && c ≠ '\x7f')

def isSpace (c : Char) : Bool := c = ' ' || c = '\t'

def takeEscape : List Char → Option (Char × List Char)
  | 'b' :: rest => some ('\x08', rest)
  | 't' :: rest => some ('\t', rest)
  | 'n' :: rest => some ('\n', rest)
  | 'f' :: rest => some ('\x0c', rest)
  | 'r' :: rest => some ('\r', rest)
  | 'e' :: rest => some ('\x1b', rest)
  | '"' :: rest => some ('"', rest)
  | '\\' :: rest => some ('\\', rest)
  | 'x' :: rest => Unicode.takeCode 2 rest
  | 'u' :: rest => Unicode.takeCode 4 rest
  | 'U' :: rest => Unicode.takeCode 8 rest
  | _ => none

def literalString (read : List Char) : List Char → Option (String × List Char)
  | [] => none
  | c :: rest =>
    if c = '\'' then some (.ofList read.reverse, rest)
    else if isPlain c then literalString (c :: read) rest
    else none

def basicString : Nat → List Char → List Char → Option (String × List Char)
  | 0, _, _ => none
  | _ + 1, _, [] => none
  | fuel + 1, read, c :: rest =>
    if c = '"' then some (.ofList read.reverse, rest)
    else if c = '\\' then do
      let (escaped, rest) ← takeEscape rest
      basicString fuel (escaped :: read) rest
    else if isPlain c then basicString fuel (c :: read) rest
    else none

/-- Three quotes end a string of several lines; up to two more belong to it. -/
def closing? (quote : Char) (text : List Char) : Option (List Char × List Char) :=
  let count := (text.takeWhile (· = quote)).length
  if count < 3 then none
  else
    let extra := min (count - 3) 2
    some (List.replicate extra quote, text.drop (extra + 3))

def lineEnd? : List Char → Option (List Char)
  | '\n' :: rest => some rest
  | '\r' :: '\n' :: rest => some rest
  | _ => none

def skipLineEnd (text : List Char) : List Char := (lineEnd? text).getD text

def literalLines : Nat → List Char → List Char → Option (String × List Char)
  | 0, _, _ => none
  | fuel + 1, read, text =>
    match closing? '\'' text with
    | some (extra, rest) => some (.ofList (read.reverse ++ extra), rest)
    | none =>
      match lineEnd? text, text with
      | some rest, _ => literalLines fuel ('\n' :: read) rest
      | none, c :: rest => if isPlain c then literalLines fuel (c :: read) rest else none
      | none, [] => none

def skipSpaces (text : List Char) : List Char := text.dropWhile isSpace

def skipFold : Nat → List Char → List Char
  | 0, text => text
  | fuel + 1, text =>
    match lineEnd? (skipSpaces text) with
    | some rest => skipFold fuel rest
    | none => skipSpaces text

def basicLines : Nat → List Char → List Char → Option (String × List Char)
  | 0, _, _ => none
  | fuel + 1, read, text =>
    match closing? '"' text with
    | some (extra, rest) => some (.ofList (read.reverse ++ extra), rest)
    | none =>
      match lineEnd? text, text with
      | some rest, _ => basicLines fuel ('\n' :: read) rest
      | none, '\\' :: rest =>
        match lineEnd? (skipSpaces rest) with
        | some folded => basicLines fuel read (skipFold folded.length folded)
        | none => do
          let (escaped, rest) ← takeEscape rest
          basicLines fuel (escaped :: read) rest
      | none, c :: rest => if isPlain c then basicLines fuel (c :: read) rest else none
      | none, [] => none

def takeLineString : List Char → Option (String × List Char)
  | '"' :: rest => basicString (rest.length + 1) [] rest
  | '\'' :: rest => literalString [] rest
  | _ => none

def takeString : List Char → Option (String × List Char)
  | '"' :: '"' :: '"' :: rest =>
    let rest := skipLineEnd rest
    basicLines (rest.length + 1) [] rest
  | '\'' :: '\'' :: '\'' :: rest =>
    let rest := skipLineEnd rest
    literalLines (rest.length + 1) [] rest
  | text => takeLineString text

end RefViewer.Toml
