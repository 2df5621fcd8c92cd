import RefViewer.Toml.Scalar
import RefViewer.Toml.Text

/-!
# Reading settings documents

One statement to a line: a key with its value, or a header. Lists and inline tables may go
over several lines, with comments, and may end with a comma.
-/

namespace RefViewer.Toml

/-- Skips blanks, line ends and comments. The argument tells whether a comment is open. -/
def skipLines : Bool → List Char → Option (List Char)
  | _, [] => some []
  | _, '\n' :: rest => skipLines false rest
  | _, '\r' :: '\n' :: rest => skipLines false rest
  | true, c :: rest => if isPlain c then skipLines true rest else none
  | false, '#' :: rest => skipLines true rest
  | false, c :: rest => if isSpace c then skipLines false rest else some (c :: rest)

def isBare (c : Char) : Bool := c.isAlphanum || c = '_' || c = '-'

def takeKey (text : List Char) : Option (String × List Char) :=
  match text.takeWhile isBare with
  | [] => takeLineString text
  | key => some (.ofList key, text.dropWhile isBare)

def takePath : Nat → List Char → Option ((List String × String) × List Char)
  | 0, _ => none
  | fuel + 1, text => do
    let (key, rest) ← takeKey (skipSpaces text)
    match skipSpaces rest with
    | '.' :: rest => do
      let ((path, last), rest) ← takePath fuel rest
      return ((key :: path, last), rest)
    | rest => return (([], key), rest)

mutual

def takeValue : Nat → List Char → Option (Value × List Char)
  | 0, _ => none
  | fuel + 1, text =>
    match text with
    | '[' :: rest => do takeItems fuel [] (← skipLines false rest)
    | '\x7b' :: rest => do takeInline fuel [] (← skipLines false rest)
    | '"' :: _ | '\'' :: _ => do
      let (s, rest) ← takeString text
      return (.text s, rest)
    | text => do
      let (word, rest) := takeWord text
      return (← word? word, rest)

def takeItems : Nat → List Value → List Char → Option (Value × List Char)
  | 0, _, _ => none
  | _ + 1, read, ']' :: rest => some (.list read.reverse, rest)
  | fuel + 1, read, text => do
    let (item, rest) ← takeValue fuel text
    match ← skipLines false rest with
    | ',' :: rest => takeItems fuel (item :: read) (← skipLines false rest)
    | ']' :: rest => return (.list (item :: read).reverse, rest)
    | _ => none

def takeInline : Nat → Entries → List Char → Option (Value × List Char)
  | 0, _, _ => none
  | fuel + 1, entries, text =>
    match text with
    | '\x7d' :: rest => some (.inline entries, rest)
    | text => do
      let ((path, key), rest) ← takePath fuel text
      let rest ← Instant.takeChar ['='] rest
      let (value, rest) ← takeValue fuel (skipSpaces rest)
      let entries ← entries.assign path key value .opened
      match ← skipLines false rest with
      | ',' :: rest => takeInline fuel entries (← skipLines false rest)
      | '\x7d' :: rest => return (.inline entries, rest)
      | _ => none

end

structure Document where
  root : Entries
  header : List String

namespace Document

def empty : Document := ⟨[], []⟩

def takeHeader (document : Document) (text : List Char) : Option (Document × List Char) :=
  match text with
  | '[' :: rest => do
    let ((path, key), rest) ← takePath rest.length rest
    match rest with
    | ']' :: ']' :: rest => return (⟨← document.root.openNext path key, path ++ [key]⟩, rest)
    | _ => none
  | text => do
    let ((path, key), rest) ← takePath text.length text
    let rest ← Instant.takeChar [']'] rest
    return (⟨← document.root.openTable path key, path ++ [key]⟩, rest)

def takeAssignment (document : Document) (text : List Char) : Option (Document × List Char) := do
  let ((path, key), rest) ← takePath text.length text
  let rest ← Instant.takeChar ['='] rest
  let (value, rest) ← takeValue (2 * rest.length + 2) (skipSpaces rest)
  let root ← document.root.within .implied (fun kind table => table.assign path key value kind)
    document.header .opened
  return ({ document with root }, rest)

def endsStatement (text : List Char) : Bool :=
  match text with
  | [] => true
  | '#' :: _ => true
  | text => (lineEnd? text).isSome

def readStatements : Nat → Document → List Char → Option Document
  | 0, _, _ => none
  | fuel + 1, document, text => do
    match ← skipLines false text with
    | [] => return document
    | '[' :: rest => do
      let (document, rest) ← document.takeHeader rest
      let rest := skipSpaces rest
      if endsStatement rest then readStatements fuel document rest else none
    | text => do
      let (document, rest) ← document.takeAssignment text
      let rest := skipSpaces rest
      if endsStatement rest then readStatements fuel document rest else none

end Document

def read? (text : String) : Option Entries :=
  let text := text.toList
  (Document.empty.readStatements (text.length + 1) text).map Document.root

end RefViewer.Toml
