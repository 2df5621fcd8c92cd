import RefViewer.Unicode.Letter
import RefViewer.Query.Error

/-!
# Size limits

A query is measured before it is read, so that the later stages only see input of bounded
depth and length. The measure cuts the text into marks by rules of its own: a quoted text, a
word and every other character that is not blank is one mark.
-/

namespace RefViewer.Query.Size

/-- Deepest grouping, in open parentheses plus stacked negations. -/
def maxNesting : Nat := 64

def maxTokens : Nat := 512

inductive Mark where
  | opening
  | closing
  | negation
  | plain
  deriving DecidableEq, Repr

/-- What the characters read so far belong to. A word is kept in reverse order. -/
inductive Scan where
  | between
  | word (reversed : List Char)
  | exclamation
  | quoted (quote : Char)
  | escaped (quote : Char)
  deriving DecidableEq, Repr

def isWordChar (c : Char) : Bool := Unicode.isAlphanumeric c || c = '_'

def wordMark (reversed : List Char) : Mark :=
  if reversed.reverse.map Char.toLower = ['n', 'o', 't'] then .negation else .plain

namespace Scan

/-- The marks that are complete once `c` starts something new, and what `c` starts. -/
def start (c : Char) : List Mark × Scan :=
  if Unicode.isBlank c then ([], .between)
  else if c = '"' || c = '\'' then ([.plain], .quoted c)
  else if c = '(' then ([.opening], .between)
  else if c = ')' then ([.closing], .between)
  else if c = '!' then ([], .exclamation)
  else if isWordChar c then ([], .word [c])
  else ([.plain], .between)

def after (mark : Mark) (c : Char) : List Mark × Scan :=
  let (marks, scan) := start c
  (mark :: marks, scan)

def step (c : Char) : Scan → List Mark × Scan
  | .between => start c
  | .word reversed =>
    if isWordChar c then ([], .word (c :: reversed)) else after (wordMark reversed) c
  | .exclamation => after (if c = '=' then .plain else .negation) c
  | .quoted quote =>
    if c = '\\' then ([], .escaped quote)
    else if c = quote then ([], .between)
    else ([], .quoted quote)
  | .escaped quote => ([], .quoted quote)

def finish : Scan → List Mark
  | .word reversed => [wordMark reversed]
  | .exclamation => [.negation]
  | _ => []

end Scan

def marksFrom : Scan → List Char → List Mark
  | scan, [] => scan.finish
  | scan, c :: rest =>
    let (marks, next) := scan.step c
    marks ++ marksFrom next rest

def marks (text : String) : List Mark := marksFrom .between text.toList

structure Count where
  depth : Nat
  negations : Nat
  tokens : Nat
  deriving DecidableEq, Repr

/-- Negations stack until something other than an opening parenthesis ends them. -/
def Count.add (count : Count) (mark : Mark) : Count :=
  let tokens := count.tokens + 1
  match mark with
  | .opening => ⟨count.depth + 1, count.negations, tokens⟩
  | .closing => ⟨count.depth - 1, 0, tokens⟩
  | .negation => ⟨count.depth, count.negations + 1, tokens⟩
  | .plain => ⟨count.depth, 0, tokens⟩

def checkFrom (count : Count) : List Mark → Except Error Unit
  | [] => .ok ()
  | mark :: rest =>
    let next := count.add mark
    if maxNesting < next.depth + next.negations then .error .tooDeep
    else if maxTokens < next.tokens then .error .tooLong
    else checkFrom next rest

def check (text : String) : Except Error Unit := checkFrom ⟨0, 0, 0⟩ (marks text)

end RefViewer.Query.Size
