/-!
# Sets of code points

A set is a list of runs in increasing order. Tables write their runs as text: each word is
the gap since the run before and, when the run has more than one member, its length less
one, in base 36.
-/

namespace RefViewer.Unicode

def base36Digit (c : Char) : Nat :=
  if c.toNat < 58 then c.toNat - 48 else c.toNat - 87

def base36 (digits : List Char) : Nat :=
  digits.foldl (fun n c => 36 * n + base36Digit c) 0

def tableWords (text : String) : List (List Char) :=
  let split (c : Char) (words : List (List Char)) : List (List Char) :=
    if c.isWhitespace then [] :: words
    else match words with
      | [] => [[c]]
      | word :: rest => (c :: word) :: rest
  (text.toList.foldr split [[]]).filter fun word => !word.isEmpty

structure CodeRun where
  first : Nat
  last : Nat
  deriving Repr, DecidableEq

structure CodeSet where
  runs : List CodeRun
  deriving Repr, DecidableEq

namespace CodeSet

def empty : CodeSet := ⟨[]⟩

/-- Runs from their written words, given the first code point that no run has reached. -/
def runsOfWords (next : Nat) : List (List Char) → List CodeRun
  | [] => []
  | word :: rest =>
    let gap := base36 (word.takeWhile (· != '.'))
    let length := base36 ((word.dropWhile (· != '.')).drop 1)
    let run : CodeRun := ⟨next + gap, next + gap + length⟩
    run :: runsOfWords (run.last + 1) rest

def ofText (text : String) : CodeSet :=
  ⟨runsOfWords 0 (tableWords text)⟩

/-- The runs are in order, so the search ends at the first run that starts too late. -/
def memRuns (code : Nat) : List CodeRun → Bool
  | [] => false
  | run :: rest => run.first ≤ code && (code ≤ run.last || memRuns code rest)

def contains (set : CodeSet) (c : Char) : Bool := memRuns c.toNat set.runs

end CodeSet

end RefViewer.Unicode
