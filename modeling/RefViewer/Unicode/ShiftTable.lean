import RefViewer.Unicode.CodeSet

/-!
# Tables of shifts

A map from code points to code points that moves each run by one distance. A run takes
every code point or every other one. The written form of a run is its gap, the number of its
members less one, and the distance, in base 36; `:` in place of the second point says every
other code point.
-/

namespace RefViewer.Unicode

structure ShiftRun where
  first : Nat
  last : Nat
  step : Nat
  distance : Int
  deriving Repr, DecidableEq

structure ShiftTable where
  runs : List ShiftRun
  deriving Repr, DecidableEq

namespace ShiftTable

def readDistance : List Char → Int
  | '-' :: digits => -(base36 digits : Int)
  | digits => base36 digits

def readRun (next : Nat) (word : List Char) : ShiftRun :=
  let first := next + base36 (word.takeWhile (· != '.'))
  let rest := (word.dropWhile (· != '.')).drop 1
  let count := base36 (rest.takeWhile fun c => c != '.' && c != ':')
  let tail := rest.dropWhile fun c => c != '.' && c != ':'
  let step := if tail.head? = some ':' then 2 else 1
  ⟨first, first + step * count, step, readDistance (tail.drop 1)⟩

def runsOfWords (next : Nat) : List (List Char) → List ShiftRun
  | [] => []
  | word :: rest =>
    let run := readRun next word
    run :: runsOfWords (run.last + 1) rest

def ofText (text : String) : ShiftTable :=
  ⟨runsOfWords 0 (tableWords text)⟩

def shiftRuns (code : Nat) : List ShiftRun → Nat
  | [] => code
  | run :: rest =>
    if code < run.first then code
    else if code ≤ run.last then
      if (code - run.first) % run.step = 0 then (code + run.distance).toNat else code
    else shiftRuns code rest

def shift (table : ShiftTable) (c : Char) : Char :=
  Char.ofNat (shiftRuns c.toNat table.runs)

end ShiftTable

end RefViewer.Unicode
