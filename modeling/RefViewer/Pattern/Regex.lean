import RefViewer.Pattern.CharClass

/-!
# Regular expressions

A regular expression is matched as a map between sets of positions: from the positions where
a match may begin to those where it may end. Which of several matches is preferred plays no
part, since only the existence of one is asked for.
-/

namespace RefViewer

inductive Assertion where
  | textStart
  | textEnd
  | lineStart
  | lineEnd
  | lineStartCrLf
  | lineEndCrLf
  | boundary (word : CharClass)
  | noBoundary (word : CharClass)
  | wordStart (word : CharClass)
  | wordEnd (word : CharClass)
  | noWordBefore (word : CharClass)
  | noWordAfter (word : CharClass)
  deriving DecidableEq, Repr

namespace Assertion

/-- A carriage return and the line feed after it end one line together. -/
def holdsBetween (before after : Option Char) : Assertion → Bool
  | .textStart => before.isNone
  | .textEnd => after.isNone
  | .lineStart => before.isNone || before = some '\n'
  | .lineEnd => after.isNone || after = some '\n'
  | .lineStartCrLf =>
    before.isNone || before = some '\n' || (before = some '\r' && after != some '\n')
  | .lineEndCrLf =>
    after.isNone || after = some '\r' || (after = some '\n' && before != some '\r')
  | .boundary word => before.any word.contains != after.any word.contains
  | .noBoundary word => before.any word.contains == after.any word.contains
  | .wordStart word => !before.any word.contains && after.any word.contains
  | .wordEnd word => before.any word.contains && !after.any word.contains
  | .noWordBefore word => !before.any word.contains
  | .noWordAfter word => !after.any word.contains

def holds (text : Array Char) (assertion : Assertion) (position : Nat) : Bool :=
  let before := if position = 0 then none else text[position - 1]?
  assertion.holdsBetween before text[position]?

end Assertion

inductive Regex where
  | empty
  | one (cls : CharClass)
  | assertion (condition : Assertion)
  | andThen (first second : Regex)
  | either (first second : Regex)
  /-- At least `least` times and at most `most` times, if there is a most. -/
  | repeated (inner : Regex) (least : Nat) (most : Option Nat)
  deriving DecidableEq, Repr

namespace Regex

def merge : List Nat → List Nat → List Nat
  | [], bs => bs
  | as, [] => as
  | a :: as, b :: bs =>
    if a < b then a :: merge as (b :: bs)
    else if b < a then b :: merge (a :: as) bs
    else a :: merge as bs

def times (step : List Nat → List Nat) : Nat → List Nat → List Nat
  | 0, positions => positions
  | n + 1, positions => if positions = [] then [] else times step n (step positions)

def upTo (step : List Nat → List Nat) : Nat → List Nat → List Nat
  | 0, positions => positions
  | n + 1, positions =>
    if positions = [] then [] else merge positions (upTo step n (step positions))

/-- The positions where a match that begins at one of `starts` may end. There are no more
than `text.size + 1` positions, so as many repetitions reach all there is to reach. -/
def ends (text : Array Char) : Regex → List Nat → List Nat
  | .empty, starts => starts
  | .one cls, starts =>
    starts.filterMap fun i => if text[i]?.any cls.contains then some (i + 1) else none
  | .assertion condition, starts => starts.filter (condition.holds text)
  | .andThen first second, starts => ends text second (ends text first starts)
  | .either first second, starts => merge (ends text first starts) (ends text second starts)
  | .repeated inner least most, starts =>
    let step := fun positions => ends text inner positions
    let more := match most with
      | some most => min (most - least) (text.size + 1)
      | none => text.size + 1
    upTo step more (times step least starts)

def matchesIn (regex : Regex) (text : String) : Bool :=
  let chars := text.toList.toArray
  regex.ends chars (List.range (chars.size + 1)) ≠ []

/-- An estimate of the automaton in states: counted repetitions are written out, and every run
of a class has a state. -/
def weight : Regex → Nat
  | .empty => 1
  | .one cls => max 1 cls.weight
  | .assertion _ => 1
  | .andThen first second => first.weight + second.weight
  | .either first second => first.weight + second.weight + 1
  | .repeated inner least most =>
    match most with
    | some most => inner.weight * least + (inner.weight + 1) * (most - least)
    | none => inner.weight * max 1 least + 1

/-- Heavier expressions are refused. Ten mebibytes is the documented limit, and with 33 bytes for
a state the class of the word characters takes more than 45000, as documented. How states are
laid out is not modelled, so near the limit this is an estimate. -/
def maxWeight : Nat := 10 * 1024 * 1024 / 33

end Regex

end RefViewer
