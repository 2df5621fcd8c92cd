import RefViewer.Unicode.Letter

/-!
# Character classes

A class is a Boolean combination of runs of characters. Folding closes a class under change
of case: either over all of Unicode or over the ASCII letters only.
-/

namespace RefViewer

inductive CharClass where
  | none
  | range (first last : Nat)
  | set (codes : Unicode.CodeSet)
  | union (a b : CharClass)
  | intersection (a b : CharClass)
  | difference (a b : CharClass)
  | symmetricDifference (a b : CharClass)
  | complement (a : CharClass)
  | folded (a : CharClass)
  | foldedAscii (a : CharClass)
  deriving DecidableEq, Repr

namespace CharClass

def sourcesIn (target : Nat) (run : Unicode.ShiftRun) : List Nat :=
  let code := (target - run.distance).toNat
  if run.first ≤ code && code ≤ run.last && (code - run.first) % run.step = 0 then [code] else []

def caseVariants (c : Char) : List Char :=
  let least := Unicode.foldCase c
  least :: (Unicode.CaseTable.fold.runs.flatMap (sourcesIn least.toNat)).map Char.ofNat

def asciiVariants (c : Char) : List Char := [c, c.toLower, c.toUpper]

def contains : CharClass → Char → Bool
  | .none, _ => false
  | .range first last, c => first ≤ c.toNat && c.toNat ≤ last
  | .set codes, c => codes.contains c
  | .union a b, c => a.contains c || b.contains c
  | .intersection a b, c => a.contains c && b.contains c
  | .difference a b, c => a.contains c && !b.contains c
  | .symmetricDifference a b, c => a.contains c != b.contains c
  | .complement a, c => !a.contains c
  | .folded a, c => (caseVariants c).any a.contains
  | .foldedAscii a, c => (asciiVariants c).any a.contains

def single (c : Char) : CharClass := .range c.toNat c.toNat

def unionAll (classes : List CharClass) : CharClass := classes.foldl .union .none

def any : CharClass := .range 0 0x10ffff

def ofSets (sets : List Unicode.CodeSet) : CharClass := unionAll (sets.map .set)

open Unicode in
def word : CharClass :=
  ofSets [Property.alphabetic.set, Category.mn.set, Category.mc.set, Category.me.set,
    Category.nd.set, Category.pc.set, Property.joinControl.set]

def asciiWord : CharClass :=
  unionAll [.range 0x30 0x39, .range 0x41 0x5a, .range 0x5f 0x5f, .range 0x61 0x7a]

def digit : CharClass := .set Unicode.Category.nd.set

def asciiDigit : CharClass := .range 0x30 0x39

def blank : CharClass := .set Unicode.Property.whiteSpace.set

def asciiBlank : CharClass := .union (.range 9 13) (.range 32 32)

def asciiNamed? (name : String) : Option CharClass :=
  match name with
  | "alnum" => some (unionAll [.range 0x30 0x39, .range 0x41 0x5a, .range 0x61 0x7a])
  | "alpha" => some (.union (.range 0x41 0x5a) (.range 0x61 0x7a))
  | "ascii" => some (.range 0 0x7f)
  | "blank" => some (.union (.range 9 9) (.range 32 32))
  | "cntrl" => some (.union (.range 0 0x1f) (.range 0x7f 0x7f))
  | "digit" => some asciiDigit
  | "graph" => some (.range 0x21 0x7e)
  | "lower" => some (.range 0x61 0x7a)
  | "print" => some (.range 0x20 0x7e)
  | "punct" =>
    some (unionAll [.range 0x21 0x2f, .range 0x3a 0x40, .range 0x5b 0x60, .range 0x7b 0x7e])
  | "space" => some asciiBlank
  | "upper" => some (.range 0x41 0x5a)
  | "word" => some asciiWord
  | "xdigit" => some (unionAll [.range 0x30 0x39, .range 0x41 0x46, .range 0x61 0x66])
  | _ => .none

def weight : CharClass → Nat
  | .none => 0
  | .range _ _ => 1
  | .set codes => codes.runs.length
  | .union a b | .intersection a b | .difference a b | .symmetricDifference a b =>
    a.weight + b.weight
  | .complement a => a.weight + 1
  | .folded a | .foldedAscii a => 2 * a.weight

end CharClass

end RefViewer
