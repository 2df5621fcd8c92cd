import RefViewer.Query.Error

/-!
# Readers

A reader takes what it can from the front of a text. Besides its outcome it reports misses:
the furthest place at which a named rule did not fit, and the rules that were tried there.
A rule that fails where it began reports itself in place of several rules tried inside it.
-/

namespace RefViewer.Query

/-- A place is given by the number of characters left. Without rules nothing was missed. -/
structure Misses where
  left : Nat
  rules : List Rule
  deriving DecidableEq, Repr

namespace Misses

def none : Misses := ⟨0, []⟩

/-- The misses further on are kept; at one place both are. -/
def and (a b : Misses) : Misses :=
  if a.rules = [] then b
  else if b.rules = [] then a
  else if a.left < b.left then a
  else if b.left < a.left then b
  else ⟨a.left, a.rules ++ b.rules⟩

/-- Misses of a rule that failed with `left` characters left, from those inside it. -/
def inside (rule : Rule) (left : Nat) (inner : Misses) : Misses :=
  if inner.rules = [] || left < inner.left then ⟨left, [rule]⟩
  else if inner.left < left then inner
  else if inner.rules.length = 1 then inner
  else ⟨left, [rule]⟩

end Misses

structure Reading (α : Type) where
  outcome : Option (α × List Char)
  misses : Misses

def Reader (α : Type) : Type := List Char → Reading α

namespace Reader

def read (p : Reader α) (text : List Char) : Reading α := p text

def succeed (a : α) : Reader α := fun text => ⟨some (a, text), .none⟩

def fail : Reader α := fun _ => ⟨none, .none⟩

def andThen (p : Reader α) (next : α → Reader β) : Reader β := fun text =>
  match p text with
  | ⟨none, misses⟩ => ⟨none, misses⟩
  | ⟨some (a, rest), misses⟩ =>
    let second := next a rest
    ⟨second.outcome, misses.and second.misses⟩

instance : Monad Reader where
  pure := succeed
  bind := andThen

def or (p q : Reader α) : Reader α := fun text =>
  match p text with
  | ⟨some outcome, misses⟩ => ⟨some outcome, misses⟩
  | ⟨none, misses⟩ =>
    let second := q text
    ⟨second.outcome, misses.and second.misses⟩

def firstOf (readers : List (Reader α)) : Reader α := readers.foldr or fail

def manyUpTo (p : Reader α) : Nat → Reader (List α)
  | 0 => pure []
  | fuel + 1 =>
    or (do let first ← p; let rest ← manyUpTo p fuel; pure (first :: rest)) (pure [])

/-- As many as fit. A reader that takes at least one character fits no more often than the
text is long, and then misses once more. -/
def many (p : Reader α) : Reader (List α) := fun text => manyUpTo p (text.length + 1) text

def named (rule : Rule) (p : Reader α) : Reader α := fun text =>
  match p text with
  | ⟨some outcome, misses⟩ => ⟨some outcome, misses⟩
  | ⟨none, misses⟩ => ⟨none, misses.inside rule text.length⟩

def isGap (c : Char) : Bool := c = ' ' || c = '\t' || c = '\r' || c = '\n'

def skipGap : Reader Unit := fun text => ⟨some ((), text.dropWhile isGap), .none⟩

def lexeme (take : List Char → Option (α × List Char)) : Reader α := fun text =>
  ⟨(take text).map fun (a, rest) => (a, rest.dropWhile isGap), .none⟩

def takeText (expected : List Char) (text : List Char) : Option (Unit × List Char) :=
  if expected.isPrefixOf text then some ((), text.drop expected.length) else none

/-- A symbol that error messages do not name. -/
def symbol (text : String) : Reader Unit := lexeme (takeText text.toList)

def notBefore (c : Char) : Reader Unit := fun text =>
  ⟨if text.head? = some c then none else some ((), text), .none⟩

end Reader

end RefViewer.Query
