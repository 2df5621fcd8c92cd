import RefViewer.Proofs.Query.Written

/-!
# Phrases

A query as it stands in a text, down to the blanks between its tokens and the way each token is
written. A phrase has its characters and its reading. It is apart when no keyword in it runs into a
word beside it; other tokens cannot run into each other.
-/

namespace RefViewer.Query

open Reader (isGap)
open Grammar (WritesValue WritesSign WritesOperator isName isNameChar)

-- ---------------------------------------------------------------------------
-- Selectors and joints
-- ---------------------------------------------------------------------------

structure Selector where
  before : Gap
  after : Gap
  name : String
  valid : isName name.toList = true

def Selector.chars (selector : Selector) : List Char :=
  selector.before.chars ++ '.' :: (selector.after.chars ++ selector.name.toList)

structure Joint where
  before : Gap
  operator : Operator
  written : List Char
  writes : WritesOperator operator written
  after : Gap

namespace Joint

def chars (joint : Joint) : List Char :=
  joint.before.chars ++ (joint.written ++ joint.after.chars)

def isWord (joint : Joint) : Bool := joint.written.head?.any isNameChar

def Apart (joint : Joint) (endsInWord startsWord : Bool) : Prop :=
  joint.isWord = true →
    (joint.before.chars = [] → endsInWord = false) ∧ (joint.after.chars = [] → startsWord = false)

end Joint

-- ---------------------------------------------------------------------------
-- Phrases
-- ---------------------------------------------------------------------------

/-- The places of the grammar: an operand without its signs, one with them, operands joined by
operators, the arguments of a call, and what stands between two parentheses or commas, or alone. -/
inductive Grade where
  | core
  | operand
  | row
  | arguments
  | enclosed

inductive Phrase : Grade → Type
  | value (writes : WritesValue term written) : Phrase .core
  | group (inner : Phrase .enclosed) : Phrase .core
  | property (receiver : Phrase .core) (selector : Selector) : Phrase .core
  | bareCall (receiver : Phrase .core) (selector : Selector) (behind within : Gap) : Phrase .core
  | call (receiver : Phrase .core) (selector : Selector) (behind : Gap)
      (given : Phrase .arguments) : Phrase .core
  | last (argument : Phrase .enclosed) : Phrase .arguments
  | more (argument : Phrase .enclosed) (others : Phrase .arguments) : Phrase .arguments
  | bare (core : Phrase .core) : Phrase .operand
  | signed (writes : WritesSign sign written) (gap : Gap) (operand : Phrase .operand) :
      Phrase .operand
  | single (operand : Phrase .operand) : Phrase .row
  | joined (first : Phrase .operand) (joint : Joint) (others : Phrase .row) : Phrase .row
  | enclosed (before : Gap) (row : Phrase .row) (after : Gap) : Phrase .enclosed

abbrev Grade.Reading : Grade → Type
  | .core | .enclosed => Term
  | .operand => Operand
  | .row => Operand × List Link
  | .arguments => List Term

namespace Phrase

def chars : Phrase g → List Char
  | @value _ written _ => written
  | group inner => '(' :: (inner.chars ++ [')'])
  | property receiver selector => receiver.chars ++ selector.chars
  | bareCall receiver selector behind within =>
    receiver.chars ++ (selector.chars ++ (behind.chars ++ '(' :: (within.chars ++ [')'])))
  | call receiver selector behind given =>
    receiver.chars ++ (selector.chars ++ (behind.chars ++ '(' :: (given.chars ++ [')'])))
  | last argument => argument.chars
  | more argument others => argument.chars ++ ',' :: others.chars
  | bare core => core.chars
  | @signed _ written _ gap operand => written ++ (gap.chars ++ operand.chars)
  | single operand => operand.chars
  | joined first joint others => first.chars ++ (joint.chars ++ others.chars)
  | enclosed before row after => before.chars ++ (row.chars ++ after.chars)

def reading : Phrase g → g.Reading
  | @value term _ _ => term
  | group inner => .group inner.reading
  | property receiver selector => .property receiver.reading selector.name
  | bareCall receiver selector _ _ => .call receiver.reading selector.name []
  | call receiver selector _ given => .call receiver.reading selector.name given.reading
  | last argument => [argument.reading]
  | more argument others => argument.reading :: others.reading
  | bare core => ⟨[], core.reading⟩
  | @signed sign _ _ _ operand => ⟨sign :: operand.reading.signs, operand.reading.term⟩
  | single operand => (operand.reading, [])
  | joined first joint others =>
    (first.reading, ⟨joint.operator, others.reading.1⟩ :: others.reading.2)
  | enclosed _ row _ => Precedence.group row.reading.1 row.reading.2

def text (p : Phrase .enclosed) : String := .ofList p.chars

/-- Name characters stand at the front. A phrase that may begin with a gap is not asked. -/
def startsWord : Phrase g → Bool
  | @value _ written _ => written.head?.any isNameChar
  | property receiver _ | bareCall receiver _ _ _ | call receiver _ _ _ => receiver.startsWord
  | bare core => core.startsWord
  | @signed _ written _ _ _ => written.head?.any isNameChar
  | single first | joined first _ _ => first.startsWord
  | group _ | last _ | more _ _ | enclosed _ _ _ => false

def endsInWord : Phrase g → Bool
  | @value term _ _ => term.isWord
  | property _ _ => true
  | bare core => core.endsInWord
  | signed _ _ operand => operand.endsInWord
  | _ => false

def Apart : Phrase g → Prop
  | value _ => True
  | group inner => inner.Apart
  | property receiver _ | bareCall receiver _ _ _ => receiver.Apart
  | call receiver _ _ given => receiver.Apart ∧ given.Apart
  | last argument => argument.Apart
  | more argument others => argument.Apart ∧ others.Apart
  | bare core => core.Apart
  | @signed sign _ _ gap operand =>
    (sign = .not → gap.chars = [] → operand.startsWord = false) ∧ operand.Apart
  | single operand => operand.Apart
  | joined first joint others =>
    first.Apart ∧ joint.Apart first.endsInWord others.startsWord ∧ others.Apart
  | enclosed _ row _ => row.Apart

def nesting : Phrase g → Nat
  | value _ => 0
  | group inner => inner.nesting + 1
  | property receiver _ | bareCall receiver _ _ _ => receiver.nesting
  | call receiver _ _ given => max receiver.nesting (given.nesting + 1)
  | last argument => argument.nesting
  | more argument others => max argument.nesting others.nesting
  | bare core => core.nesting
  | signed _ _ operand => operand.nesting
  | single operand => operand.nesting
  | joined first _ others => max first.nesting others.nesting
  | enclosed _ row _ => row.nesting

theorem nesting_le (p : Phrase g) : p.nesting ≤ p.chars.length := by
  induction p with
  | value writes => exact Nat.zero_le _
  | _ =>
    simp only [nesting, chars, List.length_append, List.length_cons]
    omega

end Phrase

end RefViewer.Query
