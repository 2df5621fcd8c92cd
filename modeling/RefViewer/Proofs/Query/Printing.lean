import RefViewer.Proofs.Query.Literals
import RefViewer.Proofs.Query.Rows
import RefViewer.Query.Compiled

/-!
# Printing expressions

An expression is printed with parentheses only where the order of operators and signs asks for
them. The printer has that order as it is documented, and the levels of the parser agree with
it. What is printed is read back as the expression, whatever spelling the printer chooses: which quotes, which text
for an operator, which sign for a negation, and whether a text test is written as an operator
or as a call.
-/

namespace RefViewer.Query

open Grammar (Quote)

-- ---------------------------------------------------------------------------
-- The printer
-- ---------------------------------------------------------------------------

structure Style extends Spelling where
  /-- The sign for the negation of an expression. -/
  sign : Expr → Sign
  /-- Whether a test of text is written as a call. -/
  called : Expr → Bool

def Comparison.operator : Comparison → Operator
  | .eq => .eq
  | .ne => .ne
  | .lt => .lt
  | .le => .le
  | .gt => .gt
  | .ge => .ge

def TextTest.operator : TextTest → Operator
  | .contains => .contains
  | .startsWith => .startsWith
  | .endsWith => .endsWith

def TextTest.method : TextTest → String
  | .contains => "contains"
  | .startsWith => "startsWith"
  | .endsWith => "endsWith"

def LetterCase.method : LetterCase → String
  | .lower => "toLowerCase"
  | .upper => "toUpperCase"

/-- The printer's own order, from the loosest: `or`, `and`, `not`, equality, relations and
tests of text, `!`, and last what needs no parentheses anywhere. -/
def Operator.rank : Operator → Nat
  | .or => 0
  | .and => 1
  | .eq | .ne => 3
  | .lt | .le | .gt | .ge => 4
  | .contains | .startsWith | .endsWith | .matches => 4

def Sign.rank : Sign → Nat
  | .not => 2
  | .bang => 5

def tightest : Nat := 6

def Term.rank : Term → Nat
  | .signed sign _ => sign.rank
  | .binary op _ _ => op.rank
  | _ => tightest

def Term.within (rank : Nat) (term : Term) : Term :=
  if term.rank < rank then .group term else term

/-- Equal ranks group to the left, so only the right side has to be tighter. -/
def Term.join (op : Operator) (lhs rhs : Term) : Term :=
  .binary op (lhs.within op.rank) (rhs.within (op.rank + 1))

def Literal.term (quote : Quote) : Literal → Term
  | .null => .null
  | .bool b => .boolean b
  | .number n => .number n.toText.toList
  | .string s => .string (escape quote s.toList)

namespace Expr

def term (style : Style) : Expr → Term
  | .literal value => value.term style.quote
  | .field f => .name f.text
  | .not operand =>
    .signed (style.sign operand) ((operand.term style).within (style.sign operand).rank)
  | .and lhs rhs => .join .and (lhs.term style) (rhs.term style)
  | .or lhs rhs => .join .or (lhs.term style) (rhs.term style)
  | .compare comparison lhs rhs => .join comparison.operator (lhs.term style) (rhs.term style)
  | .text test lhs rhs =>
    if style.called (.text test lhs rhs) then
      .call ((lhs.term style).within tightest) test.method [rhs.term style]
    else .join test.operator (lhs.term style) (rhs.term style)
  | .matches subject pattern =>
    let written := (Literal.string pattern.source).term style.quote
    if style.called (.matches subject pattern) then
      .call ((subject.term style).within tightest) "matches" [written]
    else .join .matches (subject.term style) written
  | .length subject => .property ((subject.term style).within tightest) "length"
  | .convert case subject => .call ((subject.term style).within tightest) case.method []

def print (style : Style) (e : Expr) : String := .ofList ((e.term style).write style.toSpelling)

def numbers : Expr → List Number
  | .literal (.number n) => [n]
  | .literal _ | .field _ => []
  | .not operand => operand.numbers
  | .and lhs rhs | .or lhs rhs | .compare _ lhs rhs | .text _ lhs rhs => lhs.numbers ++ rhs.numbers
  | .matches subject _ | .length subject | .convert _ subject => subject.numbers

end Expr

-- ---------------------------------------------------------------------------
-- The printer's order is the parser's
-- ---------------------------------------------------------------------------

theorem Operator.level_eq (op : Operator) : op.level = op.rank + 1 := by
  cases op <;> rfl

theorem Sign.level_eq (sign : Sign) : sign.level = sign.rank + 1 := by
  cases sign <;> rfl

theorem Term.level_eq (term : Term) : term.level = term.rank + 1 := by
  cases term with
  | signed sign _ => exact sign.level_eq
  | binary op _ _ => exact op.level_eq
  | _ => rfl

theorem Operator.rank_lt_tightest (op : Operator) : op.rank < tightest := by
  cases op <;> decide

theorem Sign.rank_lt_tightest (sign : Sign) : sign.rank < tightest := by
  cases sign <;> decide

-- ---------------------------------------------------------------------------
-- What is printed is writable
-- ---------------------------------------------------------------------------

namespace Term

theorem level_le_closest (term : Term) : term.level ≤ closest := by
  cases term with
  | signed sign _ => exact Nat.le_of_lt sign.level_lt_closest
  | binary op _ _ => exact Nat.le_of_lt op.level_lt_closest
  | _ => exact Nat.le_refl _

theorem lt_level_within {least : Nat} (term : Term) (le : least ≤ tightest) :
    least < (term.within least).level := by
  rw [level_eq, Nat.lt_succ_iff, within]
  split
  · exact le
  · next h => exact Nat.not_lt.mp h

theorem level_within_tightest (term : Term) : (term.within tightest).level = closest :=
  Nat.le_antisymm (level_le_closest _) (lt_level_within term (Nat.le_refl _))

theorem Writable.within (writable : Writable quote term) (rank : Nat) :
    Writable quote (term.within rank) := by
  unfold Term.within
  split
  · exact .group writable
  · exact writable

theorem Writable.join (op : Operator) (left : Writable quote lhs) (right : Writable quote rhs) :
    Writable quote (Term.join op lhs rhs) := by
  refine .binary (left.within _) (right.within _) ?_ ?_
  · rw [op.level_eq]
    exact lt_level_within lhs (Nat.le_of_lt op.rank_lt_tightest)
  · rw [op.level_eq]
    exact lt_level_within rhs op.rank_lt_tightest

end Term

theorem Literal.writable_term (quote : Quote) (value : Literal)
    (finite : ∀ n, value = .number n → ∃ negative units, n = .finite negative units) :
    Term.Writable quote (value.term quote) := by
  cases value with
  | null => exact .null
  | bool b => exact .boolean b
  | number n =>
    obtain ⟨negative, units, rfl⟩ := finite n rfl
    exact .number (Number.numberToken_toText negative units)
  | string text => exact .string (escaped_escape quote _)

theorem Expr.writable_term (style : Style) (e : Expr)
    (readable : ∀ n ∈ e.numbers, n.Readable) :
    Term.Writable style.quote (e.term style) := by
  induction e with
  | literal value =>
    refine value.writable_term style.quote fun n hn => ?_
    subst hn
    exact (readable n List.mem_cons_self).1
  | field f => cases f <;> exact .name (by decide) (by decide)
  | not operand ih =>
    refine .signed ((ih readable).within _) ?_
    rw [Sign.level_eq]
    exact Term.lt_level_within _ (Nat.le_of_lt (Sign.rank_lt_tightest _))
  | and lhs rhs ihl ihr =>
    obtain ⟨left, right⟩ := List.forall_mem_append.mp readable
    exact .join .and (ihl left) (ihr right)
  | or lhs rhs ihl ihr =>
    obtain ⟨left, right⟩ := List.forall_mem_append.mp readable
    exact .join .or (ihl left) (ihr right)
  | compare comparison lhs rhs ihl ihr =>
    obtain ⟨left, right⟩ := List.forall_mem_append.mp readable
    exact .join comparison.operator (ihl left) (ihr right)
  | text test lhs rhs ihl ihr =>
    obtain ⟨left, right⟩ := List.forall_mem_append.mp readable
    unfold term
    split
    · refine .call ((ihl left).within _) (Term.level_within_tightest _)
        (by cases test <;> decide) ?_
      intro a ha
      rw [List.mem_singleton.mp ha]
      exact ihr right
    · exact .join test.operator (ihl left) (ihr right)
  | «matches» subject pattern ih =>
    have written : Term.Writable style.quote ((Literal.string pattern.source).term style.quote) :=
      Literal.writable_term _ _ fun n hn => by cases hn
    unfold term
    simp only
    split
    · refine .call ((ih readable).within _) (Term.level_within_tightest _) (by decide) ?_
      intro a ha
      rw [List.mem_singleton.mp ha]
      exact written
    · exact .join .matches (ih readable) written
  | length subject ih =>
    exact .property ((ih readable).within _) (Term.level_within_tightest _) (by decide)
  | convert case subject ih =>
    exact .call ((ih readable).within _) (Term.level_within_tightest _)
      (by cases case <;> decide) fun a ha => absurd ha List.not_mem_nil

-- ---------------------------------------------------------------------------
-- What is printed resolves to the expression
-- ---------------------------------------------------------------------------

theorem Term.resolve_within (rank : Nat) (term : Term) :
    (term.within rank).resolve = term.resolve := by
  unfold within
  split
  · rw [resolve]
  · rfl

theorem Term.resolve_join {lhs rhs : Term} (op : Operator) (left : lhs.resolve = .ok a)
    (right : rhs.resolve = .ok b) : (join op lhs rhs).resolve = applyOperator a b op := by
  rw [join, resolve, resolve_within, resolve_within, left, right]
  rfl

theorem Literal.resolve_term (quote : Quote) (value : Literal)
    (readable : ∀ n, value = .number n → Number.ofText? n.toText = some n) :
    (value.term quote).resolve = .ok (.literal value) := by
  cases value with
  | null => rfl
  | bool b => rfl
  | number n =>
    rw [term, Term.resolve, String.ofList_toList, readable n rfl]
    rfl
  | string text => rw [term, Term.resolve, unescape_escape, String.ofList_toList]

theorem Comparison.applyOperator_operator (comparison : Comparison) (a b : Expr) :
    Term.applyOperator a b comparison.operator = .ok (.compare comparison a b) := by
  cases comparison <;> rfl

theorem TextTest.applyOperator_operator (test : TextTest) (a b : Expr) :
    Term.applyOperator a b test.operator = .ok (.text test a b) := by
  cases test <;> rfl

theorem applyOperator_matches (a : Expr) (pattern : Pattern) :
    Term.applyOperator a (.literal (.string pattern.source)) .matches =
      .ok (.matches a pattern) := by
  rw [Term.applyOperator, Term.patternOf, Pattern.ofText?_source]
  rfl

theorem Expr.resolve_term (style : Style) (e : Expr) (readable : ∀ n ∈ e.numbers, n.Readable) :
    (e.term style).resolve = .ok e := by
  induction e with
  | literal value =>
    refine value.resolve_term style.quote fun n hn => ?_
    subst hn
    exact (readable n List.mem_cons_self).2
  | field f =>
    rw [term, Term.resolve, Term.fieldNamed, Field.ofText?_text]
  | not operand ih =>
    rw [term, Term.resolve, Term.resolve_within, ih readable]
    rfl
  | and lhs rhs ihl ihr =>
    obtain ⟨left, right⟩ := List.forall_mem_append.mp readable
    exact Term.resolve_join .and (ihl left) (ihr right)
  | or lhs rhs ihl ihr =>
    obtain ⟨left, right⟩ := List.forall_mem_append.mp readable
    exact Term.resolve_join .or (ihl left) (ihr right)
  | compare comparison lhs rhs ihl ihr =>
    obtain ⟨left, right⟩ := List.forall_mem_append.mp readable
    rw [term, Term.resolve_join _ (ihl left) (ihr right), comparison.applyOperator_operator]
  | text test lhs rhs ihl ihr =>
    obtain ⟨left, right⟩ := List.forall_mem_append.mp readable
    unfold term
    split
    · rw [Term.resolve, Term.resolve_within, ihl left, Term.resolveAll, ihr right]
      cases test <;> rfl
    · rw [Term.resolve_join _ (ihl left) (ihr right), test.applyOperator_operator]
  | «matches» subject pattern ih =>
    have written : ((Literal.string pattern.source).term style.quote).resolve =
        .ok (.literal (.string pattern.source)) :=
      Literal.resolve_term _ _ fun n hn => by cases hn
    unfold term
    simp only
    split
    · rw [Term.resolve, Term.resolve_within, ih readable, Term.resolveAll, written]
      exact applyOperator_matches subject pattern
    · rw [Term.resolve_join _ (ih readable) written, applyOperator_matches]
  | length subject ih =>
    rw [term, Term.resolve, Term.resolve_within, ih readable]
    rfl
  | convert case subject ih =>
    rw [term, Term.resolve, Term.resolve_within, ih readable]
    cases case <;> rfl

/-- What is printed is read back as the expression, unless it is over the size limits. -/
theorem parse_print (style : Style) (e : Expr) (readable : ∀ n ∈ e.numbers, n.Readable)
    (fits : Size.check (e.print style) = .ok ()) : parse (e.print style) = .ok e := by
  have written := parse_write style.toSpelling (e.writable_term style readable)
  have resolved := e.resolve_term style readable
  unfold parse
  rw [fits, Expr.print, written]
  exact resolved

def worded : Style where
  quote := .single
  operator
    | .or => "or"
    | .and => "and"
    | .eq => "=="
    | .ne => "!="
    | .le => "<="
    | .ge => ">="
    | .lt => "<"
    | .gt => ">"
    | .contains => "contains"
    | .startsWith => "startswith"
    | .endsWith => "endswith"
    | .matches => "matches"
  known op := by cases op <;> constructor
  sign
    | .matches _ _ => .bang
    | _ => .not
  called
    | .matches _ _ => true
    | _ => false

def startsWithRead : Pattern := (Pattern.ofText? "^Read").get (by decide +kernel)

def half : Number := .finite false (Nat.pow 2 1073)

def guarded : Expr :=
  .and
    (.or (.not (.text .startsWith (.convert .lower (.field .name)) (.literal (.string "it's \\"))))
      (.not (.matches (.field .security) startsWithRead)))
    (.compare .eq (.field .hidden)
      (.compare .ne (.compare .lt (.length (.field .inheritance)) (.literal (.number half)))
        (.literal (.bool true))))

theorem parse_print_guarded :
    guarded.print worded =
        "(not name.toLowerCase() startswith 'it\\'s \\\\' or !security.matches('^Read')) " ++
          "and hidden == (inheritance.length < 0.5 != true)" ∧
      parse (guarded.print worded) = .ok guarded := by
  refine ⟨by decide +kernel, parse_print worded guarded ?_ (by decide +kernel)⟩
  intro n hn
  rw [List.mem_singleton.mp hn]
  exact ⟨⟨_, _, rfl⟩, by decide +kernel⟩

end RefViewer.Query
