import Mathlib.Algebra.GroupWithZero.Nat
import RefViewer.Query.Grammar
import RefViewer.Query.Resolve

/-!
# Height and nesting

How deep a term and an expression are, and how deep the parentheses of a query stand inside
each other. Grouping a row of operands makes a term no higher than the row is long, and
resolving names does not make it higher.
-/

namespace RefViewer.Query

-- ---------------------------------------------------------------------------
-- Measures
-- ---------------------------------------------------------------------------

mutual

/-- Parentheses alone do not make a term higher: the expression has no node for them. -/
def Term.height : Term → Nat
  | .group inner => inner.height
  | .call receiver _ arguments => max receiver.height (Term.heightAll arguments) + 1
  | .property receiver _ => receiver.height + 1
  | .signed _ operand => operand.height + 1
  | .binary _ lhs rhs => max lhs.height rhs.height + 1
  | _ => 1

def Term.heightAll : List Term → Nat
  | [] => 0
  | first :: rest => max first.height (Term.heightAll rest)

end

mutual

/-- How many groups and argument lists stand inside each other. -/
def Term.nesting : Term → Nat
  | .group inner => inner.nesting + 1
  | .call receiver _ arguments => max receiver.nesting (Term.nestingAll arguments + 1)
  | .property receiver _ => receiver.nesting
  | .signed _ operand => operand.nesting
  | .binary _ lhs rhs => max lhs.nesting rhs.nesting
  | _ => 0

def Term.nestingAll : List Term → Nat
  | [] => 0
  | first :: rest => max first.nesting (Term.nestingAll rest)

end

def Expr.height : Expr → Nat
  | .literal _ | .field _ => 1
  | .not operand => operand.height + 1
  | .and lhs rhs | .or lhs rhs | .compare _ lhs rhs | .text _ lhs rhs =>
    max lhs.height rhs.height + 1
  | .matches subject _ | .length subject | .convert _ subject => subject.height + 1

def Operand.height (operand : Operand) : Nat := operand.signs.length + operand.term.height

def Link.height (link : Link) : Nat := link.operand.height

def Link.nesting (link : Link) : Nat := link.operand.term.nesting

def rowHeight (links : List Link) : Nat := (links.map Link.height).sum

theorem Term.height_pos : (term : Term) → 0 < term.height
  | .group inner => by rw [height]; exact inner.height_pos
  | .call .. | .property .. | .signed .. | .binary .. => Nat.succ_pos _
  | .null | .boolean _ | .number _ | .string _ | .name _ => Nat.succ_pos _

-- ---------------------------------------------------------------------------
-- Grouping a row
-- ---------------------------------------------------------------------------

namespace Precedence

theorem height_le (fuel : Nat) :
    (∀ first links, (operand fuel first links).1.height + rowHeight (operand fuel first links).2 ≤
      first.height + rowHeight links) ∧
    (∀ level lhs links,
      (extend fuel level lhs links).1.height + rowHeight (extend fuel level lhs links).2 ≤
        lhs.height + rowHeight links) := by
  induction fuel with
  | zero =>
    refine ⟨fun first links => ?_, fun level lhs links => Nat.le_refl _⟩
    simp only [operand, Operand.height]
    omega
  | succ fuel ih =>
    obtain ⟨ofOperand, ofExtend⟩ := ih
    constructor
    · rintro ⟨signs, term⟩ links
      cases signs with
      | nil => simp only [operand, Operand.height, List.length_nil]; omega
      | cons sign signs =>
        have inner := ofOperand ⟨signs, term⟩ links
        rcases ho : operand fuel ⟨signs, term⟩ links with ⟨first, mid⟩
        have whole := ofExtend (sign.level - 1) first mid
        rcases he : extend fuel (sign.level - 1) first mid with ⟨body, rest⟩
        rw [ho] at inner
        rw [he] at whole
        simp only [operand, ho, he, Term.height, Operand.height, List.length_cons] at inner whole ⊢
        omega
    · intro level lhs links
      cases links with
      | nil => exact Nat.le_refl _
      | cons link links =>
        rw [extend]
        split
        · have opened := ofOperand link.operand links
          rcases ho : operand fuel link.operand links with ⟨first, mid⟩
          have right := ofExtend link.operator.level first mid
          rcases hr : extend fuel link.operator.level first mid with ⟨rhs, after⟩
          have later := ofExtend level (.binary link.operator lhs rhs) after
          rw [ho] at opened
          rw [hr] at right
          have left_pos := lhs.height_pos
          have right_pos := rhs.height_pos
          simp only [hr, Term.height, rowHeight, List.map_cons, List.sum_cons, Link.height]
            at opened right later ⊢
          omega
        · exact Nat.le_refl _

theorem height_group_le (first : Operand) (links : List Link) :
    (group first links).height ≤ first.height + rowHeight links := by
  obtain ⟨ofOperand, ofExtend⟩ := height_le (fuel first links)
  have opened := ofOperand first links
  have grown := ofExtend 0 (operand (fuel first links) first links).1
    (operand (fuel first links) first links).2
  exact Nat.le_trans (Nat.le_add_right _ _) (Nat.le_trans grown opened)

/-- What grouping builds from the operands keeps what signs and operators keep. -/
theorem group_keeps (keeps : Term → Prop)
    (signed : ∀ {sign operand}, keeps operand → keeps (.signed sign operand))
    (binary : ∀ {op lhs rhs}, keeps lhs → keeps rhs → keeps (.binary op lhs rhs)) (fuel : Nat) :
    (∀ first links, keeps first.term → (∀ link ∈ links, keeps link.operand.term) →
      keeps (operand fuel first links).1 ∧
        ∀ link ∈ (operand fuel first links).2, keeps link.operand.term) ∧
    (∀ level lhs links, keeps lhs → (∀ link ∈ links, keeps link.operand.term) →
      keeps (extend fuel level lhs links).1 ∧
        ∀ link ∈ (extend fuel level lhs links).2, keeps link.operand.term) := by
  induction fuel with
  | zero =>
    exact ⟨fun _ _ first links => ⟨first, links⟩, fun _ _ _ lhs links => ⟨lhs, links⟩⟩
  | succ fuel ih =>
    obtain ⟨ofOperand, ofExtend⟩ := ih
    constructor
    · rintro ⟨signs, term⟩ links first others
      cases signs with
      | nil => exact ⟨first, others⟩
      | cons sign signs =>
        have inner := ofOperand ⟨signs, term⟩ links first others
        have whole := ofExtend (sign.level - 1) _ _ inner.1 inner.2
        exact ⟨signed whole.1, whole.2⟩
    · intro level lhs links left others
      cases links with
      | nil => exact ⟨left, others⟩
      | cons link links =>
        rw [extend]
        split
        · obtain ⟨next, later⟩ := List.forall_mem_cons.mp others
          have opened := ofOperand link.operand links next later
          have right := ofExtend link.operator.level _ _ opened.1 opened.2
          exact ofExtend level _ _ (binary left right.1) right.2
        · exact ⟨left, others⟩

theorem nesting_group_le (first : Operand) (links : List Link) (bound : Nat)
    (lhs : first.term.nesting ≤ bound) (others : ∀ link ∈ links, link.nesting ≤ bound) :
    (group first links).nesting ≤ bound := by
  have signed {sign operand} (h : Term.nesting operand ≤ bound) :
      (Term.signed sign operand).nesting ≤ bound := by
    rwa [Term.nesting]
  have binary {op lhs rhs} (left : Term.nesting lhs ≤ bound) (right : Term.nesting rhs ≤ bound) :
      (Term.binary op lhs rhs).nesting ≤ bound := by
    rw [Term.nesting]
    exact Nat.max_le.mpr ⟨left, right⟩
  obtain ⟨ofOperand, ofExtend⟩ := group_keeps (·.nesting ≤ bound) signed binary (fuel first links)
  obtain ⟨opened, rest⟩ := ofOperand first links lhs others
  exact (ofExtend 0 _ _ opened rest).1

end Precedence

-- ---------------------------------------------------------------------------
-- Calls and properties
-- ---------------------------------------------------------------------------

namespace Grammar.Suffix

def height : Suffix → Nat
  | .call _ arguments => Term.heightAll arguments + 1
  | .property _ => 1

def nesting : Suffix → Nat
  | .call _ arguments => Term.nestingAll arguments + 1
  | .property _ => 0

theorem height_apply_le (receiver : Term) (suffix : Suffix) :
    (suffix.apply receiver).height ≤ receiver.height + suffix.height := by
  cases suffix <;> simp only [apply, Term.height, height] <;> omega

theorem height_foldl_le (first : Term) (suffixes : List Suffix) :
    (suffixes.foldl apply first).height ≤ first.height + (suffixes.map height).sum := by
  induction suffixes generalizing first with
  | nil => exact Nat.le_refl _
  | cons suffix suffixes ih =>
    have one := height_apply_le first suffix
    have others := ih (suffix.apply first)
    rw [List.foldl_cons, List.map_cons, List.sum_cons]
    omega

theorem nesting_foldl_le (first : Term) (suffixes : List Suffix) (bound : Nat)
    (lhs : first.nesting ≤ bound) (others : ∀ suffix ∈ suffixes, suffix.nesting ≤ bound) :
    (suffixes.foldl apply first).nesting ≤ bound := by
  induction suffixes generalizing first with
  | nil => exact lhs
  | cons suffix suffixes ih =>
    obtain ⟨next, later⟩ := List.forall_mem_cons.mp others
    refine ih (suffix.apply first) ?_ later
    cases suffix with
    | call _ _ => rw [apply, Term.nesting]; exact Nat.max_le.mpr ⟨lhs, next⟩
    | property _ => rw [apply, Term.nesting]; exact lhs

end Grammar.Suffix

theorem Term.heightAll_le_sum (terms : List Term) :
    heightAll terms ≤ (terms.map height).sum := by
  induction terms with
  | nil => exact Nat.le_refl _
  | cons first rest ih =>
    rw [heightAll, List.map_cons, List.sum_cons]
    omega

theorem Term.nestingAll_le {terms : List Term} (each : ∀ term ∈ terms, term.nesting ≤ bound) :
    nestingAll terms ≤ bound := by
  induction terms with
  | nil => exact Nat.zero_le _
  | cons first rest ih =>
    obtain ⟨one, others⟩ := List.forall_mem_cons.mp each
    rw [nestingAll]
    exact Nat.max_le.mpr ⟨one, ih others⟩

-- ---------------------------------------------------------------------------
-- Resolving names
-- ---------------------------------------------------------------------------

theorem bind_ok {ε α β : Type} {x : Except ε α} {next : α → Except ε β} {b : β}
    (made : x >>= next = .ok b) : ∃ a, x = .ok a ∧ next a = .ok b := by
  cases x with
  | error fault => cases made
  | ok a => exact ⟨a, rfl, made⟩

namespace Term

theorem height_applyOperator_le (made : applyOperator lhs rhs op = .ok e) :
    e.height ≤ max lhs.height rhs.height + 1 := by
  cases op with
  | «matches» =>
    rw [applyOperator] at made
    cases found : patternOf rhs with
    | error fault => rw [found] at made; cases made
    | ok pattern =>
      rw [found] at made
      cases made
      exact Nat.succ_le_succ (Nat.le_max_left _ _)
  | _ => cases made; exact Nat.le_refl _

theorem height_applyMethod_le (made : applyMethod receiver method arguments = .ok e)
    (each : ∀ argument ∈ arguments, argument.height ≤ bound) :
    e.height ≤ max receiver.height bound + 1 := by
  have unary {argument : Expr} (short : ∀ given ∈ [argument], given.height ≤ bound) {op : Operator}
      (made : applyOperator receiver argument op = .ok e) :
      e.height ≤ max receiver.height bound + 1 := by
    have given := short argument List.mem_cons_self
    have applied := height_applyOperator_le made
    omega
  have nullary : receiver.height + 1 ≤ max receiver.height bound + 1 :=
    Nat.succ_le_succ (Nat.le_max_left _ _)
  unfold applyMethod at made
  split at made
  · cases made
  · next build known =>
    cases made
    unfold method? at known
    split at known <;> cases known <;> exact nullary
  · cases made
  · next build argument known =>
    unfold method? at known
    split at known <;> cases known <;> exact unary each made
  · cases made

theorem height_applyProperty_le (made : applyProperty receiver wanted = .ok e) :
    e.height ≤ receiver.height + 1 := by
  unfold applyProperty at made
  split at made
  · cases made
    exact Nat.le_refl _
  · cases made

mutual

theorem height_resolve_le : (term : Term) → ∀ {e}, term.resolve = .ok e → e.height ≤ term.height
  | .null, _, made | .boolean _, _, made | .number _, _, made | .string _, _, made => by
    rw [resolve] at made
    cases made
    exact Nat.le_refl _
  | .name ident, _, made => by
    rw [resolve, fieldNamed] at made
    split at made
    · cases made
      exact Nat.le_refl _
    · cases made
  | .group inner, _, made => by
    rw [resolve] at made
    rw [height]
    exact height_resolve_le inner made
  | .call receiver method arguments, _, made => by
    rw [resolve] at made
    obtain ⟨resolved, first, made⟩ := bind_ok made
    obtain ⟨given, others, made⟩ := bind_ok made
    have top := height_applyMethod_le made (height_resolveAll_le arguments others)
    have receiver := height_resolve_le receiver first
    rw [height]
    omega
  | .property receiver wanted, _, made => by
    rw [resolve] at made
    obtain ⟨resolved, first, made⟩ := bind_ok made
    have top := height_applyProperty_le made
    have receiver := height_resolve_le receiver first
    rw [height]
    omega
  | .signed sign operand, _, made => by
    rw [resolve] at made
    obtain ⟨resolved, first, made⟩ := bind_ok made
    cases made
    exact Nat.succ_le_succ (height_resolve_le operand first)
  | .binary op lhs rhs, _, made => by
    rw [resolve] at made
    obtain ⟨left, first, made⟩ := bind_ok made
    obtain ⟨right, second, made⟩ := bind_ok made
    have top := height_applyOperator_le made
    have lhs := height_resolve_le lhs first
    have rhs := height_resolve_le rhs second
    rw [height]
    omega

theorem height_resolveAll_le : (terms : List Term) → ∀ {resolved}, resolveAll terms = .ok resolved →
    ∀ e ∈ resolved, e.height ≤ heightAll terms
  | [], _, made => by
    rw [resolveAll] at made
    cases made
    exact fun _ he => absurd he List.not_mem_nil
  | first :: rest, _, made => by
    rw [resolveAll] at made
    obtain ⟨one, head, made⟩ := bind_ok made
    obtain ⟨others, tail, made⟩ := bind_ok made
    cases made
    rw [heightAll]
    have short := height_resolve_le first head
    have later := height_resolveAll_le rest tail
    refine List.forall_mem_cons.mpr ⟨by omega, fun e he => ?_⟩
    have le := later e he
    omega

end

end Term

end RefViewer.Query
