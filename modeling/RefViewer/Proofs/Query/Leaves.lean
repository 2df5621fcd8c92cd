import RefViewer.Proofs.Query.Height

/-!
# What stands around a leaf

A literal or a name of a query stands in groups and argument lists, and under signs. A sign is
stacked on the leaf when nothing but signs and opening parentheses stands between the two; any
other sign that the leaf is under is parted from it.
-/

namespace RefViewer.Query

-- ---------------------------------------------------------------------------
-- Leaves
-- ---------------------------------------------------------------------------

structure Leaf where
  groups : Nat
  stacked : Nat
  parted : Nat
  deriving DecidableEq, Repr

namespace Leaf

def negations (leaf : Leaf) : Nat := leaf.stacked + leaf.parted

/-- What the size check sees open where it comes to the leaf. -/
def held (leaf : Leaf) : Nat := leaf.groups + leaf.stacked

def bare : Leaf := ⟨0, 0, 0⟩

def grouped (leaf : Leaf) : Leaf := { leaf with groups := leaf.groups + 1 }

/-- A sign is stacked on the first leaf of its operand and parted from the others. -/
def signed : List Leaf → List Leaf
  | [] => []
  | first :: others =>
    { first with stacked := first.stacked + 1 } ::
      others.map fun leaf => { leaf with parted := leaf.parted + 1 }

theorem negations_grouped (leaves : List Leaf) :
    (leaves.map grouped).map negations = leaves.map negations := by
  rw [List.map_map]
  rfl

theorem negations_signed (leaves : List Leaf) :
    (signed leaves).map negations = (leaves.map negations).map (· + 1) := by
  cases leaves with
  | nil => rfl
  | cons first others =>
    simp only [signed, List.map_cons, List.map_map, Function.comp_def, negations]
    rw [Nat.add_right_comm]
    rfl

end Leaf

mutual

def Term.leaves : Term → List Leaf
  | .group inner => inner.leaves.map Leaf.grouped
  | .call receiver _ arguments => receiver.leaves ++ (Term.leavesAll arguments).map Leaf.grouped
  | .property receiver _ => receiver.leaves
  | .signed _ operand => Leaf.signed operand.leaves
  | .binary _ lhs rhs => lhs.leaves ++ rhs.leaves
  | _ => [.bare]

def Term.leavesAll : List Term → List Leaf
  | [] => []
  | first :: rest => first.leaves ++ Term.leavesAll rest

end

/-- For each literal or field from left to right, how many negations it is under. -/
def Expr.negations : Expr → List Nat
  | .literal _ | .field _ => [0]
  | .not operand => operand.negations.map (· + 1)
  | .and lhs rhs | .or lhs rhs | .compare _ lhs rhs | .text _ lhs rhs =>
    lhs.negations ++ rhs.negations
  | .matches subject _ | .length subject | .convert _ subject => subject.negations

theorem Term.leaves_ne_nil : (term : Term) → term.leaves ≠ []
  | .null | .boolean _ | .number _ | .string _ | .name _ => List.cons_ne_nil _ _
  | .group inner => fun none => inner.leaves_ne_nil (List.map_eq_nil_iff.mp none)
  | .call receiver _ _ => List.append_ne_nil_of_left_ne_nil receiver.leaves_ne_nil _
  | .property receiver _ => receiver.leaves_ne_nil
  | .signed _ operand => by
    obtain ⟨first, others, split⟩ := List.exists_cons_of_ne_nil operand.leaves_ne_nil
    rw [leaves, split]
    exact List.cons_ne_nil _ _
  | .binary _ lhs _ => List.append_ne_nil_of_left_ne_nil lhs.leaves_ne_nil _

-- ---------------------------------------------------------------------------
-- Resolving names
-- ---------------------------------------------------------------------------

namespace Term

theorem negations_applyOperator (made : applyOperator lhs rhs op = .ok e) :
    e.negations.Sublist (lhs.negations ++ rhs.negations) := by
  cases op with
  | «matches» =>
    rw [applyOperator] at made
    cases found : patternOf rhs with
    | error fault => rw [found] at made; cases made
    | ok pattern =>
      rw [found] at made
      cases made
      exact List.sublist_append_left _ _
  | _ => cases made; exact List.Sublist.refl _

theorem negations_applyMethod (made : applyMethod receiver method arguments = .ok e) :
    e.negations.Sublist (receiver.negations ++ arguments.flatMap Expr.negations) := by
  unfold applyMethod at made
  split at made
  · cases made
  · next build known =>
    cases made
    unfold method? at known
    split at known <;> cases known <;> exact List.sublist_append_left _ _
  · cases made
  · next build argument known =>
    rw [List.flatMap_singleton]
    unfold method? at known
    split at known <;> cases known <;> exact negations_applyOperator made
  · cases made

mutual

/-- The leaves of the expression are leaves of the term, under as many negations there. -/
theorem negations_resolve : (term : Term) → ∀ {e}, term.resolve = .ok e →
    e.negations.Sublist (term.leaves.map Leaf.negations)
  | .null, _, made | .boolean _, _, made | .number _, _, made | .string _, _, made => by
    rw [resolve] at made
    cases made
    exact List.Sublist.refl _
  | .name ident, _, made => by
    rw [resolve, fieldNamed] at made
    split at made
    · cases made
      exact List.Sublist.refl _
    · cases made
  | .group inner, _, made => by
    rw [resolve] at made
    rw [leaves, Leaf.negations_grouped]
    exact negations_resolve inner made
  | .call receiver method arguments, _, made => by
    rw [resolve] at made
    obtain ⟨resolved, first, made⟩ := bind_ok made
    obtain ⟨given, others, made⟩ := bind_ok made
    rw [leaves, List.map_append, Leaf.negations_grouped]
    have receiver := negations_resolve receiver first
    exact (negations_applyMethod made).trans
      (receiver.append (negations_resolveAll arguments others))
  | .property receiver wanted, _, made => by
    rw [resolve] at made
    obtain ⟨resolved, first, made⟩ := bind_ok made
    unfold applyProperty at made
    split at made
    · cases made
      have inner := negations_resolve receiver first
      exact inner
    · cases made
  | .signed sign operand, _, made => by
    rw [resolve] at made
    obtain ⟨resolved, first, made⟩ := bind_ok made
    cases made
    rw [leaves, Leaf.negations_signed]
    exact (negations_resolve operand first).map _
  | .binary op lhs rhs, _, made => by
    rw [resolve] at made
    obtain ⟨left, first, made⟩ := bind_ok made
    obtain ⟨right, second, made⟩ := bind_ok made
    rw [leaves, List.map_append]
    exact (negations_applyOperator made).trans
      ((negations_resolve lhs first).append (negations_resolve rhs second))

theorem negations_resolveAll : (terms : List Term) → ∀ {resolved},
    resolveAll terms = .ok resolved →
    (resolved.flatMap Expr.negations).Sublist ((leavesAll terms).map Leaf.negations)
  | [], _, made => by
    rw [resolveAll] at made
    cases made
    exact List.Sublist.refl _
  | first :: rest, _, made => by
    rw [resolveAll] at made
    obtain ⟨one, head, made⟩ := bind_ok made
    obtain ⟨others, tail, made⟩ := bind_ok made
    cases made
    rw [leavesAll, List.map_append, List.flatMap_cons]
    exact (negations_resolve first head).append (negations_resolveAll rest tail)

end

end Term

-- ---------------------------------------------------------------------------
-- Bounds
-- ---------------------------------------------------------------------------

/-- Behind `signs` signs and inside `depth` groups the leaves hold no more than `bound`. Only the
first one has these signs stacked on it. -/
structure Holds (bound depth signs : Nat) (leaves : List Leaf) : Prop where
  first : ∀ leaf ∈ leaves.head?, depth + signs + leaf.held ≤ bound
  all : ∀ leaf ∈ leaves, depth + leaf.held ≤ bound

section

variable {bound depth signs : Nat} {leaves more : List Leaf}

theorem Holds.bare (fits : depth + signs ≤ bound) : Holds bound depth signs [.bare] where
  first leaf hl := by
    obtain rfl := Option.mem_some_iff.mp hl
    exact fits
  all leaf hl := by
    obtain rfl := List.mem_singleton.mp hl
    exact Nat.le_trans (Nat.le_add_right _ signs) fits

theorem Holds.fewer {fewer : Nat} (h : Holds bound depth signs leaves) (le : fewer ≤ signs) :
    Holds bound depth fewer leaves where
  first leaf hl := by
    have fits := h.first leaf hl
    omega
  all := h.all

theorem Holds.append (h : Holds bound depth signs leaves) (given : leaves ≠ [])
    (others : ∀ leaf ∈ more, depth + leaf.held ≤ bound) :
    Holds bound depth signs (leaves ++ more) where
  first leaf hl := by
    obtain ⟨start, others, rfl⟩ := List.exists_cons_of_ne_nil given
    exact h.first leaf hl
  all := List.forall_mem_append.mpr ⟨h.all, others⟩

theorem held_grouped (all : ∀ leaf ∈ leaves, depth + 1 + leaf.held ≤ bound) :
    ∀ leaf ∈ leaves.map Leaf.grouped, depth + leaf.held ≤ bound := by
  rw [List.forall_mem_map]
  intro leaf hl
  have fits := all leaf hl
  simp only [Leaf.held, Leaf.grouped] at fits ⊢
  omega

theorem Holds.grouped (h : Holds bound (depth + 1) signs leaves) :
    Holds bound depth signs (leaves.map Leaf.grouped) where
  first leaf hl := by
    obtain ⟨inner, first, rfl⟩ := Option.map_eq_some_iff.mp (List.head?_map.symm.trans hl)
    have fits := h.first inner first
    simp only [Leaf.held, Leaf.grouped] at fits ⊢
    omega
  all := held_grouped h.all

theorem Holds.signed (h : Holds bound depth (signs + 1) leaves) :
    Holds bound depth signs (Leaf.signed leaves) := by
  cases leaves with
  | nil => exact ⟨nofun, nofun⟩
  | cons first others =>
    have fits := h.first first rfl
    obtain ⟨-, later⟩ := List.forall_mem_cons.mp h.all
    refine ⟨fun leaf hl => ?_, List.forall_mem_cons.mpr ⟨?_, List.forall_mem_map.mpr later⟩⟩
    · obtain rfl := Option.mem_some_iff.mp hl
      simp only [Leaf.held] at fits ⊢
      omega
    · simp only [Leaf.held] at fits ⊢
      omega

end

-- ---------------------------------------------------------------------------
-- Grouping a row
-- ---------------------------------------------------------------------------

def Operand.Holds (bound depth : Nat) (operand : Operand) : Prop :=
  Query.Holds bound depth operand.signs.length operand.term.leaves

namespace Precedence

section

variable {bound depth : Nat}

/-- An operator takes a leaf under a sign before it only from a leaf that is not the first. -/
theorem holds_grouped (fuel : Nat) :
    (∀ signs first links, Holds bound depth (signs + first.signs.length) first.term.leaves →
      (∀ link ∈ links, link.operand.Holds bound depth) →
      Holds bound depth signs (operand fuel first links).1.leaves ∧
        ∀ link ∈ (operand fuel first links).2, link.operand.Holds bound depth) ∧
    (∀ signs level lhs links, Holds bound depth signs lhs.leaves →
      (∀ link ∈ links, link.operand.Holds bound depth) →
      Holds bound depth signs (extend fuel level lhs links).1.leaves ∧
        ∀ link ∈ (extend fuel level lhs links).2, link.operand.Holds bound depth) := by
  induction fuel with
  | zero =>
    refine ⟨fun signs first links holds others => ⟨?_, others⟩,
      fun signs level lhs links holds others => ⟨holds, others⟩⟩
    exact holds.fewer (Nat.le_add_right _ _)
  | succ fuel ih =>
    obtain ⟨ofOperand, ofExtend⟩ := ih
    constructor
    · rintro signs ⟨before, term⟩ links holds others
      cases before with
      | nil => exact ⟨holds, others⟩
      | cons sign before =>
        have behind : signs + (before.length + 1) = signs + 1 + before.length := by omega
        rw [List.length_cons, behind] at holds
        have inner := ofOperand (signs + 1) ⟨before, term⟩ links holds others
        have whole := ofExtend (signs + 1) (sign.level - 1) _ _ inner.1 inner.2
        exact ⟨whole.1.signed, whole.2⟩
    · intro signs level lhs links holds others
      cases links with
      | nil => exact ⟨holds, others⟩
      | cons link links =>
        rw [extend]
        split
        · obtain ⟨next, later⟩ := List.forall_mem_cons.mp others
          have start : Holds bound depth (0 + link.operand.signs.length)
              link.operand.term.leaves := by
            rw [Nat.zero_add]
            exact next
          have opened := ofOperand 0 link.operand links start later
          have right := ofExtend 0 link.operator.level _ _ opened.1 opened.2
          exact ofExtend signs level _ _ (holds.append lhs.leaves_ne_nil right.1.all) right.2
        · exact ⟨holds, others⟩

theorem holds_group {signs : Nat} {first : Operand} {links : List Link}
    (holds : Holds bound depth (signs + first.signs.length) first.term.leaves)
    (others : ∀ link ∈ links, link.operand.Holds bound depth) :
    Holds bound depth signs (group first links).leaves := by
  obtain ⟨ofOperand, ofExtend⟩ := holds_grouped (fuel first links)
  obtain ⟨opened, rest⟩ := ofOperand signs first links holds others
  exact (ofExtend signs 0 _ _ opened rest).1

end

end Precedence

-- ---------------------------------------------------------------------------
-- Calls and properties
-- ---------------------------------------------------------------------------

def Grammar.Suffix.leaves : Grammar.Suffix → List Leaf
  | .call _ arguments => (Term.leavesAll arguments).map Leaf.grouped
  | .property _ => []

theorem Grammar.Suffix.holds_foldl {bound depth signs : Nat} (first : Term)
    (suffixes : List Grammar.Suffix) (holds : Holds bound depth signs first.leaves)
    (others : ∀ suffix ∈ suffixes, ∀ leaf ∈ suffix.leaves, depth + leaf.held ≤ bound) :
    Holds bound depth signs (suffixes.foldl apply first).leaves := by
  induction suffixes generalizing first with
  | nil => exact holds
  | cons suffix suffixes ih =>
    obtain ⟨next, later⟩ := List.forall_mem_cons.mp others
    refine ih (suffix.apply first) ?_ later
    cases suffix with
    | call method arguments => exact holds.append first.leaves_ne_nil next
    | property wanted => exact holds

theorem Term.leavesAll_le {bound depth : Nat} {terms : List Term}
    (each : ∀ term ∈ terms, ∀ leaf ∈ term.leaves, depth + leaf.held ≤ bound) :
    ∀ leaf ∈ leavesAll terms, depth + leaf.held ≤ bound := by
  induction terms with
  | nil => exact nofun
  | cons first rest ih =>
    obtain ⟨one, others⟩ := List.forall_mem_cons.mp each
    exact List.forall_mem_append.mpr ⟨one, ih others⟩

end RefViewer.Query
