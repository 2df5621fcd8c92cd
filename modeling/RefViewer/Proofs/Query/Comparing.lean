import Mathlib.Data.String.Basic
import RefViewer.Query.Expr

/-!
# Comparing values

Loose equality and order are two tables over the kinds of values. They fit together all the same:
both may be read from either side, and where two values have an order, they are equal exactly when
it says so. `comparisons_agree` tells what follows for the comparisons of a query.
-/

namespace RefViewer

-- ---------------------------------------------------------------------------
-- Numbers
-- ---------------------------------------------------------------------------

namespace Number

theorem equals_comm (a b : Number) : a.equals b = b.equals a := by
  unfold equals
  cases a.position <;> cases b.position <;> simp only [eq_comm]

theorem order_swap (a b : Number) : (a.order b).map Ordering.swap = b.order a := by
  unfold order
  cases a.position <;> cases b.position <;>
    simp only [Option.map_none, Option.map_some, Int.compare_swap]

theorem equals_iff_order {a b : Number} (ordered : a.order b = some o) :
    a.equals b = true ↔ o = .eq := by
  unfold order at ordered
  unfold equals
  cases hx : a.position with
  | none => rw [hx] at ordered; cases ordered
  | some x =>
    cases hy : b.position with
    | none => rw [hx, hy] at ordered; cases ordered
    | some y =>
      rw [hx, hy] at ordered
      cases ordered
      exact decide_eq_true_iff.trans Int.compare_eq_eq.symm

end Number

namespace Query

-- ---------------------------------------------------------------------------
-- Values
-- ---------------------------------------------------------------------------

namespace Value

theorem compareText_eq (a b : String) : compareText a b = compare a b :=
  (LinearOrder.compare_eq_compareOfLessAndEq a b).symm

theorem compareText_swap (a b : String) : (compareText a b).swap = compareText b a := by
  rw [compareText_eq, compareText_eq, ← Std.OrientedCmp.eq_swap]

theorem compareText_eq_iff (a b : String) : compareText a b = .eq ↔ a = b := by
  rw [compareText_eq, compare_eq_iff_eq]

theorem looseEq_comm (a b : Value) : a.looseEq b = b.looseEq a := by
  cases a <;> cases b <;> simp only [looseEq, eq_comm, Number.equals_comm]

/-- A number that is missing in a text leaves both orders undefined. -/
theorem order_swap (a b : Value) : (a.order b).map Ordering.swap = b.order a := by
  cases a with
  | number n =>
    cases b with
    | number m => exact Number.order_swap n m
    | string s =>
      simp only [order]
      cases spelled s with
      | none => rfl
      | some parsed =>
        rw [Option.bind_some, Option.bind_some, Number.order_swap, Number.order_swap]
    | _ => rfl
  | string s =>
    cases b with
    | number n => simp only [order, Option.map_bind, Function.comp_def]
    | string t => simp only [order, Option.map_some, compareText_swap]
    | _ => rfl
  | _ => cases b <;> rfl

theorem spells_iff_order {s : String} {n : Number}
    (ordered : ((spelled s).bind fun parsed => parsed.order n) = some o) :
    spells s n = true ↔ o = .eq := by
  obtain ⟨parsed, found, ordered⟩ := Option.bind_eq_some_iff.mp ordered
  rw [spells, found]
  exact Number.equals_iff_order ordered

theorem looseEq_iff_order {a b : Value} (ordered : a.order b = some o) :
    a.looseEq b = true ↔ o = .eq := by
  cases a with
  | number n =>
    cases b with
    | number m =>
      rw [order] at ordered
      rw [looseEq, Number.equals_iff_order ordered]
    | string s =>
      -- The text is read as the left side, and the order is turned round afterwards.
      have turned : (Value.string s).order (.number n) = some o.swap := by
        rw [← order_swap, ordered, Option.map_some]
      rw [order] at turned
      rw [looseEq, spells_iff_order turned, Ordering.swap_eq_eq]
    | _ => simp only [order, reduceCtorEq] at ordered
  | string s =>
    cases b with
    | number n =>
      rw [order] at ordered
      rw [looseEq, spells_iff_order ordered]
    | string t =>
      simp only [order, Option.some.injEq] at ordered
      rw [looseEq, decide_eq_true_iff, ← ordered, compareText_eq_iff]
    | _ => simp only [order, reduceCtorEq] at ordered
  | _ => simp only [order, reduceCtorEq] at ordered

end Value

-- ---------------------------------------------------------------------------
-- Comparisons
-- ---------------------------------------------------------------------------

namespace Comparison

def converse : Comparison → Comparison
  | .lt => .gt
  | .le => .ge
  | .gt => .lt
  | .ge => .le
  | same => same

theorem holds_converse (a b : Value) (c : Comparison) : c.converse.holds b a = c.holds a b := by
  cases c with
  | eq | ne => simp only [converse, holds, Value.looseEq_comm b a]
  | lt | le | gt | ge =>
    simp only [converse, holds, ← Value.order_swap a b]
    cases a.order b with
    | none => rfl
    | some o => cases o <;> rfl

/-- The orders of two values in which a comparison holds. -/
def admits (o : Ordering) : Comparison → Bool
  | .eq => o.isEq
  | .ne => o.isNe
  | .lt => o.isLT
  | .le => o.isLE
  | .gt => o.isGT
  | .ge => o.isGE

theorem holds_ordered {a b : Value} (ordered : a.order b = some o) (c : Comparison) :
    c.holds a b = c.admits o := by
  have equal : a.looseEq b = o.isEq := by
    rw [Bool.eq_iff_iff, Value.looseEq_iff_order ordered, Ordering.isEq_iff_eq_eq]
  cases c with
  | eq => exact equal
  | ne =>
    simp only [holds, admits, equal]
    cases o <;> rfl
  | lt | le | gt | ge =>
    simp only [holds, admits, ordered]
    cases o <;> rfl

theorem admits_one (o : Ordering) :
    ∃! c, c ∈ [Comparison.lt, .eq, .gt] ∧ c.admits o = true := by
  have alone : ∀ c ∈ [Comparison.lt, .eq, .gt], ∀ d ∈ [Comparison.lt, .eq, .gt],
      c.admits o = true → d.admits o = true → d = c := by
    cases o <;> decide
  have found : ∃ c ∈ [Comparison.lt, .eq, .gt], c.admits o = true := by cases o <;> decide
  obtain ⟨c, listed, holds⟩ := found
  exact ⟨c, ⟨listed, holds⟩, fun d hd => alone c listed d hd.1 holds hd.2⟩

end Comparison

namespace Expr

variable {item : Record} {x y : Expr}

theorem eval_compare (left : x.eval item = .ok a) (right : y.eval item = .ok b)
    (c : Comparison) : (compare c x y).eval item = .ok (.bool (c.holds a b)) := by
  rw [eval, left, right]
  rfl

/-- Read from the other side a comparison gives the same. Only where both operands fail, the error
is that of the operand which then comes first. -/
theorem eval_converse (item : Record) (x y : Expr) (c : Comparison) :
    (compare c.converse y x).eval item = (compare c x y).eval item ∨
      ∃ e f, x.eval item = .error e ∧ y.eval item = .error f ∧
        (compare c x y).eval item = .error e ∧ (compare c.converse y x).eval item = .error f := by
  cases left : x.eval item with
  | ok a =>
    left
    cases right : y.eval item with
    | ok b => rw [eval_compare left right, eval_compare right left, Comparison.holds_converse]
    | error f => rw [eval, eval, left, right]; rfl
  | error e =>
    cases right : y.eval item with
    | ok b => left; rw [eval, eval, left, right]; rfl
    | error f =>
      right
      refine ⟨e, f, rfl, rfl, ?_, ?_⟩
      · rw [eval, left]; rfl
      · rw [eval, right]; rfl

def TrueOn (item : Record) (e : Expr) : Prop := e.eval item = .ok (.bool true)

theorem trueOn_compare (left : x.eval item = .ok a) (right : y.eval item = .ok b)
    (ordered : a.order b = some o) (c : Comparison) :
    (compare c x y).TrueOn item ↔ c.admits o = true := by
  rw [TrueOn, eval_compare left right, Comparison.holds_ordered ordered]
  simp only [Except.ok.injEq, Value.bool.injEq]

end Expr

/-- Equality and order may be read from either side, and where values are ordered, they are equal
exactly when the order says so. So a comparison in a query is the same as its converse with the
operands exchanged, and exactly one of `<`, `==` and `>` holds of operands that are ordered. -/
theorem comparisons_agree (a b : Value) :
    a.looseEq b = b.looseEq a ∧ b.order a = (a.order b).map Ordering.swap ∧
    (∀ o, a.order b = some o → (a.looseEq b = true ↔ o = .eq)) ∧
    ∀ (item : Record) (x y : Expr),
      (∀ c, (Expr.compare c.converse y x).eval item = (Expr.compare c x y).eval item ∨
        ∃ e f, x.eval item = .error e ∧ y.eval item = .error f ∧
          (Expr.compare c x y).eval item = .error e ∧
          (Expr.compare c.converse y x).eval item = .error f) ∧
      (x.eval item = .ok a → y.eval item = .ok b → (a.order b).isSome →
        (∃! c, c ∈ [Comparison.lt, .eq, .gt] ∧ (Expr.compare c x y).TrueOn item) ∧
        ((Expr.compare .le x y).TrueOn item ↔
          (Expr.compare .lt x y).TrueOn item ∨ (Expr.compare .eq x y).TrueOn item) ∧
        ((Expr.compare .ne x y).TrueOn item ↔
          (Expr.compare .lt x y).TrueOn item ∨ (Expr.compare .gt x y).TrueOn item)) := by
  refine ⟨a.looseEq_comm b, (a.order_swap b).symm, fun o => Value.looseEq_iff_order,
    fun item x y => ⟨Expr.eval_converse item x y, fun left right some => ?_⟩⟩
  obtain ⟨o, ordered⟩ := Option.isSome_iff_exists.mp some
  simp only [Expr.trueOn_compare left right ordered]
  refine ⟨Comparison.admits_one o, ?_, ?_⟩ <;> cases o <;> decide

/-- A number and a text with blanks around the number that it spells. -/
theorem comparisons_agree_spelled :
    (Value.number (.ofNat 2)).order (.string " 10 ") = some .lt ∧
      (Value.string " 10 ").order (.number (.ofNat 2)) = some .gt ∧
      ∃! c, c ∈ [Comparison.lt, .eq, .gt] ∧
        (Expr.compare c (.literal (.number (.ofNat 2))) (.literal (.string " 10 "))).TrueOn
          fun _ => .null := by
  have ordered : (Value.number (.ofNat 2)).order (.string " 10 ") = some .lt := by decide +kernel
  obtain ⟨-, turned, -, queries⟩ :=
    comparisons_agree (.number (.ofNat 2)) (.string " 10 ")
  rw [ordered] at turned queries
  exact ⟨ordered, turned, ((queries _ _ _).2 rfl rfl rfl).1⟩

end Query

end RefViewer
