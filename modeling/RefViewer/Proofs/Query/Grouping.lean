import RefViewer.Query.Precedence

/-!
# Grouping inverts the row of a term

A term without groups is written as a row: operands with signs, joined by operators. When
every operand binds at least as tight as its place asks, grouping the row by levels gives the
term back. Grouping is told as a derivation first, without the fuel.
-/

namespace RefViewer.Query

-- ---------------------------------------------------------------------------
-- Levels and rows
-- ---------------------------------------------------------------------------

def closest : Nat := 7

theorem Operator.level_pos (operator : Operator) : 0 < operator.level := by
  cases operator <;> decide

theorem Operator.level_lt_closest (operator : Operator) : operator.level < closest := by
  cases operator <;> decide

theorem Sign.level_pos (sign : Sign) : 0 < sign.level := by
  cases sign <;> decide

theorem Sign.level_lt_closest (sign : Sign) : sign.level < closest := by
  cases sign <;> decide

theorem Operator.level_ne_sign (operator : Operator) (sign : Sign) :
    operator.level ≠ sign.level := by
  cases operator <;> cases sign <;> decide

namespace Term

def level : Term → Nat
  | .signed sign _ => sign.level
  | .binary operator _ _ => operator.level
  | _ => closest

def firstOperand : Term → Operand
  | .signed sign operand => ⟨sign :: operand.firstOperand.signs, operand.firstOperand.term⟩
  | .binary _ lhs _ => lhs.firstOperand
  | term => ⟨[], term⟩

def links : Term → List Link
  | .signed _ operand => operand.links
  | .binary operator lhs rhs => lhs.links ++ ⟨operator, rhs.firstOperand⟩ :: rhs.links
  | _ => []

/-- Along the row every operand is tight enough for its place. The right operand of an
operator has to be tighter, since equal levels group to the left. -/
inductive Grouped : Term → Prop
  | leaf (tight : term.level = closest) : Grouped term
  | signed (inner : Grouped operand) (tight : sign.level ≤ operand.level) :
      Grouped (.signed sign operand)
  | binary (left : Grouped lhs) (right : Grouped rhs) (tight : operator.level ≤ lhs.level)
      (tighter : operator.level < rhs.level) : Grouped (.binary operator lhs rhs)

theorem firstOperand_leaf (tight : level term = closest) : term.firstOperand = ⟨[], term⟩ := by
  cases term with
  | signed sign operand => exact absurd tight (Nat.ne_of_lt sign.level_lt_closest)
  | binary operator lhs rhs => exact absurd tight (Nat.ne_of_lt operator.level_lt_closest)
  | _ => rfl

theorem links_leaf (tight : level term = closest) : term.links = [] := by
  cases term with
  | signed sign operand => exact absurd tight (Nat.ne_of_lt sign.level_lt_closest)
  | binary operator lhs rhs => exact absurd tight (Nat.ne_of_lt operator.level_lt_closest)
  | _ => rfl

theorem Grouped.level_pos (grouped : Grouped term) : 0 < term.level := by
  cases grouped with
  | leaf tight => rw [tight]; decide
  | signed _ _ => exact Sign.level_pos _
  | binary _ _ _ _ => exact Operator.level_pos _

end Term

namespace Precedence

-- ---------------------------------------------------------------------------
-- Grouping as a derivation
-- ---------------------------------------------------------------------------

def StopsAt (level : Nat) (links : List Link) : Prop :=
  ∀ link ∈ links.head?, link.operator.level ≤ level

mutual

inductive Opens : Operand → List Link → Term → List Link → Prop
  | bare : Opens ⟨[], term⟩ links term links
  | signed (inner : Opens ⟨signs, term⟩ links first mid)
      (whole : Extends (sign.level - 1) first mid body rest) :
      Opens ⟨sign :: signs, term⟩ links (.signed sign body) rest

inductive Extends : Nat → Term → List Link → Term → List Link → Prop
  | stop (stops : StopsAt level links) : Extends level lhs links lhs links
  | take (above : level < operator.level) (opens : Opens next links first mid)
      (right : Extends operator.level first mid rhs after)
      (later : Extends level (.binary operator lhs rhs) after whole rest) :
      Extends level lhs (⟨operator, next⟩ :: links) whole rest

end

def weight : List Link → Nat
  | [] => 0
  | link :: links => 2 * (link.operand.signs.length + 1) + weight links

theorem fuel_eq (first : Operand) (links : List Link) :
    fuel first links = 2 * first.signs.length + 2 + weight links := by
  unfold fuel
  generalize 2 * first.signs.length + 2 = start
  induction links generalizing start with
  | nil => rfl
  | cons link links ih =>
    rw [List.foldl_cons, ih, weight]
    omega

mutual

theorem Opens.weight_le : Opens first links term rest → weight rest ≤ weight links
  | .bare => Nat.le_refl _
  | .signed inner whole => Nat.le_trans whole.weight_le inner.weight_le

theorem Extends.weight_le : Extends level lhs links whole rest → weight rest ≤ weight links
  | .stop _ => Nat.le_refl _
  | .take _ opens right later => by
    have ho := opens.weight_le
    have hr := right.weight_le
    have hl := later.weight_le
    rw [weight]
    omega

end

mutual

theorem Opens.operand_eq : Opens first links term rest →
    ∀ fuel, 2 * first.signs.length + weight links < fuel →
      operand fuel first links = (term, rest)
  | .bare, 0, enough => absurd enough (Nat.not_lt_zero _)
  | .bare, _ + 1, _ => rfl
  | .signed .., 0, enough => absurd enough (Nat.not_lt_zero _)
  | .signed inner whole, fuel + 1, enough => by
    have weights := inner.weight_le
    simp only [List.length_cons] at enough
    have hi := inner.operand_eq fuel (by simp only; omega)
    have hw := whole.extend_eq fuel (by omega)
    simp only [operand, hi, hw]

theorem Extends.extend_eq : Extends level lhs links whole rest →
    ∀ fuel, weight links < fuel → extend fuel level lhs links = (whole, rest)
  | _, 0, enough => absurd enough (Nat.not_lt_zero _)
  | .stop stops, fuel + 1, _ => by
    cases links with
    | nil => rfl
    | cons link links =>
      have below : link.operator.level ≤ level := stops link rfl
      simp only [extend, if_neg (Nat.not_lt.mpr below)]
  | .take above opens right later, fuel + 1, enough => by
    simp only [weight] at enough
    have weightsOpened := opens.weight_le
    have weightsRight := right.weight_le
    have ho := opens.operand_eq fuel (by omega)
    have hr := right.extend_eq fuel (by omega)
    have hl := later.extend_eq fuel (by omega)
    simp only [extend, if_pos above, ho, hr, hl]

end

-- ---------------------------------------------------------------------------
-- The row of a grouped term
-- ---------------------------------------------------------------------------

theorem stopsAt_nil (level : Nat) : StopsAt level [] := by
  intro link hl
  cases hl

theorem stopsAt_cons : StopsAt level (link :: links) ↔ link.operator.level ≤ level := by
  simp only [StopsAt, List.head?_cons, Option.mem_some_iff, forall_eq']

theorem StopsAt.mono (stops : StopsAt level links) (le : level ≤ above) :
    StopsAt above links :=
  fun link hl => Nat.le_trans (stops link hl) le

/-- No operator stands at the level of a sign, so it also stops one below. -/
theorem StopsAt.below_sign {sign : Sign} (stops : StopsAt sign.level links) :
    StopsAt (sign.level - 1) links := by
  intro link hl
  have le := stops link hl
  have ne := link.operator.level_ne_sign sign
  omega

/-- The row of a grouped term is read as the term itself, wherever its surroundings would
take the term as a whole. -/
theorem opens_row (grouped : Term.Grouped term) :
    ∀ {level rest whole after}, level < term.level → StopsAt term.level rest →
      Extends level term rest whole after →
      ∃ lhs mid, Opens term.firstOperand (term.links ++ rest) lhs mid ∧
        Extends level lhs mid whole after := by
  induction grouped with
  | leaf tight =>
    intro level rest whole after _ _ grows
    rw [Term.firstOperand_leaf tight, Term.links_leaf tight]
    exact ⟨_, _, .bare, grows⟩
  | @signed body sign _ tight ih =>
    intro level rest whole after _ stops grows
    change StopsAt sign.level rest at stops
    have positive := sign.level_pos
    have ended : Extends (sign.level - 1) body rest body rest := .stop stops.below_sign
    obtain ⟨first, mid, opens, inner⟩ := ih (by omega) (stops.mono tight) ended
    exact ⟨_, _, .signed opens inner, grows⟩
  | @binary lhs rhs operator _ _ tight tighter ihl ihr =>
    intro level rest whole after above stops grows
    change level < operator.level at above
    change StopsAt operator.level rest at stops
    -- the right operand is read first: its row ends where the operator's own level stops
    have ended : Extends operator.level rhs rest rhs rest := .stop stops
    obtain ⟨first, mid, opens, right⟩ := ihr tighter (stops.mono (by omega)) ended
    have taken : Extends level lhs (⟨operator, rhs.firstOperand⟩ :: (rhs.links ++ rest))
        whole after := .take above opens right grows
    have left := ihl (by omega) (stopsAt_cons.mpr tight) taken
    simpa only [Term.firstOperand, Term.links, List.append_assoc, List.cons_append] using left

theorem group_row (grouped : Term.Grouped term) :
    group term.firstOperand term.links = term := by
  have ended : Extends 0 term [] term [] := .stop (stopsAt_nil 0)
  obtain ⟨lhs, mid, opens, grows⟩ := opens_row grouped grouped.level_pos (stopsAt_nil _) ended
  rw [List.append_nil] at opens
  have enough := fuel_eq term.firstOperand term.links
  have weights := opens.weight_le
  have ho := opens.operand_eq (fuel term.firstOperand term.links) (by omega)
  have hg := grows.extend_eq (fuel term.firstOperand term.links) (by omega)
  simp only [group, ho, hg]

end Precedence

end RefViewer.Query
