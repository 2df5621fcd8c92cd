import RefViewer.Query.Term

/-!
# Grouping by level

Operands and operators come in a row. A level says which operators an operand still takes to
its right: those above it. Equal levels group to the left, and the operand of a sign takes
the operators above the sign's level.
-/

namespace RefViewer.Query.Precedence

mutual

def operand : Nat → Operand → List Link → Term × List Link
  | 0, first, links => (first.term, links)
  | _ + 1, ⟨[], term⟩, links => (term, links)
  | fuel + 1, ⟨sign :: signs, term⟩, links =>
    let (inner, rest) := operand fuel ⟨signs, term⟩ links
    let (whole, rest) := extend fuel (sign.level - 1) inner rest
    (.signed sign whole, rest)

/-- Takes every following operator above `level` to the right of `lhs`. -/
def extend : Nat → Nat → Term → List Link → Term × List Link
  | 0, _, lhs, links => (lhs, links)
  | _ + 1, _, lhs, [] => (lhs, [])
  | fuel + 1, level, lhs, link :: links =>
    if level < link.operator.level then
      let (first, rest) := operand fuel link.operand links
      let (rhs, rest) := extend fuel link.operator.level first rest
      extend fuel level (.binary link.operator lhs rhs) rest
    else (lhs, link :: links)

end

/-- Every call takes a sign or an operator, or is the last at its place. -/
def fuel (first : Operand) (links : List Link) : Nat :=
  links.foldl (fun n link => n + 2 * (link.operand.signs.length + 1)) (2 * first.signs.length + 2)

def group (first : Operand) (links : List Link) : Term :=
  let n := fuel first links
  let (lhs, rest) := operand n first links
  (extend n 0 lhs rest).1

end RefViewer.Query.Precedence
