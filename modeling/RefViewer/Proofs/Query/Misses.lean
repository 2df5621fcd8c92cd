import RefViewer.Proofs.Query.Outcome

/-!
# Misses of readers

Where a reader misses, one of the readers it is made of misses, in a place that was reached by
reading. A reader of many items misses behind the items it has read, whether it keeps them or not.
-/

namespace RefViewer.Query

namespace Misses

def At (misses : Misses) (k : Nat) : Prop := misses.rules ≠ [] ∧ misses.left = k

theorem At.of_and {a b : Misses} (missed : (a.and b).At k) : a.At k ∨ b.At k := by
  unfold and At at *
  grind

theorem At.of_inside {inner : Misses} {length : Nat}
    (missed : (inner.inside rule length).At k) : k = length ∨ inner.At k := by
  unfold inside At at *
  grind

theorem inside_rules (rule : Rule) (length : Nat) (inner : Misses) :
    (inner.inside rule length).rules ≠ [] := by
  unfold inside
  grind

theorem and_rules {a b : Misses} (given : a.rules ≠ [] ∨ b.rules ≠ []) :
    (a.and b).rules ≠ [] := by
  unfold and
  grind [List.append_eq_nil_iff]

end Misses

namespace Reader

variable {α β : Type}

/-- The furthest miss of the reader leaves `k` characters. -/
def MissesAt (p : Reader α) (text : List Char) (k : Nat) : Prop := (p text).misses.At k

-- ---------------------------------------------------------------------------
-- Sequence and choice
-- ---------------------------------------------------------------------------

theorem MissesAt.of_bind {p : Reader α} {next : α → Reader β}
    (missed : MissesAt (p >>= next) text k) :
    MissesAt p text k ∨ ∃ a mid, Reads p text a mid ∧ MissesAt (next a) mid k := by
  simp only [MissesAt, Reads] at missed ⊢
  change (andThen p next text).misses.At k at missed
  rcases hp : p text with ⟨outcome, misses⟩
  cases outcome with
  | none =>
    simp only [andThen, hp] at missed
    exact .inl missed
  | some taken =>
    simp only [andThen, hp] at missed
    rcases missed.of_and with first | second
    · exact .inl first
    · exact .inr ⟨taken.1, taken.2, rfl, second⟩

theorem MissesAt.of_or {p q : Reader α} (missed : MissesAt (p.or q) text k) :
    MissesAt p text k ∨ MissesAt q text k := by
  simp only [MissesAt] at missed ⊢
  rcases hp : p text with ⟨outcome, misses⟩
  cases outcome with
  | none =>
    simp only [Reader.or, hp] at missed
    exact missed.of_and
  | some taken =>
    simp only [Reader.or, hp] at missed
    exact .inl missed

theorem MissesAt.of_firstOf {readers : List (Reader α)}
    (missed : MissesAt (firstOf readers) text k) : ∃ p ∈ readers, MissesAt p text k := by
  induction readers with
  | nil => exact absurd rfl missed.1
  | cons p readers ih =>
    rcases MissesAt.of_or (q := firstOf readers) missed with first | others
    · exact ⟨p, List.mem_cons_self, first⟩
    · obtain ⟨other, hm, found⟩ := ih others
      exact ⟨other, List.mem_cons_of_mem p hm, found⟩

/-- Nothing in the reader has a name that it could miss. -/
structure Silent (p : Reader α) : Prop where
  never : ∀ {text k}, ¬ MissesAt p text k

theorem silent_pure (a : α) : Silent (pure a : Reader α) := ⟨fun missed => missed.1 rfl⟩

theorem silent_skipGap : Silent skipGap := ⟨fun missed => missed.1 rfl⟩

theorem silent_lexeme (take : List Char → Option (α × List Char)) : Silent (lexeme take) :=
  ⟨fun missed => missed.1 rfl⟩

theorem silent_notBefore (c : Char) : Silent (notBefore c) := ⟨fun missed => missed.1 rfl⟩

theorem Silent.bind {p : Reader α} {next : α → Reader β} (first : Silent p)
    (second : ∀ a, Silent (next a)) : Silent (p >>= next) where
  never missed := by
    rcases MissesAt.of_bind missed with missed | ⟨a, mid, -, missed⟩
    · exact first.never missed
    · exact (second a).never missed

-- ---------------------------------------------------------------------------
-- Names
-- ---------------------------------------------------------------------------

theorem MissesAt.of_named {p : Reader α} (missed : MissesAt (named rule p) text k) :
    k = text.length ∨ MissesAt p text k := by
  simp only [MissesAt] at missed ⊢
  rcases hp : p text with ⟨outcome, misses⟩
  cases outcome with
  | none =>
    simp only [named, hp] at missed
    exact missed.of_inside
  | some taken =>
    simp only [named, hp] at missed
    exact .inr missed

-- ---------------------------------------------------------------------------
-- Refusals
-- ---------------------------------------------------------------------------

/-- What the reader refuses it has missed. -/
structure Tells (p : Reader α) : Prop where
  missed : ∀ {text}, Refuses p text → (p text).misses.rules ≠ []

theorem tells_pure (a : α) : Tells (pure a : Reader α) :=
  ⟨fun refuses => absurd refuses (reads_pure a _).not_refuses⟩

theorem tells_skipGap : Tells skipGap := ⟨fun refuses => by cases refuses⟩

theorem tells_named (rule : Rule) (p : Reader α) : Tells (named rule p) where
  missed {text} refuses := by
    have none : (p text).outcome = none := (named_outcome rule p text).symm.trans refuses
    rcases hp : p text with ⟨outcome, misses⟩
    rw [hp] at none
    subst none
    simp only [named, hp]
    exact Misses.inside_rules rule text.length misses

theorem Tells.bind {p : Reader α} {next : α → Reader β} (first : Tells p)
    (second : ∀ a, Tells (next a)) : Tells (p >>= next) where
  missed {text} refuses := by
    change (andThen p next text).misses.rules ≠ []
    rcases hp : p text with ⟨outcome, misses⟩
    cases outcome with
    | none =>
      have refused : Refuses p text := by rw [Refuses, hp]
      have missed := first.missed refused
      rw [hp] at missed
      simpa only [andThen, hp] using missed
    | some taken =>
      have read : Reads p text taken.1 taken.2 := by rw [Reads, hp]
      have refused : Refuses (next taken.1) taken.2 := by
        rcases reads_or_refuses (next taken.1) taken.2 with ⟨b, rest, reads⟩ | none
        · exact absurd refuses (read.bind reads).not_refuses
        · exact none
      simp only [andThen, hp]
      exact Misses.and_rules (.inr ((second taken.1).missed refused))

-- ---------------------------------------------------------------------------
-- Items
-- ---------------------------------------------------------------------------

inductive Steps (p : Reader α) : List Char → List α → List Char → Prop
  | done : Steps p text [] text
  | item (first : Reads p text a mid) (shorter : mid.length < text.length)
      (later : Steps p mid items rest) : Steps p text (a :: items) rest

theorem Repeats.steps {p : Reader α} (repeats : Repeats p text items rest) :
    Steps p text items rest ∧ Refuses p rest := by
  induction repeats with
  | stop refused => exact ⟨.done, refused⟩
  | item first shorter _ ih => exact ⟨.item first shorter ih.1, ih.2⟩

theorem Steps.repeats {p : Reader α} (steps : Steps p text items mid)
    (later : Repeats p mid more rest) : Repeats p text (items ++ more) rest := by
  induction steps with
  | done => exact later
  | item first shorter _ ih => exact .item first shorter (ih later)

theorem MissesAt.of_manyUpTo {p : Reader α} (advances : Takes 1 p) :
    ∀ {fuel text}, MissesAt (manyUpTo p fuel) text k →
      ∃ items mid, Steps p text items mid ∧ MissesAt p mid k := by
  intro fuel
  induction fuel with
  | zero =>
    intro text missed
    exact absurd missed (silent_pure []).never
  | succ fuel ih =>
    intro text missed
    rcases MissesAt.of_or missed with missed | missed
    · rcases MissesAt.of_bind missed with first | ⟨a, mid, read, missed⟩
      · exact ⟨[], text, .done, first⟩
      · rcases MissesAt.of_bind missed with others | ⟨items, rest, -, last⟩
        · obtain ⟨items, left, steps, found⟩ := ih others
          exact ⟨a :: items, left, .item read (advances.length_le read) steps, found⟩
        · exact absurd last (silent_pure (a :: items)).never
    · exact absurd missed (silent_pure []).never

/-- The items may be given up later on, but they were read. -/
theorem MissesAt.of_many {p : Reader α} (advances : Takes 1 p)
    (missed : MissesAt (many p) text k) :
    ∃ items mid, Steps p text items mid ∧ MissesAt p mid k :=
  MissesAt.of_manyUpTo advances missed

end Reader

end RefViewer.Query
