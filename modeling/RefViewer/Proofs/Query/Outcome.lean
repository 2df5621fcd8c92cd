import RefViewer.Query.Reader

/-!
# Outcomes of readers

What a reader takes and leaves, its misses aside: one rule for each combinator, and one that
takes a success apart. A run of items is a derivation, so that it can be built from either end.
-/

namespace RefViewer.Query.Reader

variable {α β : Type}

/-- The reader takes `a` from the front of `text` and leaves `rest`. -/
def Reads (p : Reader α) (text : List Char) (a : α) (rest : List Char) : Prop :=
  (p text).outcome = some (a, rest)

def Refuses (p : Reader α) (text : List Char) : Prop := (p text).outcome = none

-- ---------------------------------------------------------------------------
-- Sequence
-- ---------------------------------------------------------------------------

theorem reads_pure (a : α) (text : List Char) : Reads (pure a) text a text := rfl

theorem Reads.bind {p : Reader α} {next : α → Reader β} (first : Reads p text a mid)
    (second : Reads (next a) mid b rest) : Reads (p >>= next) text b rest := by
  simp only [Reads] at first second ⊢
  change (andThen p next text).outcome = _
  rcases hp : p text with ⟨outcome, misses⟩
  rw [hp] at first
  subst first
  simp only [andThen, hp, second]

theorem Refuses.bind {p : Reader α} (next : α → Reader β) (first : Refuses p text) :
    Refuses (p >>= next) text := by
  simp only [Refuses] at first ⊢
  change (andThen p next text).outcome = _
  rcases hp : p text with ⟨outcome, misses⟩
  rw [hp] at first
  subst first
  simp only [andThen, hp]

theorem Reads.bind_refuses {p : Reader α} {next : α → Reader β} (first : Reads p text a mid)
    (second : Refuses (next a) mid) : Refuses (p >>= next) text := by
  simp only [Reads, Refuses] at first second ⊢
  change (andThen p next text).outcome = _
  rcases hp : p text with ⟨outcome, misses⟩
  rw [hp] at first
  subst first
  simp only [andThen, hp, second]

theorem Reads.map {p : Reader α} (f : α → β) (first : Reads p text a rest) :
    Reads (f <$> p) text (f a) rest :=
  first.bind (reads_pure (f a) rest)

theorem Refuses.map {p : Reader α} (f : α → β) (first : Refuses p text) :
    Refuses (f <$> p) text :=
  first.bind _

-- ---------------------------------------------------------------------------
-- Choice
-- ---------------------------------------------------------------------------

theorem Reads.or_left {p : Reader α} (q : Reader α) (first : Reads p text a rest) :
    Reads (p.or q) text a rest := by
  simp only [Reads] at first ⊢
  rcases hp : p text with ⟨outcome, misses⟩
  rw [hp] at first
  subst first
  simp only [Reader.or, hp]

theorem Refuses.or_outcome {p : Reader α} (q : Reader α) (first : Refuses p text) :
    (p.or q text).outcome = (q text).outcome := by
  simp only [Refuses] at first
  rcases hp : p text with ⟨outcome, misses⟩
  rw [hp] at first
  subst first
  simp only [Reader.or, hp]

theorem Reads.or_right {p q : Reader α} (first : Refuses p text) (second : Reads q text a rest) :
    Reads (p.or q) text a rest :=
  (first.or_outcome q).trans second

theorem Refuses.or {p q : Reader α} (first : Refuses p text) (second : Refuses q text) :
    Refuses (p.or q) text :=
  (first.or_outcome q).trans second

theorem refuses_fail (text : List Char) : Refuses (fail : Reader α) text := rfl

-- ---------------------------------------------------------------------------
-- Names and tokens
-- ---------------------------------------------------------------------------

theorem named_outcome (rule : Rule) (p : Reader α) (text : List Char) :
    (named rule p text).outcome = (p text).outcome := by
  rcases hp : p text with ⟨outcome, misses⟩
  cases outcome <;> simp only [named, hp]

theorem Reads.named {p : Reader α} (rule : Rule) (reads : Reads p text a rest) :
    Reads (named rule p) text a rest :=
  (named_outcome rule p text).trans reads

theorem Refuses.named {p : Reader α} (rule : Rule) (refuses : Refuses p text) :
    Refuses (named rule p) text :=
  (named_outcome rule p text).trans refuses

theorem reads_lexeme {take : List Char → Option (α × List Char)}
    (taken : take text = some (a, rest)) :
    Reads (lexeme take) text a (rest.dropWhile isGap) := by
  simp only [Reads, lexeme, taken, Option.map_some]

theorem refuses_lexeme {take : List Char → Option (α × List Char)} (refused : take text = none) :
    Refuses (lexeme take) text := by
  simp only [Refuses, lexeme, refused, Option.map_none]

theorem reads_notBefore (ahead : text.head? ≠ some c) : Reads (notBefore c) text () text := by
  simp only [Reads, notBefore, if_neg ahead]

-- ---------------------------------------------------------------------------
-- Runs of items
-- ---------------------------------------------------------------------------

/-- One item after the other is read, each of at least one character, until the next one is
refused. -/
inductive Repeats (p : Reader α) : List Char → List α → List Char → Prop
  | stop (refused : Refuses p text) : Repeats p text [] text
  | item (first : Reads p text a mid) (shorter : mid.length < text.length)
      (later : Repeats p mid items rest) : Repeats p text (a :: items) rest

theorem Repeats.manyUpTo {p : Reader α} (repeats : Repeats p text items rest) :
    ∀ fuel, text.length < fuel → Reads (manyUpTo p fuel) text items rest := by
  induction repeats with
  | stop refused =>
    intro fuel enough
    obtain ⟨fuel, rfl⟩ : ∃ n, fuel = n + 1 := ⟨fuel - 1, by omega⟩
    exact .or_right (refused.bind _) (reads_pure [] _)
  | item first shorter later ih =>
    intro fuel enough
    obtain ⟨fuel, rfl⟩ : ∃ n, fuel = n + 1 := ⟨fuel - 1, by omega⟩
    have others := ih fuel (by omega)
    exact (first.bind (others.bind (reads_pure (_ :: _) _))).or_left _

theorem Repeats.many {p : Reader α} (repeats : Repeats p text items rest) :
    Reads (many p) text items rest :=
  repeats.manyUpTo (text.length + 1) (Nat.lt_succ_self _)

theorem Repeats.length_le {p : Reader α} (repeats : Repeats p text items rest) :
    rest.length ≤ text.length := by
  induction repeats with
  | stop _ => exact Nat.le_refl _
  | item _ shorter _ ih => exact Nat.le_trans ih (Nat.le_of_lt shorter)

theorem Repeats.refuses {p : Reader α} (repeats : Repeats p text items rest) : Refuses p rest := by
  induction repeats with
  | stop refused => exact refused
  | item _ _ _ ih => exact ih

theorem Repeats.begins {p : Reader α} {E : List Char → Prop}
    (repeats : Repeats p text items rest)
    (meets : ∀ {text a rest}, Reads p text a rest → E text) (ended : E rest) : E text := by
  cases repeats with
  | stop _ => exact ended
  | item first _ _ => exact meets first

-- ---------------------------------------------------------------------------
-- What a success tells
-- ---------------------------------------------------------------------------

theorem reads_or_refuses (p : Reader α) (text : List Char) :
    (∃ a rest, Reads p text a rest) ∨ Refuses p text := by
  simp only [Reads, Refuses]
  cases (p text).outcome with
  | none => exact .inr rfl
  | some taken => exact .inl ⟨taken.1, taken.2, rfl⟩

theorem Reads.not_refuses {p : Reader α} (reads : Reads p text a rest) : ¬ Refuses p text :=
  fun refuses => by cases reads.symm.trans refuses

theorem Reads.of_pure {a b : α} (reads : Reads (pure a) text b rest) : a = b ∧ text = rest := by
  cases reads
  exact ⟨rfl, rfl⟩

theorem Reads.of_bind {p : Reader α} {next : α → Reader β}
    (reads : Reads (p >>= next) text b rest) :
    ∃ a mid, Reads p text a mid ∧ Reads (next a) mid b rest := by
  rcases reads_or_refuses p text with ⟨a, mid, first⟩ | refuses
  · rcases reads_or_refuses (next a) mid with ⟨c, left, second⟩ | refuses
    · cases reads.symm.trans (first.bind second)
      exact ⟨a, mid, first, second⟩
    · exact absurd (first.bind_refuses refuses) reads.not_refuses
  · exact absurd (refuses.bind next) reads.not_refuses

theorem Reads.of_map {p : Reader α} {f : α → β} (reads : Reads (f <$> p) text b rest) :
    ∃ a, Reads p text a rest ∧ f a = b := by
  obtain ⟨a, mid, first, second⟩ := Reads.of_bind reads
  obtain ⟨same, rfl⟩ := Reads.of_pure second
  exact ⟨a, first, same⟩

theorem Refuses.of_map {p : Reader α} {f : α → β} (refused : Refuses (f <$> p) text) :
    Refuses p text := by
  rcases reads_or_refuses p text with ⟨a, rest, reads⟩ | none
  · exact absurd refused (reads.map f).not_refuses
  · exact none

theorem Reads.of_or {p q : Reader α} (reads : Reads (p.or q) text a rest) :
    Reads p text a rest ∨ (Refuses p text ∧ Reads q text a rest) := by
  rcases reads_or_refuses p text with ⟨b, mid, first⟩ | refuses
  · cases reads.symm.trans (first.or_left q)
    exact .inl first
  · exact .inr ⟨refuses, (refuses.or_outcome q).symm.trans reads⟩

theorem Refuses.of_or {p q : Reader α} (refuses : Refuses (p.or q) text) :
    Refuses p text ∧ Refuses q text := by
  rcases reads_or_refuses p text with ⟨a, rest, first⟩ | none
  · exact absurd refuses (first.or_left q).not_refuses
  · exact ⟨none, (none.or_outcome q).symm.trans refuses⟩

theorem Reads.of_firstOf {readers : List (Reader α)}
    (reads : Reads (firstOf readers) text a rest) : ∃ p ∈ readers, Reads p text a rest := by
  induction readers with
  | nil => cases reads
  | cons p readers ih =>
    rcases Reads.of_or (q := firstOf readers) reads with first | ⟨-, later⟩
    · exact ⟨p, List.mem_cons_self, first⟩
    · obtain ⟨other, hm, found⟩ := ih later
      exact ⟨other, List.mem_cons_of_mem p hm, found⟩

theorem firstOf_congr {readers : List (Reader α)}
    (same : ∀ p ∈ readers, (p text).outcome = (p other).outcome) :
    (firstOf readers text).outcome = (firstOf readers other).outcome := by
  induction readers with
  | nil => rfl
  | cons p readers ih =>
    obtain ⟨first, others⟩ := List.forall_mem_cons.mp same
    have later := ih others
    rcases reads_or_refuses p text with ⟨a, rest, reads⟩ | refuses
    · have here : Reads p other a rest := first.symm.trans reads
      exact (reads.or_left (firstOf readers)).trans (here.or_left (firstOf readers)).symm
    · have here : Refuses p other := first.symm.trans refuses
      exact (refuses.or_outcome _).trans (later.trans (here.or_outcome _).symm)

theorem Reads.of_named {p : Reader α} (reads : Reads (Reader.named rule p) text a rest) :
    Reads p text a rest :=
  (named_outcome rule p text).symm.trans reads

theorem Reads.of_lexeme {take : List Char → Option (α × List Char)}
    (reads : Reads (lexeme take) text a rest) :
    ∃ left, take text = some (a, left) ∧ left.dropWhile isGap = rest := by
  simp only [Reads, lexeme, Option.map_eq_some_iff, Prod.mk.injEq] at reads
  obtain ⟨⟨_, left⟩, taken, rfl, rfl⟩ := reads
  exact ⟨left, taken, rfl⟩

theorem Reads.of_notBefore (reads : Reads (notBefore c) text a rest) :
    text.head? ≠ some c ∧ text = rest := by
  simp only [Reads, notBefore] at reads
  split at reads
  · cases reads
  · next ahead =>
    cases reads
    exact ⟨ahead, rfl⟩

-- ---------------------------------------------------------------------------
-- Progress
-- ---------------------------------------------------------------------------

structure Takes (n : Nat) (p : Reader α) : Prop where
  length_le : ∀ {text a rest}, Reads p text a rest → rest.length + n ≤ text.length

theorem Takes.weaken {p : Reader α} (h : Takes n p) : Takes 0 p :=
  ⟨fun reads => Nat.le_trans (Nat.le_add_right _ n) (h.length_le reads)⟩

theorem takes_pure (a : α) : Takes 0 (pure a : Reader α) := by
  constructor
  intro text b rest reads
  obtain ⟨-, rfl⟩ := Reads.of_pure reads
  exact Nat.le_refl _

theorem Takes.bind {p : Reader α} {next : α → Reader β} (first : Takes n p)
    (second : ∀ a, Takes 0 (next a)) : Takes n (p >>= next) := by
  constructor
  intro text b rest reads
  obtain ⟨a, mid, taken, later⟩ := Reads.of_bind reads
  have before := first.length_le taken
  have after := (second a).length_le later
  omega

theorem Takes.or {p q : Reader α} (first : Takes n p) (second : Takes n q) :
    Takes n (p.or q) := by
  constructor
  intro text a rest reads
  rcases Reads.of_or reads with reads | ⟨-, reads⟩
  · exact first.length_le reads
  · exact second.length_le reads

theorem Takes.named {p : Reader α} (rule : Rule) (h : Takes n p) : Takes n (named rule p) :=
  ⟨fun reads => h.length_le (Reads.of_named reads)⟩

theorem takes_lexeme {take : List Char → Option (α × List Char)}
    (h : ∀ text a left, take text = some (a, left) → left.length + n ≤ text.length) :
    Takes n (lexeme take) := by
  constructor
  intro text a rest reads
  obtain ⟨left, taken, rfl⟩ := Reads.of_lexeme reads
  have gap := (List.dropWhile_sublist isGap (l := left)).length_le
  have before := h text a left taken
  omega

theorem Takes.many {p : Reader α} (h : Takes n p) : Takes 0 (many p) := by
  have upTo : ∀ fuel, Takes 0 (manyUpTo p fuel) := by
    intro fuel
    induction fuel with
    | zero => exact takes_pure []
    | succ fuel ih => exact (h.weaken.bind fun a => ih.bind fun _ => takes_pure _).or (takes_pure [])
  exact ⟨fun reads => (upTo _).length_le reads⟩

theorem manyUpTo_reads (p : Reader α) (fuel : Nat) (text : List Char) :
    ∃ items rest, Reads (manyUpTo p fuel) text items rest := by
  rcases reads_or_refuses (manyUpTo p fuel) text with reads | refuses
  · exact reads
  · cases fuel with
    | zero => cases refuses
    | succ fuel =>
      -- Whatever became of the first choice, the second one takes nothing and succeeds.
      rcases reads_or_refuses _ text with ⟨items, rest, first⟩ | none
      · exact ⟨items, rest, first.or_left _⟩
      · exact ⟨[], text, .or_right none (reads_pure [] text)⟩

theorem Takes.manyUpTo {p : Reader α} (advances : Takes 1 p) :
    ∀ fuel text items rest, text.length < fuel → Reads (manyUpTo p fuel) text items rest →
      Repeats p text items rest := by
  intro fuel
  induction fuel with
  | zero =>
    intro text items rest enough
    exact absurd enough (Nat.not_lt_zero _)
  | succ fuel ih =>
    intro text items rest enough reads
    rcases Reads.of_or reads with reads | ⟨refuses, reads⟩
    · obtain ⟨first, mid, item, later⟩ := Reads.of_bind reads
      obtain ⟨others, left, others_read, last⟩ := Reads.of_bind later
      obtain ⟨rfl, rfl⟩ := Reads.of_pure last
      have shorter := advances.length_le item
      exact .item item (by omega) (ih mid others left (by omega) others_read)
    · obtain ⟨rfl, rfl⟩ := Reads.of_pure reads
      rcases reads_or_refuses p text with ⟨first, mid, item⟩ | refused
      · obtain ⟨others, left, more⟩ := manyUpTo_reads p fuel mid
        exact absurd refuses (Reads.not_refuses (item.bind (more.bind (reads_pure _ left))))
      · exact .stop refused

theorem Takes.of_many {p : Reader α} (advances : Takes 1 p)
    (reads : Reads (Reader.many p) text items rest) : Repeats p text items rest :=
  advances.manyUpTo (text.length + 1) text items rest (Nat.lt_succ_self _) reads

end RefViewer.Query.Reader
