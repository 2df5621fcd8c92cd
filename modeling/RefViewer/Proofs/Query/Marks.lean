import RefViewer.Proofs.Query.Tokens
import RefViewer.Query.Size

/-!
# Marks of a text

The size check goes over marks, the grammar over tokens. Every token takes a mark off what the
check still allows, except that a word directly behind a number belongs to the number's mark.
So there are two ways to stand before a text: at the start of a token, or behind one.
-/

namespace RefViewer.Query.Size

-- ---------------------------------------------------------------------------
-- Marks
-- ---------------------------------------------------------------------------

def Mark.depthAfter (depth : Nat) : Mark → Nat
  | .opening => depth + 1
  | .closing => depth - 1
  | .negation | .plain => depth

/-- With `depth` parentheses open and `tokens` marks counted, the marks keep the limits. -/
structure Within (depth tokens : Nat) (marks : List Mark) : Prop where
  depth_le : depth ≤ maxNesting
  tokens_le : tokens ≤ maxTokens
  passes : ∃ negations, checkFrom ⟨depth, negations, tokens⟩ marks = .ok ()

section

variable {depth tokens : Nat} {mark : Mark} {later : List Mark}

theorem checkFrom_cons :
    checkFrom count (mark :: later) = .ok () ↔
      (count.add mark).depth + (count.add mark).negations ≤ maxNesting ∧
        (count.add mark).tokens ≤ maxTokens ∧ checkFrom (count.add mark) later = .ok () := by
  rw [checkFrom]
  by_cases deep : maxNesting < (count.add mark).depth + (count.add mark).negations
  · rw [if_pos deep]
    exact ⟨nofun, fun h => absurd h.1 (Nat.not_le.mpr deep)⟩
  · rw [if_neg deep]
    by_cases long : maxTokens < (count.add mark).tokens
    · rw [if_pos long]
      exact ⟨nofun, fun h => absurd h.2.1 (Nat.not_le.mpr long)⟩
    · rw [if_neg long]
      exact ⟨fun h => ⟨Nat.not_lt.mp deep, Nat.not_lt.mp long, h⟩, fun h => h.2.2⟩

theorem add_eq (depth negations tokens : Nat) (mark : Mark) :
    ∃ after, (Count.mk depth negations tokens).add mark =
      ⟨mark.depthAfter depth, after, tokens + 1⟩ := by
  cases mark <;> exact ⟨_, rfl⟩

theorem Within.tail (h : Within depth tokens (mark :: later)) :
    Within (mark.depthAfter depth) (tokens + 1) later := by
  obtain ⟨negations, passes⟩ := h.passes
  obtain ⟨after, counted⟩ := add_eq depth negations tokens mark
  rw [checkFrom_cons, counted] at passes
  obtain ⟨deep, long, passes⟩ := passes
  exact ⟨Nat.le_trans (Nat.le_add_right _ after) deep, long, after, passes⟩

theorem checkFrom_fewer {fewer : Nat} (le : fewer ≤ tokens)
    (passes : checkFrom ⟨depth, negations, tokens⟩ later = .ok ()) :
    checkFrom ⟨depth, negations, fewer⟩ later = .ok () := by
  induction later generalizing depth negations fewer tokens with
  | nil => rfl
  | cons mark later ih =>
    obtain ⟨deep, long, passes⟩ := checkFrom_cons.mp passes
    refine checkFrom_cons.mpr ?_
    cases mark <;>
      exact ⟨deep, Nat.le_trans (Nat.succ_le_succ le) long, ih (Nat.succ_le_succ le) passes⟩

theorem Within.fewer {fewer : Nat} (h : Within depth tokens later) (le : fewer ≤ tokens) :
    Within depth fewer later := by
  obtain ⟨negations, passes⟩ := h.passes
  exact ⟨h.depth_le, Nat.le_trans le h.tokens_le, negations, checkFrom_fewer le passes⟩

end

-- ---------------------------------------------------------------------------
-- Characters
-- ---------------------------------------------------------------------------

theorem isNameChar_range (h : Grammar.isNameChar c = true) : 48 ≤ c.toNat ∧ c.toNat < 128 := by
  have within {low high : Char} (above : low.val ≤ c.val) (below : c.val ≤ high.val) :
      low.toNat ≤ c.toNat ∧ c.toNat ≤ high.toNat :=
    ⟨UInt32.le_iff_toNat_le.mp above, UInt32.le_iff_toNat_le.mp below⟩
  have ends : 48 ≤ '0'.toNat ∧ '9'.toNat < 128 ∧ 48 ≤ 'A'.toNat ∧ 'Z'.toNat < 128 ∧
      48 ≤ 'a'.toNat ∧ 'z'.toNat < 128 := by
    decide
  rcases Bool.or_eq_true_iff.mp h with word | underscore
  · rcases Bool.or_eq_true_iff.mp word with alpha | digit
    · rcases Bool.or_eq_true_iff.mp alpha with upper | lower
      · obtain ⟨above, below⟩ := of_decide_eq_true upper
        have range : 'A'.toNat ≤ c.toNat ∧ c.toNat ≤ 'Z'.toNat := within above below
        omega
      · obtain ⟨above, below⟩ := Bool.and_eq_true_iff.mp lower
        have range : 'a'.toNat ≤ c.toNat ∧ c.toNat ≤ 'z'.toNat :=
          within (of_decide_eq_true above) (of_decide_eq_true below)
        omega
    · obtain ⟨above, below⟩ := Bool.and_eq_true_iff.mp digit
      have range : '0'.toNat ≤ c.toNat ∧ c.toNat ≤ '9'.toNat :=
        within (of_decide_eq_true above) (of_decide_eq_true below)
      omega
  · rw [of_decide_eq_true underscore]
    decide

theorem isWordChar_of_isNameChar (h : Grammar.isNameChar c = true) : isWordChar c = true := by
  have ascii := (isNameChar_range h).2
  simp only [Grammar.isNameChar, isWordChar, Bool.or_eq_true] at h ⊢
  rcases h with h | h
  · rw [Unicode.isAlphanumeric, if_pos ascii]
    exact .inl h
  · exact .inr h

theorem start_of_isGap (gap : Reader.isGap c = true) : Scan.start c = ([], .between) := by
  simp only [Reader.isGap, Bool.or_eq_true, decide_eq_true_eq] at gap
  rcases gap with ((rfl | rfl) | rfl) | rfl <;> rfl

theorem isWordChar_of_isGap (gap : Reader.isGap c = true) : isWordChar c = false := by
  simp only [Reader.isGap, Bool.or_eq_true, decide_eq_true_eq] at gap
  rcases gap with ((rfl | rfl) | rfl) | rfl <;> rfl

theorem start_of_isBlank (blank : Unicode.isBlank c = true) : Scan.start c = ([], .between) :=
  if_pos blank

theorem start_of_isWordChar (word : isWordChar c = true) (solid : ¬ Unicode.isBlank c = true) :
    Scan.start c = ([], .word [c]) := by
  have differs : ∀ d, isWordChar d = false → c ≠ d := fun d other => Grammar.ne_of_test word other
  have noQuote : ¬ (decide (c = '"') || decide (c = '\'')) = true := by
    simp only [Bool.or_eq_true, decide_eq_true_eq, not_or]
    exact ⟨differs _ rfl, differs _ rfl⟩
  rw [Scan.start, if_neg solid, if_neg noQuote, if_neg (differs _ rfl), if_neg (differs _ rfl),
    if_neg (differs _ rfl), if_pos word]

theorem start_of_isNameChar (name : Grammar.isNameChar c = true) :
    Scan.start c = ([], .word [c]) := by
  obtain ⟨low, high⟩ := isNameChar_range name
  refine start_of_isWordChar (isWordChar_of_isNameChar name) ?_
  simp only [Unicode.isBlank, if_pos high, Bool.or_eq_true, Bool.and_eq_true, decide_eq_true_eq]
  omega

-- ---------------------------------------------------------------------------
-- Marks of a text
-- ---------------------------------------------------------------------------

theorem marksFrom_cons (start : Scan.start c = (complete, scan)) (rest : List Char) :
    marksFrom .between (c :: rest) = complete ++ marksFrom scan rest := by
  rw [marksFrom, Scan.step, start]

theorem marksFrom_word (depth : Nat) (reversed text : List Char) :
    ∃ mark : Mark, mark.depthAfter depth = depth ∧ marksFrom (.word reversed) text =
      mark :: marksFrom .between (text.dropWhile isWordChar) := by
  have plain (reversed : List Char) : (wordMark reversed).depthAfter depth = depth := by
    unfold wordMark
    split <;> rfl
  induction text generalizing reversed with
  | nil => exact ⟨wordMark reversed, plain reversed, rfl⟩
  | cons c rest ih =>
    by_cases word : isWordChar c = true
    · obtain ⟨mark, same, split⟩ := ih (c :: reversed)
      refine ⟨mark, same, ?_⟩
      rw [List.dropWhile_cons_of_pos word, ← split, marksFrom, Scan.step, if_pos word]
      rfl
    · refine ⟨wordMark reversed, plain reversed, ?_⟩
      rw [List.dropWhile_cons_of_neg word, marksFrom, Scan.step, if_neg word]
      rfl

/-- An exclamation mark is a mark of its own, whatever follows. -/
theorem marksFrom_exclamation (depth : Nat) (text : List Char) :
    ∃ mark : Mark, mark.depthAfter depth = depth ∧
      marksFrom .exclamation text = mark :: marksFrom .between text := by
  cases text with
  | nil => exact ⟨.negation, rfl, rfl⟩
  | cons c rest =>
    refine ⟨if c = '=' then .plain else .negation, ?_, rfl⟩
    split <;> rfl

/-- The check agrees with the grammar on where a quoted text ends. -/
theorem marksFrom_quoted (escaped : Grammar.Escaped quote quoted) (rest : List Char) :
    marksFrom (.quoted quote.char) (quoted ++ quote.char :: rest) = marksFrom .between rest := by
  have apart : quote.char ≠ '\\' := by cases quote <;> decide
  induction escaped with
  | stop =>
    rw [List.nil_append, marksFrom, Scan.step, if_neg apart, if_pos rfl]
    rfl
  | escape later ih => exact ih
  | plain noQuote noEscape later ih =>
    rw [List.cons_append, marksFrom, Scan.step, if_neg noEscape, if_neg noQuote]
    exact ih

-- ---------------------------------------------------------------------------
-- Texts within the limits
-- ---------------------------------------------------------------------------

/-- The text stays within the limits where `depth` parentheses are open and `tokens` marks are
counted before it. -/
def Allows (depth tokens : Nat) (text : List Char) : Prop :=
  Within depth tokens (marksFrom .between text)

def AllowsAfter (depth tokens : Nat) (text : List Char) : Prop :=
  Allows depth tokens (text.dropWhile isWordChar)

/-- The same where an expression may begin, which it does with no letter but those of names. -/
def Starts (depth tokens : Nat) (text : List Char) : Prop :=
  (∀ c ∈ text.head?, isWordChar c = true → Grammar.isNameChar c = true) →
    Allows depth tokens text

section

variable {depth tokens : Nat} {text rest : List Char}

theorem Allows.cons (h : Allows depth tokens (c :: rest))
    (start : Scan.start c = ([mark], .between)) :
    Allows (mark.depthAfter depth) (tokens + 1) rest := by
  unfold Allows at h
  rw [marksFrom_cons start] at h
  exact h.tail

theorem Allows.blank (h : Allows depth tokens (c :: rest))
    (start : Scan.start c = ([], .between)) : Allows depth tokens rest := by
  unfold Allows at h
  rwa [marksFrom_cons start] at h

theorem Allows.starts (h : Allows depth tokens text) : Starts depth tokens text := fun _ => h

theorem Allows.dropGap (h : Allows depth tokens text) :
    Allows depth tokens (text.dropWhile Reader.isGap) := by
  induction text with
  | nil => exact h
  | cons c rest ih =>
    by_cases gap : Reader.isGap c = true
    · rw [List.dropWhile_cons_of_pos gap]
      exact ih (h.blank (start_of_isGap gap))
    · rwa [List.dropWhile_cons_of_neg gap]

/-- The mark of a word counts once, also where the word goes on behind what is read. -/
theorem Allows.word (h : Allows depth tokens (c :: rest))
    (start : Scan.start c = ([], .word [c])) : AllowsAfter depth (tokens + 1) rest := by
  unfold Allows at h
  obtain ⟨mark, same, marked⟩ := marksFrom_word depth [c] rest
  rw [marksFrom_cons start, List.nil_append, marked] at h
  have later := h.tail
  rwa [same] at later

theorem Allows.exclamation (h : Allows depth tokens ('!' :: rest)) :
    Allows depth (tokens + 1) rest := by
  have start : Scan.start '!' = ([], .exclamation) := rfl
  unfold Allows at h
  obtain ⟨mark, same, marked⟩ := marksFrom_exclamation depth rest
  rw [marksFrom_cons start, List.nil_append, marked] at h
  have later := h.tail
  rwa [same] at later

theorem Allows.string {within : List Char}
    (h : Allows depth tokens (quote.char :: (within ++ quote.char :: rest)))
    (escaped : Grammar.Escaped quote within) : Allows depth (tokens + 1) rest := by
  have start : Scan.start quote.char = ([.plain], .quoted quote.char) := by cases quote <;> rfl
  unfold Allows at h
  rw [marksFrom_cons start, marksFrom_quoted escaped] at h
  exact h.tail

theorem Allows.after (h : Allows depth tokens text) : AllowsAfter depth tokens text := by
  induction text with
  | nil => exact h
  | cons c rest ih =>
    unfold AllowsAfter
    by_cases word : isWordChar c = true
    · rw [List.dropWhile_cons_of_pos word]
      by_cases blank : Unicode.isBlank c = true
      · exact ih (h.blank (start_of_isBlank blank))
      · exact Within.fewer (h.word (start_of_isWordChar word blank)) (Nat.le_succ tokens)
    · rwa [List.dropWhile_cons_of_neg word]

theorem AllowsAfter.fewer {fewer : Nat} (h : AllowsAfter depth tokens text)
    (le : fewer ≤ tokens) : AllowsAfter depth fewer text :=
  Within.fewer h le

theorem AllowsAfter.here (h : AllowsAfter depth tokens (c :: rest)) (apart : isWordChar c = false) :
    Allows depth tokens (c :: rest) := by
  unfold AllowsAfter at h
  rwa [List.dropWhile_cons_of_neg (by rw [apart]; decide)] at h

/-- A word that is read to its end belongs to the mark it begins in. -/
theorem AllowsAfter.chars {word : List Char} (h : AllowsAfter depth tokens (word ++ rest))
    (letters : ∀ c ∈ word, Grammar.isNameChar c = true) : AllowsAfter depth tokens rest := by
  unfold AllowsAfter at h
  rwa [List.dropWhile_append_of_pos fun c hc => isWordChar_of_isNameChar (letters c hc)] at h

theorem Allows.chars {word : List Char} (h : Allows depth tokens (word ++ rest))
    (letters : ∀ c ∈ word, Grammar.isNameChar c = true) (given : word ≠ []) :
    AllowsAfter depth (tokens + 1) rest := by
  obtain ⟨c, more, rfl⟩ := List.exists_cons_of_ne_nil given
  rw [List.cons_append] at h
  exact (h.word (start_of_isNameChar (letters c List.mem_cons_self))).chars
    fun d hd => letters d (List.mem_cons_of_mem c hd)

theorem AllowsAfter.dropGap (h : AllowsAfter depth tokens text) :
    AllowsAfter depth tokens (text.dropWhile Reader.isGap) := by
  cases text with
  | nil => exact h
  | cons c rest =>
    by_cases gap : Reader.isGap c = true
    · exact (h.here (isWordChar_of_isGap gap)).dropGap.after
    · rwa [List.dropWhile_cons_of_neg gap]

/-- Behind a word that is read to its end an expression begins with a mark of its own. -/
theorem AllowsAfter.starts (h : AllowsAfter depth tokens text) (ends : Grammar.WordEnds text) :
    Starts depth tokens text := by
  intro letters
  cases text with
  | nil => exact h
  | cons c rest =>
    refine h.here (Bool.eq_false_iff.mpr fun word => ?_)
    have name := letters c rfl word
    rw [Grammar.wordEnds_iff, List.head?_cons, Option.any_some, name] at ends
    exact Bool.false_ne_true ends.symm

theorem Starts.dropGap (h : Starts depth tokens text) :
    Starts depth tokens (text.dropWhile Reader.isGap) := by
  cases text with
  | nil => exact h
  | cons c rest =>
    by_cases gap : Reader.isGap c = true
    · have here : Allows depth tokens (c :: rest) := h fun d hd word => by
        rw [← Option.mem_some_iff.mp hd, isWordChar_of_isGap gap] at word
        exact absurd word Bool.false_ne_true
      exact here.dropGap.starts
    · rwa [List.dropWhile_cons_of_neg gap]

theorem Starts.here (h : Starts depth tokens (c :: rest))
    (letter : isWordChar c = true → Grammar.isNameChar c = true) :
    Allows depth tokens (c :: rest) :=
  h fun _ hd => Option.mem_some_iff.mp hd ▸ letter

end

end RefViewer.Query.Size
