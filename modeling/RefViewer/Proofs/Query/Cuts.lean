import RefViewer.Proofs.Query.Misses
import RefViewer.Proofs.Query.Progress

/-!
# Reading on behind a cut

A text is cut where no token goes across, and goes on in another way, with a blank or a closing
parenthesis first. What was read in front of the cut is read again. How the text goes on matters
only where the reading stopped because nothing more fitted; so it is told about the text that is
left then.
-/

namespace RefViewer.Query

namespace Reader

variable {α β : Type}

-- ---------------------------------------------------------------------------
-- Cuts
-- ---------------------------------------------------------------------------

def Solid (text : List Char) : Prop := text.dropWhile isGap = text

theorem solid_dropGap (text : List Char) : Solid (text.dropWhile isGap) := by
  induction text with
  | nil => rfl
  | cons c text ih =>
    by_cases gap : isGap c = true
    · rwa [List.dropWhile_cons_of_pos gap]
    · rw [Solid, List.dropWhile_cons_of_neg gap, List.dropWhile_cons_of_neg gap]

/-- The text is cut behind `u` and goes on with `r`. -/
def resume (u r : List Char) : List Char := (u ++ r).dropWhile isGap

inductive Breaks : List Char → Prop
  | blank : Breaks (' ' :: more)
  | parenthesis : Breaks (')' :: more)

theorem resume_nil (r : List Char) : resume [] r = r.dropWhile isGap := rfl

theorem resume_cons {c : Char} {u v : List Char} (solid : Solid (c :: u ++ v)) (r : List Char) :
    resume (c :: u) r = c :: (u ++ r) := by
  have noGap : ¬ isGap c = true := by
    intro gap
    have shorter := congrArg List.length solid
    rw [List.cons_append, List.dropWhile_cons_of_pos gap] at shorter
    have le := (List.dropWhile_sublist isGap (l := u ++ v)).length_le
    rw [List.length_cons] at shorter
    omega
  rw [resume, List.cons_append, List.dropWhile_cons_of_neg noGap]

theorem resume_dropGap (u r : List Char) : resume (u.dropWhile isGap) r = resume u r := by
  induction u with
  | nil => rfl
  | cons c u ih =>
    by_cases gap : isGap c = true
    · rw [List.dropWhile_cons_of_pos gap, ih, resume, resume, List.cons_append,
        List.dropWhile_cons_of_pos gap]
    · rw [List.dropWhile_cons_of_neg gap]

theorem Solid.dropGap_append (solid : Solid v) (u : List Char) :
    (u ++ v).dropWhile isGap = u.dropWhile isGap ++ v := by
  rw [List.dropWhile_append]
  split
  · next all => rw [solid, List.isEmpty_iff.mp all, List.nil_append]
  · rfl

-- ---------------------------------------------------------------------------
-- Readers
-- ---------------------------------------------------------------------------

/-- What `p` reads in front of a cut `q` reads as well, however the text goes on, if what is left
then is an end. -/
structure Steady (ends : List Char → Prop) (p q : Reader α) : Prop where
  forward : ∀ {text a rest}, Solid text → Reads p text a rest → rest <:+ text ∧ Solid rest
  reads : ∀ {u v a left r}, Breaks r → Solid (u ++ v) → Solid v →
    Reads p (u ++ v) a (left ++ v) → ends (resume left r) →
    Reads q (resume u r) a (resume left r)

def Anywhere (_ : List Char) : Prop := True

theorem steady_pure (a : α) : Steady ends (pure a) (pure a) where
  forward solid reads := by
    obtain ⟨-, rfl⟩ := Reads.of_pure reads
    exact ⟨List.suffix_refl _, solid⟩
  reads _ _ _ reads _ := by
    obtain ⟨rfl, same⟩ := Reads.of_pure reads
    rw [List.append_cancel_right same]
    exact reads_pure _ _

/-- The first reader is ended by what was read behind it and by what is read there now. -/
theorem Steady.bindOf {p p' : Reader α} {next next' : α → Reader β} (first : Steady E p p')
    (second : ∀ a, Steady F (next a) (next' a))
    (meets : ∀ {text a u v b left r}, Breaks r → Solid (u ++ v) → Solid v →
      Reads p text a (u ++ v) → Reads (next a) (u ++ v) b (left ++ v) →
      Reads (next' a) (resume u r) b (resume left r) → F (resume left r) → E (resume u r)) :
    Steady F (p >>= next) (p' >>= next') where
  forward solid reads := by
    obtain ⟨a, mid, before, after⟩ := Reads.of_bind reads
    obtain ⟨suffix, solid⟩ := first.forward solid before
    obtain ⟨later, solid⟩ := (second a).forward solid after
    exact ⟨later.trans suffix, solid⟩
  reads {u v b left r} breaks solid behind reads ended := by
    obtain ⟨a, mid, before, after⟩ := Reads.of_bind reads
    obtain ⟨-, solidMid⟩ := first.forward solid before
    obtain ⟨⟨more, rfl⟩, -⟩ := (second a).forward solidMid after
    rw [← List.append_assoc] at before after solidMid
    have again := (second a).reads breaks solidMid behind after ended
    have follows := meets breaks solidMid behind before after again ended
    exact (first.reads breaks solid behind before follows).bind again

theorem Steady.bind {p p' : Reader α} {next next' : α → Reader β} (first : Steady E p p')
    (second : ∀ a, Steady F (next a) (next' a))
    (meets : ∀ {a text b rest}, Reads (next' a) text b rest → F rest → E text) :
    Steady F (p >>= next) (p' >>= next') :=
  first.bindOf second fun _ _ _ _ _ again ended => meets again ended

theorem Steady.andThen {p p' : Reader α} {next next' : α → Reader β}
    (first : Steady Anywhere p p') (second : ∀ a, Steady F (next a) (next' a)) :
    Steady F (p >>= next) (p' >>= next') :=
  first.bind second fun _ _ => trivial

theorem Steady.map {p p' : Reader α} (f : α → β) (h : Steady E p p') :
    Steady E (f <$> p) (f <$> p') := by
  refine h.bind (fun a => steady_pure (f a)) fun reads ended => ?_
  obtain ⟨-, rfl⟩ := Reads.of_pure reads
  exact ended

theorem Steady.named {p q : Reader α} (rule : Rule) (h : Steady E p q) :
    Steady E (Reader.named rule p) (Reader.named rule q) where
  forward solid reads := h.forward solid (Reads.of_named reads)
  reads breaks solid behind reads ended :=
    .named rule (h.reads breaks solid behind (Reads.of_named reads) ended)

theorem Steady.or {p p' q q' : Reader α} (first : Steady E p p') (second : Steady E q q')
    (settles : ∀ {text a rest}, Reads q' text a rest → E rest → Refuses p' text) :
    Steady E (p.or q) (p'.or q') where
  forward solid reads := by
    rcases Reads.of_or reads with reads | ⟨-, reads⟩
    · exact first.forward solid reads
    · exact second.forward solid reads
  reads breaks solid behind reads ended := by
    rcases Reads.of_or reads with reads | ⟨-, reads⟩
    · exact (first.reads breaks solid behind reads ended).or_left q'
    · have other := second.reads breaks solid behind reads ended
      exact .or_right (settles other ended) other

-- ---------------------------------------------------------------------------
-- Items
-- ---------------------------------------------------------------------------

theorem Steady.steps_forward {p q : Reader α} (h : Steady E p q)
    (steps : Steps p text items rest) (solid : Solid text) : rest <:+ text ∧ Solid rest := by
  induction steps with
  | done => exact ⟨List.suffix_refl _, solid⟩
  | item first _ _ ih =>
    obtain ⟨suffix, solid⟩ := h.forward solid first
    obtain ⟨later, solid⟩ := ih solid
    exact ⟨later.trans suffix, solid⟩

theorem Steady.steps {p q : Reader α} (h : Steady E p q) (advances : Takes 1 q)
    (meets : ∀ {text a rest}, Reads q text a rest → E text) {v left : List Char}
    (behind : Solid v) (breaks : Breaks r) (ended : E (resume left r))
    (steps : Steps p text items rest) :
    ∀ {u}, text = u ++ v → rest = left ++ v → Solid text →
      Steps q (resume u r) items (resume left r) ∧ E (resume u r) := by
  induction steps with
  | done =>
    rintro u rfl same -
    rw [List.append_cancel_right same]
    exact ⟨.done, ended⟩
  | item first _ later ih =>
    rintro u rfl rfl solid
    obtain ⟨-, solidMid⟩ := h.forward solid first
    obtain ⟨⟨taken, rfl⟩, -⟩ := h.steps_forward later solidMid
    rw [← List.append_assoc] at first
    obtain ⟨others, follows⟩ := ih (List.append_assoc _ _ _).symm rfl solidMid
    have read := h.reads breaks solid behind first follows
    exact ⟨.item read (advances.length_le read) others, meets read⟩

theorem Steady.many {p q : Reader α} (h : Steady E p q) (before : Takes 1 p) (after : Takes 1 q)
    (meets : ∀ {text a rest}, Reads q text a rest → E text)
    (stops : ∀ {rest}, F rest → Refuses q rest ∧ E rest) : Steady F (many p) (many q) where
  forward solid reads := h.steps_forward (before.of_many reads).steps.1 solid
  reads breaks solid behind reads ended := by
    obtain ⟨refuses, follows⟩ := stops ended
    obtain ⟨steps, -⟩ := h.steps after meets behind breaks follows (before.of_many reads).steps.1
      rfl rfl solid
    have repeats := steps.repeats (.stop refuses)
    rw [List.append_nil] at repeats
    exact repeats.many

-- ---------------------------------------------------------------------------
-- Tokens
-- ---------------------------------------------------------------------------

/-- A token that is taken in front of a cut is taken however the text goes on. -/
structure Settled (take : List Char → Option (α × List Char)) : Prop where
  front : ∀ {text a left}, take text = some (a, left) → ∃ token, token ≠ [] ∧ token ++ left = text
  taken : ∀ {u v a left r}, Breaks r → take (u ++ v) = some (a, left ++ v) →
    take (u ++ r) = some (a, left ++ r)

theorem cut_dropGap {after left v : List Char} (solid : Solid v)
    (gap : after.dropWhile isGap = left ++ v) : ∃ l, after = l ++ v ∧ l.dropWhile isGap = left := by
  obtain ⟨front, whole⟩ := List.dropWhile_suffix isGap (l := after)
  rw [gap, ← List.append_assoc] at whole
  subst whole
  rw [solid.dropGap_append] at gap
  exact ⟨_, rfl, List.append_cancel_right gap⟩

theorem Settled.lexeme {take : List Char → Option (α × List Char)} (h : Settled take) :
    Steady E (Reader.lexeme take) (Reader.lexeme take) where
  forward _ reads := by
    obtain ⟨left, taken, rfl⟩ := Reads.of_lexeme reads
    obtain ⟨token, -, rfl⟩ := h.front taken
    exact ⟨(List.dropWhile_suffix isGap).trans (List.suffix_append token left), solid_dropGap left⟩
  reads {u v a left r} breaks solid behind reads _ := by
    obtain ⟨after, taken, gap⟩ := Reads.of_lexeme reads
    obtain ⟨l, rfl, rfl⟩ := cut_dropGap behind gap
    obtain ⟨token, given, whole⟩ := h.front taken
    rw [← List.append_assoc] at whole
    obtain rfl := List.append_cancel_right whole
    obtain ⟨c, token, rfl⟩ := List.exists_cons_of_ne_nil given
    rw [List.cons_append] at *
    rw [resume_cons solid, resume_dropGap]
    exact reads_lexeme (h.taken breaks taken)

theorem Reads.firstOf_of {readers : List (Reader α)}
    (same : ∀ p ∈ readers, (Refuses p text → Refuses p other) ∧
      ∀ a, Reads p text a rest → Reads p other a last)
    (reads : Reads (firstOf readers) text a rest) : Reads (firstOf readers) other a last := by
  induction readers with
  | nil => cases reads
  | cons p readers ih =>
    obtain ⟨⟨refuses, taken⟩, others⟩ := List.forall_mem_cons.mp same
    rcases Reads.of_or (q := firstOf readers) reads with first | ⟨refused, later⟩
    · exact (taken a first).or_left _
    · exact .or_right (refuses refused) (ih others later)

end Reader

namespace Grammar

open Reader

theorem leadingWord_breaks (breaks : Breaks r) (u : List Char) :
    leadingWord (u ++ r) = leadingWord u := by
  cases breaks <;> exact leadingWord_stop rfl u _

theorem afterWord_breaks (breaks : Breaks r) (u : List Char) :
    afterWord (u ++ r) = afterWord u ++ r := by
  cases breaks <;> exact afterWord_stop rfl u _

def WordKept (u v : List Char) : Prop := leadingWord (u ++ v) = leadingWord u

structure Kept (take : List Char → Option (α × List Char)) : Prop extends Settled take where
  refuse : ∀ {u v r}, Breaks r → WordKept u v → take (u ++ v) = none → take (u ++ r) = none

-- ---------------------------------------------------------------------------
-- Words
-- ---------------------------------------------------------------------------

theorem TakesWord.cut (taken : TakesWord (u ++ v) (left ++ v)) :
    WordKept u v ∧ afterWord u = left := by
  have whole := taken.append
  rw [← List.append_assoc] at whole
  have front := List.append_cancel_right whole
  have letters := leadingWord_chars (u ++ v)
  have ends : WordEnds left := by
    have stops := wordEnds_iff.mp taken.ends
    cases left with
    | nil => rfl
    | cons c left => exact wordEnds_iff.mpr stops
  have word := leadingWord_append letters ends
  have after := afterWord_append letters ends
  rw [front] at word after
  exact ⟨word.symm, after⟩

theorem ByWord.settled {take : List Char → Option (α × List Char)} (h : ByWord take) :
    Settled take where
  front taken := by
    have word := h.takesWord taken
    exact ⟨_, word.given, word.append⟩
  taken breaks taken := by
    obtain ⟨kept, after⟩ := (h.takesWord taken).cut
    obtain ⟨decide, -, eq⟩ := h
    rw [eq, kept, Option.map_eq_some_iff] at taken
    obtain ⟨b, found, same⟩ := taken
    obtain ⟨rfl, -⟩ := Prod.mk.inj same
    rw [eq, leadingWord_breaks breaks, afterWord_breaks breaks, after, found, Option.map_some]

theorem ByWord.kept {take : List Char → Option (α × List Char)} (h : ByWord take) :
    Kept take where
  toSettled := h.settled
  refuse breaks kept refused := by
    obtain ⟨decide, -, eq⟩ := h
    rw [eq, Option.map_eq_none_iff] at refused ⊢
    rwa [leadingWord_breaks breaks, ← kept]

-- ---------------------------------------------------------------------------
-- Symbols
-- ---------------------------------------------------------------------------

theorem settled_text {expected : List Char} (given : expected ≠ []) :
    Settled (takeText expected) where
  front taken := ⟨expected, given, (takeText_some taken).symm⟩
  taken _ taken := by
    have whole := takeText_some taken
    rw [← List.append_assoc] at whole
    obtain rfl := List.append_cancel_right whole
    rw [takeText, List.append_assoc, if_pos (List.isPrefixOf_iff_prefix.mpr ⟨_, rfl⟩),
      List.drop_left]

structure Apart (text : List Char) : Prop where
  blank : ' ' ∉ text
  parenthesis : ')' ∉ text

theorem takeText_refused {expected : List Char} (apart : Apart expected) (breaks : Breaks r)
    (refused : takeText expected (u ++ v) = none) : takeText expected (u ++ r) = none := by
  have front : expected.isPrefixOf (u ++ r) = expected.isPrefixOf u := by
    cases breaks with
    | blank => exact prefix_stop apart.blank u _
    | parenthesis => exact prefix_stop apart.parenthesis u _
  rw [takeText] at refused ⊢
  rw [front]
  split at refused
  · cases refused
  · next noFront =>
    rw [if_neg]
    intro front
    obtain ⟨more, rfl⟩ := List.isPrefixOf_iff_prefix.mp front
    exact noFront (List.isPrefixOf_iff_prefix.mpr ⟨more ++ v, (List.append_assoc _ _ _).symm⟩)

theorem kept_text {expected : List Char} (given : expected ≠ []) (apart : Apart expected) :
    Kept (takeText expected) where
  toSettled := settled_text given
  refuse breaks _ refused := takeText_refused apart breaks refused

theorem kept_textOr {expected : List Char} {other : List Char → Option (Unit × List Char)}
    (given : expected ≠ []) (apart : Apart expected) (h : Kept other) :
    Kept (takeEither (takeText expected) other) where
  front taken := by
    rcases takeEither_some taken with taken | taken
    · exact (settled_text given).front taken
    · exact h.front taken
  taken {u v a left r} breaks taken := by
    rw [takeEither] at taken ⊢
    cases first : takeText expected (u ++ v) with
    | some out =>
      rw [first] at taken
      obtain rfl := Option.some.inj taken
      rw [(settled_text given).taken breaks first]
    | none =>
      rw [first] at taken
      rw [takeText_refused apart breaks first]
      exact h.taken breaks taken
  refuse {u v r} breaks kept refused := by
    rw [takeEither] at refused ⊢
    cases first : takeText expected (u ++ v) with
    | some out =>
      rw [first] at refused
      cases refused
    | none =>
      rw [first] at refused
      rw [takeText_refused apart breaks first]
      exact h.refuse breaks kept refused

theorem settled_bang : Settled takeBang where
  front taken := ⟨['!'], List.cons_ne_nil _ _, (takeBang_some taken).symm⟩
  taken {u v a left r} breaks taken := by
    have whole := takeBang_some taken
    rw [← List.cons_append] at whole
    obtain rfl := List.append_cancel_right whole
    refine takeBang_cons fun equals => ?_
    cases left with
    | nil => cases breaks <;> exact absurd (Option.some.inj equals) (by decide)
    | cons c left =>
      obtain rfl := Option.some.inj equals
      cases taken

-- ---------------------------------------------------------------------------
-- Literals
-- ---------------------------------------------------------------------------

theorem head_digit_breaks {left v : List Char} (breaks : Breaks r)
    (ends : (left ++ v).head?.any Char.isDigit = false) :
    (left ++ r).head?.any Char.isDigit = false := by
  cases left with
  | nil => cases breaks <;> rfl
  | cons c left => exact ends

theorem takeFraction_breaks {left v : List Char} (breaks : Breaks r)
    (none : takeFraction (left ++ v) = ([], left ++ v)) :
    takeFraction (left ++ r) = ([], left ++ r) := by
  by_cases point : (left ++ r).head? = some '.'
  · cases left with
    | nil => cases breaks <;> exact absurd (Option.some.inj point) (by decide)
    | cons c left =>
      obtain rfl := Option.some.inj point
      cases left with
      | nil => cases breaks <;> rfl
      | cons d left =>
        have noDigit : ¬ d.isDigit = true := by
          intro digit
          rw [List.cons_append, List.cons_append, takeFraction, if_pos digit] at none
          cases none
        exact if_neg noDigit
  · exact takeFraction_none point

theorem takeUnsigned_settled (breaks : Breaks r)
    (taken : takeUnsigned (u ++ v) = some (digits, left ++ v)) :
    takeUnsigned (u ++ r) = some (digits, left ++ r) := by
  have front := List.takeWhile_append_dropWhile (p := Char.isDigit) (l := u ++ v)
  have all : ∀ c ∈ (u ++ v).takeWhile Char.isDigit, c.isDigit = true :=
    fun _ hc => List.mem_takeWhile_imp hc
  have stops := head_dropWhile Char.isDigit (u ++ v)
  rw [takeUnsigned] at taken
  generalize (u ++ v).takeWhile Char.isDigit = whole at *
  generalize (u ++ v).dropWhile Char.isDigit = after at *
  by_cases given : whole = []
  · rw [if_pos given] at taken
    cases taken
  · rw [if_neg given] at taken
    rcases takeFraction_cases after with none | ⟨first, rest, digit, rfl, some⟩
    · simp only [none, List.append_nil, Option.some.injEq, Prod.mk.injEq] at taken
      obtain ⟨rfl, rfl⟩ := taken
      rw [← List.append_assoc] at front
      obtain rfl := List.append_cancel_right front
      obtain ⟨same, others⟩ := takeWhile_digits all (head_digit_breaks breaks stops)
      simp only [takeUnsigned, List.append_assoc, same, others, if_neg given,
        takeFraction_breaks breaks none, List.append_nil]
    · simp only [some, Option.some.injEq, Prod.mk.injEq] at taken
      obtain ⟨rfl, behind⟩ := taken
      have split := List.takeWhile_append_dropWhile (p := Char.isDigit) (l := rest)
      have places : ∀ c ∈ rest.takeWhile Char.isDigit, c.isDigit = true :=
        fun _ hc => List.mem_takeWhile_imp hc
      have ends := head_dropWhile Char.isDigit rest
      generalize rest.takeWhile Char.isDigit = more at *
      rw [behind] at split ends
      obtain rfl : u = whole ++ '.' :: first :: (more ++ left) := by
        have same : u ++ v = whole ++ '.' :: first :: (more ++ left) ++ v := by
          rw [← front, ← split]
          simp only [List.append_assoc, List.cons_append]
        exact List.append_cancel_right same
      have point (rest : List Char) : ('.' :: rest).head?.any Char.isDigit = false := rfl
      obtain ⟨same, others⟩ := takeWhile_digits all (point (first :: (more ++ (left ++ r))))
      obtain ⟨sameMore, othersMore⟩ := takeWhile_digits places (head_digit_breaks breaks ends)
      simp only [takeUnsigned, List.append_assoc, List.cons_append, same, others, if_neg given,
        takeFraction, if_pos digit, sameMore, othersMore]

theorem settled_number : Settled takeNumber where
  front taken := by
    obtain ⟨token, rfl⟩ := takeNumber_some taken
    exact ⟨_, List.length_pos_iff.mp token.length_pos, rfl⟩
  taken {u v digits left r} breaks taken := by
    obtain ⟨token, whole⟩ := takeNumber_some taken
    rw [← List.append_assoc] at whole
    obtain rfl := List.append_cancel_right whole
    obtain ⟨c, more, rfl⟩ := List.exists_cons_of_ne_nil (List.length_pos_iff.mp token.length_pos)
    by_cases sign : c = '-'
    · subst sign
      simp only [List.cons_append, takeNumber, Option.map_eq_some_iff] at taken ⊢
      obtain ⟨⟨digits, after⟩, unsigned, same⟩ := taken
      obtain ⟨same, rfl⟩ := Prod.mk.inj same
      exact ⟨_, takeUnsigned_settled breaks unsigned, by rw [same]⟩
    · have noSign (text : List Char) : (c :: text).head? ≠ some '-' :=
        fun h => sign (Option.some.inj h)
      simp only [List.cons_append, takeNumber_unsigned (noSign _)] at taken ⊢
      exact takeUnsigned_settled (u := c :: (more ++ left)) breaks taken

theorem settled_string : Settled takeString where
  front {text quoted left} taken := by
    obtain ⟨quote, escaped, rfl⟩ := takeString_some taken
    exact ⟨quote.char :: (quoted ++ [quote.char]), List.cons_ne_nil _ _, by simp⟩
  taken {u v quoted left r} _ taken := by
    obtain ⟨quote, escaped, whole⟩ := takeString_some taken
    have same : u ++ v = quote.char :: (quoted ++ quote.char :: left) ++ v := by simp [whole]
    obtain rfl := List.append_cancel_right same
    simpa using escaped.takeString (left ++ r)

end Grammar

end RefViewer.Query
