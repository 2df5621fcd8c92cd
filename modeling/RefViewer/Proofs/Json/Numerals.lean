import Mathlib.Data.List.TakeWhile
import RefViewer.Json.Reader
import RefViewer.Json.Writer

/-!
# Reading numerals back

A numeral is read the same way whatever stands behind it, as long as no number goes on there:
`Numeral.Rereads.value`. Integers of 64 bits are read back from their text; of other numbers
this is a property of the number.
-/

namespace RefViewer

namespace Json

open Unicode (GappedText)

namespace Reader

-- ---------------------------------------------------------------------------
-- What follows a value
-- ---------------------------------------------------------------------------

def goesOn (c : Option Char) : Bool :=
  isDigit c || isExponentMark c || c = some '.' || c = some '+' || c = some '-'

/-- No number goes on here. -/
def Ends (tail : GappedText) : Prop := ∀ c ∈ tail.head?, goesOn c = false

theorem ends_nil : Ends [] := by rintro _ ⟨⟩

theorem ends_cons (h : goesOn c = false) (rest : GappedText) : Ends (c :: rest) := by
  rintro _ ⟨⟩
  exact h

theorem goesOn_of_isDigit (h : isDigit c = true) : goesOn c = true := by simp [goesOn, h]

theorem goesOn_of_isExponentMark (h : isExponentMark c = true) : goesOn c = true := by
  simp [goesOn, h]

section

variable {tail front rest : GappedText}

theorem Ends.not_goesOn (h : Ends (c :: rest)) : ¬ goesOn c = true := by simp [h c rfl]

theorem Ends.isDigit (h : Ends (c :: rest)) : isDigit c = false :=
  eq_false_of_ne_true fun digit => h.not_goesOn (goesOn_of_isDigit digit)

theorem Ends.digit? (h : Ends (c :: rest)) : digit? c = none :=
  Option.not_isSome_iff_eq_none.mp fun digit => h.not_goesOn (goesOn_of_isDigit digit)

theorem Ends.isExponentMark (h : Ends (c :: rest)) : isExponentMark c = false :=
  eq_false_of_ne_true fun mark => h.not_goesOn (goesOn_of_isExponentMark mark)

theorem Ends.head_any {p : Option Char → Bool} (h : Ends tail)
    (hp : ∀ c, p c = true → goesOn c = true) (front : GappedText) :
    (front ++ tail).head?.any p = front.head?.any p := by
  cases front with
  | cons => rfl
  | nil =>
    cases tail with
    | nil => rfl
    | cons c rest => simpa using fun pc => h.not_goesOn (hp c pc)

theorem Ends.head_digit (h : Ends tail) (front : GappedText) :
    (front ++ tail).head?.any Reader.isDigit = front.head?.any Reader.isDigit :=
  h.head_any (fun _ => goesOn_of_isDigit) front

theorem Ends.head_exponent (h : Ends tail) (front : GappedText) :
    (front ++ tail).head?.any Reader.isExponentMark = front.head?.any Reader.isExponentMark :=
  h.head_any (fun _ => goesOn_of_isExponentMark) front

theorem Ends.dropWhile (h : Ends tail) (front : GappedText) :
    (front ++ tail).dropWhile Reader.isDigit = front.dropWhile Reader.isDigit ++ tail := by
  induction front with
  | nil =>
    cases tail with
    | nil => rfl
    | cons c rest => simp [h.isDigit]
  | cons c more ih =>
    cases hc : Reader.isDigit c <;> simp [hc, ih]

theorem Ends.takeWhile (h : Ends tail) (front : GappedText) :
    (front ++ tail).takeWhile Reader.isDigit = front.takeWhile Reader.isDigit := by
  induction front with
  | nil =>
    cases tail with
    | nil => rfl
    | cons c rest => simp [h.isDigit]
  | cons c more ih =>
    cases hc : Reader.isDigit c <;> simp [hc, ih]

theorem Ends.takeDigits (h : Ends tail) (significand : Nat) (front : GappedText) :
    takeDigits significand (front ++ tail) =
      ((takeDigits significand front).1, (takeDigits significand front).2.1,
        (takeDigits significand front).2.2 ++ tail) := by
  induction front generalizing significand with
  | nil =>
    cases tail with
    | nil => rfl
    | cons c rest => simp [Reader.takeDigits, h.digit?]
  | cons c more ih =>
    simp only [List.cons_append, Reader.takeDigits]
    split
    · rfl
    · split
      · rw [ih]
      · rfl

/-- Behind all digits nothing depends on how many of them were taken. -/
theorem takeDigits_dropWhile (significand : Nat) (text : GappedText) :
    (takeDigits significand text).2.2.dropWhile isDigit = text.dropWhile isDigit := by
  induction text generalizing significand with
  | nil => rfl
  | cons c rest ih =>
    unfold takeDigits
    split
    · rfl
    · next d hd =>
      have digit : isDigit c = true := by simp [isDigit, hd]
      split
      · rw [List.dropWhile_cons_of_pos digit]
        exact ih _
      · rfl

-- ---------------------------------------------------------------------------
-- Exponents and fractions
-- ---------------------------------------------------------------------------

theorem Ends.head_sign (h : Ends tail) (hs : sign = '+' ∨ sign = '-') (front : GappedText) :
    (front ++ tail).head? = some (some sign) ↔ front.head? = some (some sign) := by
  cases front with
  | cons => rfl
  | nil =>
    have none : tail.head? ≠ some (some sign) := by
      intro head
      have stops := h _ head
      rcases hs with rfl | rfl <;> cases stops
    simpa using none

def dropSign (digits : GappedText) : GappedText :=
  if digits.head? = some (some '+') || digits.head? = some (some '-') then digits.drop 1
  else digits

theorem Ends.dropSign (h : Ends tail) (front : GappedText) :
    dropSign (front ++ tail) = dropSign front ++ tail := by
  have hplus := h.head_sign (.inl rfl) front
  have hminus := h.head_sign (.inr rfl) front
  simp only [Reader.dropSign, hplus, hminus]
  split
  · cases front with
    | nil => simp at *
    | cons c rest => rfl
  · rfl

theorem passExponent_mark (hm : isExponentMark mark = true) (digits : GappedText) :
    passExponent (mark :: digits) =
      if (dropSign digits).head?.any isDigit then some ((dropSign digits).dropWhile isDigit)
      else none := by
  rw [passExponent, if_pos hm]
  rfl

theorem Ends.passExponent (h : Ends tail) (hp : passExponent front = some rest) :
    passExponent (front ++ tail) = some (rest ++ tail) := by
  cases front with
  | nil =>
    obtain rfl : [] = rest := by simpa [Reader.passExponent] using hp
    cases tail with
    | nil => rfl
    | cons c more => simp [Reader.passExponent, h.isExponentMark]
  | cons mark digits =>
    cases hm : Reader.isExponentMark mark with
    | false =>
      simp only [Reader.passExponent, hm, Bool.false_eq_true, ↓reduceIte, Option.some.injEq] at hp
      simp [Reader.passExponent, hm, ← hp]
    | true =>
      rw [passExponent_mark hm] at hp
      rw [List.cons_append, passExponent_mark hm, h.dropSign, h.head_digit, h.dropWhile]
      split at hp
      · next hd => simp [hd, ← Option.some.inj hp]
      · cases hp

theorem Ends.ne_point (h : Ends tail) (hne : ∀ rest, front ≠ some '.' :: rest) :
    ∀ rest, front ++ tail ≠ some '.' :: rest := by
  intro rest he
  cases front with
  | nil =>
    obtain rfl : tail = some '.' :: rest := he
    cases h (some '.') rfl
  | cons c more =>
    obtain ⟨rfl, -⟩ : c = some '.' ∧ _ := by simpa using he
    exact hne more rfl

theorem Ends.passFraction (h : Ends tail) (hp : passFraction front = some rest) :
    passFraction (front ++ tail) = some (rest ++ tail) := by
  by_cases hpoint : ∃ digits, front = some '.' :: digits
  · obtain ⟨digits, rfl⟩ := hpoint
    rw [List.cons_append, Reader.passFraction, h.head_digit, h.dropWhile]
    rw [Reader.passFraction] at hp
    split at hp
    · next hd => rw [if_pos hd, h.passExponent hp]
    · cases hp
  · have hne : ∀ digits, front ≠ some '.' :: digits := fun digits he => hpoint ⟨digits, he⟩
    rw [passFraction.eq_2 _ hne] at hp
    rw [passFraction.eq_2 _ (h.ne_point hne), h.passExponent hp]

theorem passNumber_digits (hd : isDigit first = true) (rest : GappedText) :
    passNumber (first :: rest) =
      if first = some '0' && rest.head?.any isDigit then none
      else passFraction (rest.dropWhile isDigit) := by
  by_cases hz : first = some '0'
  · subst hz
    cases hr : rest.head?.any isDigit with
    | true => simp [passNumber, hr]
    | false =>
      have hrest : rest.dropWhile isDigit = rest := by
        cases rest with
        | nil => rfl
        | cons c more => exact List.dropWhile_cons_of_neg (by simpa using hr)
      simp [passNumber, hr, hrest]
  · rw [passNumber.eq_2 _ _ (by simpa using hz), if_pos hd]
    simp [hz]

theorem isDigit_of_passNumber (hp : passNumber front = some rest) :
    ∃ first more, front = first :: more ∧ isDigit first = true := by
  unfold passNumber at hp
  split at hp
  · exact ⟨_, _, rfl, rfl⟩
  · next first more _ =>
    split at hp
    · next hd => exact ⟨first, more, rfl, hd⟩
    · cases hp
  · cases hp

theorem Ends.passNumber (h : Ends tail) (hp : passNumber front = some rest) :
    passNumber (front ++ tail) = some (rest ++ tail) := by
  obtain ⟨first, more, rfl, hd⟩ := isDigit_of_passNumber hp
  rw [passNumber_digits hd] at hp
  rw [List.cons_append, passNumber_digits hd, h.head_digit, h.dropWhile]
  split at hp
  · cases hp
  · next hz => rw [if_neg hz, h.passFraction hp]

theorem exponentPart_mark (hm : isExponentMark mark = true) (negative : Bool)
    (significand : Nat) (exponent : Int) (digits : GappedText) :
    exponentPart negative significand exponent (mark :: digits) =
      let n := ((dropSign digits).takeWhile isDigit).foldl (fun n c => 10 * n + (digit? c).getD 0) 0
      if (dropSign digits).head?.any isDigit then
        floatOf negative significand
          (if digits.head? = some (some '-') then exponent - n else exponent + n)
      else .error (noDigit (dropSign digits)) := by
  have hsign : (if digits.head? = some (some '-') || digits.head? = some (some '+')
      then digits.drop 1 else digits) = dropSign digits := by
    rw [dropSign, Bool.or_comm]
  rw [exponentPart, if_pos hm]
  simp only [hsign]

theorem Ends.exponentPart (h : Ends tail) (hp : Reader.passExponent front = some rest)
    (negative : Bool) (significand : Nat) (exponent : Int) :
    Reader.exponentPart negative significand exponent (front ++ tail) =
      Reader.exponentPart negative significand exponent front := by
  cases front with
  | nil =>
    cases tail with
    | nil => rfl
    | cons c more => simp [Reader.exponentPart, h.isExponentMark]
  | cons mark digits =>
    cases hm : Reader.isExponentMark mark with
    | false => simp [Reader.exponentPart, hm]
    | true =>
      rw [passExponent_mark hm] at hp
      rw [List.cons_append, exponentPart_mark hm, exponentPart_mark hm]
      simp only [h.dropSign, h.head_digit, h.takeWhile, h.head_sign (.inr rfl)]
      split at hp
      · next hd => rw [if_pos hd, if_pos hd]
      · cases hp

theorem Ends.fractionPart (h : Ends tail)
    (hp : Reader.passFraction (some '.' :: front) = some rest)
    (negative : Bool) (significand : Nat) (exponent : Int) :
    Reader.fractionPart negative significand exponent (front ++ tail) =
      Reader.fractionPart negative significand exponent front := by
  rw [Reader.passFraction] at hp
  unfold Reader.fractionPart
  rw [h.head_digit, h.takeDigits]
  split at hp
  · next hd =>
    simp only [hd, ↓reduceIte, h.dropWhile]
    rw [← takeDigits_dropWhile significand] at hp
    exact h.exponentPart hp negative _ _
  · cases hp

-- ---------------------------------------------------------------------------
-- Numbers
-- ---------------------------------------------------------------------------

def afterDigits (negative : Bool) (significand dropped : Nat) : GappedText → Except Cause Numeral
  | some '.' :: rest => fractionPart negative significand dropped rest
  | rest =>
    if dropped = 0 && !rest.head?.any isExponentMark then .ok (wholePart negative significand)
    else exponentPart negative significand dropped rest

theorem number_digits (hd : isDigit first = true) (negative : Bool) (rest : GappedText) :
    number negative (first :: rest) =
      if first = some '0' && rest.head?.any isDigit then .error .number
      else
        let (significand, _, more) := takeDigits 0 (first :: rest)
        afterDigits negative significand (more.takeWhile isDigit).length
          (more.dropWhile isDigit) := by
  simp only [number, List.head?_cons, Option.any_some, hd, Bool.not_true, Bool.false_eq_true,
    ↓reduceIte, Option.some.injEq, List.drop_succ_cons, List.drop_zero]
  rfl

theorem afterDigits_of_ne (hne : ∀ rest, front ≠ some '.' :: rest) :
    afterDigits negative significand dropped front =
      if dropped = 0 && !front.head?.any isExponentMark then .ok (wholePart negative significand)
      else exponentPart negative significand dropped front :=
  afterDigits.eq_2 _ _ _ _ hne

theorem Ends.afterDigits (h : Ends tail) (hp : Reader.passFraction front = some rest)
    (negative : Bool) (significand dropped : Nat) :
    Reader.afterDigits negative significand dropped (front ++ tail) =
      Reader.afterDigits negative significand dropped front := by
  by_cases hpoint : ∃ digits, front = some '.' :: digits
  · obtain ⟨digits, rfl⟩ := hpoint
    exact h.fractionPart hp negative significand dropped
  · have hne : ∀ digits, front ≠ some '.' :: digits := fun digits he => hpoint ⟨digits, he⟩
    rw [passFraction.eq_2 _ hne] at hp
    rw [afterDigits_of_ne hne, afterDigits_of_ne (h.ne_point hne), h.head_exponent,
      h.exponentPart hp]

/-- A number reads as it does alone, wherever it ends. -/
theorem Ends.number (h : Ends tail) (hp : Reader.passNumber front = some rest)
    (negative : Bool) :
    Reader.number negative (front ++ tail) = Reader.number negative front := by
  obtain ⟨first, more, rfl, hd⟩ := isDigit_of_passNumber hp
  rw [passNumber_digits hd] at hp
  rw [List.cons_append, number_digits hd, number_digits hd, h.head_digit, ← List.cons_append,
    h.takeDigits]
  split at hp
  · cases hp
  · next hz =>
    rw [← List.dropWhile_cons_of_pos hd, ← takeDigits_dropWhile 0] at hp
    simp only [hz, Bool.false_eq_true, ↓reduceIte, h.takeWhile, h.dropWhile]
    exact h.afterDigits hp negative _ _

theorem Ends.numberNode (h : Ends tail) (hp : Reader.passNumber front = some rest)
    (negative : Bool) :
    Reader.numberNode negative (front ++ tail) =
      (.number (Reader.number negative front), some (rest ++ tail)) := by
  simp only [Reader.numberNode, h.number hp, h.passNumber hp]

end

theorem numberNode_ok (hp : numberNode negative front = (.number (.ok n), rest)) :
    number negative front = .ok n ∧ passNumber front = rest ∧ rest.isSome = true := by
  unfold numberNode at hp
  split at hp
  · next more hpass =>
    simp only [Prod.mk.injEq, Node.number.injEq] at hp
    obtain ⟨hn, rfl⟩ := hp
    exact ⟨hn, hpass, rfl⟩
  · simp only at hp
    split at hp <;> simp at hp

theorem value_minus (fuel : Nat) (rest : GappedText) :
    value (fuel + 1) (some '-' :: rest) = numberNode true rest := rfl

theorem isBlank_of_isDigit (h : c.isDigit = true) : isBlank (some c) = false := by
  simp only [isBlank, Option.some.injEq, Bool.or_eq_false_iff, decide_eq_false_iff_not]
  refine ⟨⟨⟨?_, ?_⟩, ?_⟩, ?_⟩ <;>
    · rintro rfl
      cases h

theorem isBlank_of_begins (h : c = '-' ∨ c.isDigit = true) :
    isBlank (some c) = false ∧ c ≠ ']' := by
  rcases h with rfl | h
  · decide
  · exact ⟨isBlank_of_isDigit h, by rintro rfl; cases h⟩

theorem isDigit_some (h : c.isDigit = true) : isDigit (some c) = true := by
  simp [isDigit, digit?, h]

theorem dropWhile_stops {tail : GappedText} (stops : tail.head?.any isDigit = false) :
    tail.dropWhile isDigit = tail := by
  cases tail with
  | nil => rfl
  | cons c rest => exact List.dropWhile_cons_of_neg (by simpa using stops)

theorem dropWhile_digits_append {run : List Char} (h : ∀ c ∈ run, c.isDigit = true)
    {tail : GappedText} (stops : tail.head?.any isDigit = false) :
    (run.map some ++ tail).dropWhile isDigit = tail := by
  rw [List.dropWhile_append_of_pos (List.forall_mem_map.mpr fun c hc => isDigit_some (h c hc)),
    dropWhile_stops stops]

theorem value_digit (h : c.isDigit = true) (fuel : Nat) (rest : GappedText) :
    value (fuel + 1) (some c :: rest) = numberNode false (some c :: rest) := by
  have hskip : skipBlanks (some c :: rest) = some c :: rest := by
    simp [skipBlanks, isBlank_of_isDigit h]
  rw [value.eq_def]
  simp only [hskip]
  -- A digit begins neither a word nor a string, a list or an object.
  split <;> rename_i heq <;> cases heq
  case h_9 => exact if_pos (isDigit_some h)
  all_goals cases h

end Reader

-- ---------------------------------------------------------------------------
-- How a numeral begins
-- ---------------------------------------------------------------------------

def Begins (digits : List Char) : Prop :=
  ∃ c more, digits = c :: more ∧ (c = '-' ∨ c.isDigit = true)

theorem Begins.append (h : Begins digits) (more : List Char) : Begins (digits ++ more) := by
  obtain ⟨c, rest, rfl, hc⟩ := h
  exact ⟨c, rest ++ more, rfl, hc⟩

theorem begins_digits (hne : digits ≠ []) (hd : ∀ c ∈ digits, c.isDigit = true) :
    Begins digits := by
  obtain ⟨c, rest, rfl⟩ := List.exists_cons_of_ne_nil hne
  exact ⟨c, rest, rfl, .inr (hd c List.mem_cons_self)⟩

theorem isDigit_of_toDigits {n : Nat} : ∀ c ∈ Nat.toDigits 10 n, c.isDigit = true :=
  fun _ => Nat.isDigit_of_mem_toDigits (by decide) (by decide)

theorem begins_toDigits (n : Nat) : Begins (Nat.toDigits 10 n) :=
  begins_digits Nat.toDigits_ne_nil isDigit_of_toDigits

/-- Some digits and then a point or the mark of an exponent. -/
def Fractional (body : List Char) : Prop :=
  ∃ digits mark rest, body = digits ++ mark :: rest ∧ digits ≠ [] ∧
    (∀ c ∈ digits, c.isDigit = true) ∧ (mark = '.' ∨ mark = 'e')

theorem Fractional.begins (h : Fractional body) : Begins body := by
  obtain ⟨digits, mark, rest, rfl, hne, hd, -⟩ := h
  exact (begins_digits hne hd).append _

theorem Fractional.append (h : Fractional body) (more : List Char) : Fractional (body ++ more) := by
  obtain ⟨digits, mark, rest, rfl, hne, hd, hmark⟩ := h
  exact ⟨digits, mark, rest ++ more, by simp, hne, hd, hmark⟩

theorem take_toDigits_ne_nil (h : 0 < count) (n : Nat) : (Nat.toDigits 10 n).take count ≠ [] := by
  have := Nat.length_toDigits_pos (b := 10) (n := n)
  rw [← List.length_pos_iff, List.length_take]
  omega

theorem isDigit_of_take {n : Nat} : ∀ c ∈ (Nat.toDigits 10 n).take count, c.isDigit = true :=
  fun c hc => isDigit_of_toDigits c (List.mem_of_mem_take hc)

/-- Without places behind the point the point is put there. -/
theorem fractional_positional (d : Decimal) :
    Fractional (Shortest.positional d ++ if 0 ≤ d.exponent then ['.', '0'] else []) := by
  unfold Shortest.positional
  simp only
  split
  · refine ⟨_, '.', ['0'], rfl, ?_, fun c hc => ?_, .inl rfl⟩
    · exact List.append_ne_nil_of_left_ne_nil Nat.toDigits_ne_nil _
    · rcases List.mem_append.mp hc with hdigit | hzero
      · exact isDigit_of_toDigits c hdigit
      · rw [List.eq_of_mem_replicate hzero]
        rfl
  · rw [List.append_nil]
    split
    · next hpoint =>
      exact ⟨_, '.', _, rfl, take_toDigits_ne_nil (by omega) d.coefficient, isDigit_of_take,
        .inl rfl⟩
    · exact ⟨['0'], '.', _, rfl, List.cons_ne_nil _ _, by simp, .inl rfl⟩

theorem toDocument_fractional (negative : Bool) (units : Nat) :
    ∃ body, Number.toDocument negative units = Shortest.sign negative ++ body ∧
      Fractional body := by
  refine ⟨_, rfl, ?_⟩
  simp only
  split
  · exact fractional_positional _
  · have hne := take_toDigits_ne_nil Nat.one_pos (Shortest.decimal .even units).coefficient
    split
    · rw [List.append_nil]
      exact ⟨_, 'e', _, rfl, hne, isDigit_of_take, .inr rfl⟩
    · exact Fractional.append ⟨_, '.', _, rfl, hne, isDigit_of_take, .inl rfl⟩ _

theorem begins_sign (h : Begins digits) (negative : Bool) :
    Begins (Shortest.sign negative ++ digits) := by
  cases negative with
  | false => exact h
  | true => exact ⟨'-', digits, rfl, .inl rfl⟩

theorem begins_toDocument (negative : Bool) (units : Nat) :
    Begins (Number.toDocument negative units) := by
  obtain ⟨body, hbody, hf⟩ := toDocument_fractional negative units
  rw [hbody]
  exact begins_sign hf.begins negative

theorem toList_natCast (n : Nat) : (toString (n : Int)).toList = Nat.toDigits 10 n := by
  simp [toString, Int.repr]

theorem toList_negSucc (n : Nat) :
    (toString (Int.negSucc n)).toList = '-' :: Nat.toDigits 10 (n + 1) := by
  simp [toString, Int.repr]

theorem begins_integer (i : Int) : Begins (toString i).toList := by
  cases i with
  | ofNat n => exact toList_natCast n ▸ begins_toDigits n
  | negSucc n => exact ⟨'-', _, toList_negSucc n, .inl rfl⟩

-- ---------------------------------------------------------------------------
-- Integers
-- ---------------------------------------------------------------------------

theorem toDigits_cons (n : Nat) :
    ∃ first rest, Nat.toDigits 10 n = first :: rest ∧ first.isDigit = true ∧
      ∀ c ∈ rest, c.isDigit = true := by
  obtain ⟨first, rest, h⟩ :=
    List.exists_cons_of_ne_nil (Nat.toDigits_ne_nil : Nat.toDigits 10 n ≠ [])
  have hall : ∀ c ∈ first :: rest, c.isDigit = true := h ▸ isDigit_of_toDigits
  exact ⟨first, rest, h, List.forall_mem_cons.mp hall⟩

theorem zero_of_head (h : (Nat.toDigits 10 n).head? = some '0') : n = 0 := by
  induction n using Nat.strongRecOn with
  | _ n ih =>
    have hsmall : ∀ n < 10, Nat.digitChar n = '0' → n = 0 := by decide
    by_cases hn : n < 10
    · rw [Nat.toDigits_of_lt_base hn] at h
      exact hsmall n hn (by simpa using h)
    · -- The head of the digits is that of the digits without the last.
      obtain ⟨c, more, hfirst, -⟩ := toDigits_cons (n / 10)
      rw [Nat.toDigits_of_base_le (by decide) (by omega), hfirst] at h
      have := ih (n / 10) (by omega) (by rw [hfirst]; exact h)
      omega

theorem le_ofDigitChars (digits : List Char) (n : Nat) : n ≤ Nat.ofDigitChars 10 digits n := by
  induction digits generalizing n with
  | nil => exact Nat.le_refl n
  | cons c rest ih =>
    rw [Nat.ofDigitChars_cons]
    exact Nat.le_trans (by omega) (ih _)

namespace Reader

theorem takeDigits_digits (hd : ∀ c ∈ digits, c.isDigit = true)
    (hfit : (Nat.ofDigitChars 10 digits significand : Int) < Numeral.unsignedLimit) :
    takeDigits significand (digits.map some) =
      (Nat.ofDigitChars 10 digits significand, digits.length, []) := by
  induction digits generalizing significand with
  | nil => rfl
  | cons c rest ih =>
    obtain ⟨hc, hrest⟩ := List.forall_mem_cons.mp hd
    rw [Nat.ofDigitChars_cons] at hfit ⊢
    have hdigit : digit? (some c) = some (c.toNat - '0'.toNat) := by simp [digit?, hc]
    have hnext : (10 * significand + (c.toNat - '0'.toNat) : Nat) <
        (Numeral.unsignedLimit : Int) := by
      have := le_ofDigitChars rest (10 * significand + (c.toNat - '0'.toNat))
      omega
    simp only [List.map_cons, takeDigits, hdigit]
    rw [if_pos (by exact_mod_cast hnext), ih hrest hfit]
    rfl

theorem toDigits_zero {n : Nat} (h : Nat.toDigits 10 n = '0' :: rest) : rest = [] := by
  obtain rfl : n = 0 := zero_of_head (by rw [h]; rfl)
  cases h
  rfl

theorem dropWhile_digits {digits : List Char} (hd : ∀ c ∈ digits, c.isDigit = true) :
    (digits.map some).dropWhile isDigit = [] := by
  induction digits with
  | nil => rfl
  | cons c rest ih =>
    obtain ⟨hc, hrest⟩ := List.forall_mem_cons.mp hd
    rw [List.map_cons, List.dropWhile_cons_of_pos (isDigit_some hc), ih hrest]

theorem number_toDigits {n : Nat} (hfit : (n : Int) < Numeral.unsignedLimit) (negative : Bool) :
    number negative ((Nat.toDigits 10 n).map some) = .ok (wholePart negative n) := by
  have hvalue : Nat.ofDigitChars 10 (Nat.toDigits 10 n) 0 = n :=
    Nat.ofDigitChars_toDigits (by decide) (by decide)
  have htake := takeDigits_digits isDigit_of_toDigits (by rwa [hvalue])
  rw [hvalue] at htake
  obtain ⟨first, rest, hdigits, hfirst, -⟩ := toDigits_cons n
  have hzero : ¬(some first = some '0' && (rest.map some).head?.any isDigit) = true := by
    intro hz
    obtain ⟨rfl, hmore⟩ : first = '0' ∧ _ := by simpa using hz
    rw [toDigits_zero hdigits] at hmore
    cases hmore
  rw [hdigits] at htake ⊢
  rw [List.map_cons, number_digits (isDigit_some hfirst), if_neg hzero, ← List.map_cons, htake]
  rfl

theorem passNumber_toDigits (n : Nat) :
    passNumber ((Nat.toDigits 10 n).map some) = some [] := by
  obtain ⟨first, rest, hdigits, hfirst, hrest⟩ := toDigits_cons n
  rw [hdigits, List.map_cons]
  by_cases hz : first = '0'
  · subst hz
    rw [toDigits_zero hdigits]
    rfl
  · rw [passNumber_digits (isDigit_some hfirst), if_neg (by simp [hz]), dropWhile_digits hrest]
    rfl

theorem numberNode_toDigits {n : Nat} (hfit : (n : Int) < Numeral.unsignedLimit)
    (negative : Bool) :
    numberNode negative ((Nat.toDigits 10 n).map some) =
      (.number (.ok (wholePart negative n)), some []) := by
  simp only [numberNode, number_toDigits hfit, passNumber_toDigits]

theorem value_integer (hlow : Numeral.signedMin ≤ i) (hhigh : i < Numeral.unsignedLimit)
    (fuel : Nat) :
    value (fuel + 1) ((toString i).toList.map some) = (.number (.ok (.integer i)), some []) := by
  cases i with
  | ofNat n =>
    obtain ⟨first, rest, hdigits, hfirst, -⟩ := toDigits_cons n
    have hnode := numberNode_toDigits hhigh false
    rw [hdigits] at hnode
    rw [Int.ofNat_eq_natCast, toList_natCast, hdigits, List.map_cons, value_digit hfirst,
      ← List.map_cons, hnode]
    rfl
  | negSucc n =>
    have hfit : ((n + 1 : Nat) : Int) < Numeral.unsignedLimit := by
      simp only [Numeral.signedMin, Numeral.unsignedLimit] at *
      omega
    have hwhole : wholePart true (n + 1) = .integer (Int.negSucc n) := by
      have hneg : -((n + 1 : Nat) : Int) = Int.negSucc n := rfl
      simp only [wholePart, hneg, hlow]
      rfl
    rw [toList_negSucc, List.map_cons, value_minus, numberNode_toDigits hfit, hwhole]

end Reader

-- ---------------------------------------------------------------------------
-- Numerals that are read back
-- ---------------------------------------------------------------------------

def Document.numeral? : Document → Option Numeral
  | ⟨.number (.ok n), false⟩ => some n
  | _ => none

theorem Document.eq_of_numeral (h : numeral? document = some n) :
    document = ⟨.number (.ok n), false⟩ := by
  unfold numeral? at h
  split at h
  · rw [Option.some.inj h]
  · cases h

namespace Reader

theorem value_begins (h : Begins digits) :
    ∃ negative body, ∀ fuel tail,
      value (fuel + 1) (digits.map some ++ tail) = numberNode negative (body ++ tail) := by
  obtain ⟨c, more, rfl, rfl | hc⟩ := h
  · exact ⟨true, more.map some, fun fuel tail => value_minus fuel _⟩
  · exact ⟨false, (c :: more).map some, fun fuel tail => value_digit hc fuel _⟩

theorem skipBlanks_append (h : skipBlanks rest = []) (tail : GappedText) :
    skipBlanks (rest ++ tail) = skipBlanks tail :=
  List.dropWhile_append_of_pos (List.dropWhile_eq_nil_iff.mp h)

end Reader

theorem ofText_number (n : Numeral) :
    Document.ofText (.ofString (Json.text (.number n))) =
      Document.ofText ((Writer.numeral n).map some) := by
  rw [Unicode.GappedText.ofString, Json.text, String.toList_ofList, Writer.chars]

/-- A number is the whole document if nothing but blanks follows it. -/
theorem numberNode_of_numeral {text body : GappedText}
    (hvalue : ∀ fuel, Reader.value (fuel + 1) text = Reader.numberNode negative body)
    (h : (Document.ofText text).numeral? = some n) :
    ∃ rest, Reader.numberNode negative body = (.number (.ok n), some rest) ∧
      Reader.skipBlanks rest = [] := by
  simp only [Document.ofText, hvalue] at h
  rcases hnode : Reader.numberNode negative body with ⟨root, rest⟩
  rw [hnode] at h
  cases rest with
  | none =>
    obtain ⟨rfl⟩ : root = .number (.ok n) := by simpa using Document.eq_of_numeral h
    exact absurd (Reader.numberNode_ok hnode).2.2 Bool.false_ne_true
  | some rest =>
    obtain ⟨rfl, hrest⟩ : root = .number (.ok n) ∧ Reader.skipBlanks rest = [] := by
      simpa using Document.eq_of_numeral h
    exact ⟨rest, rfl, hrest⟩

end Json

namespace Numeral

open Json.Reader

def Rereads (n : Numeral) : Prop :=
  (Json.Document.ofText (.ofString (Json.text (.number n)))).numeral? = some n

instance (n : Numeral) : Decidable n.Rereads := inferInstanceAs (Decidable (_ = some n))

theorem rereads_integer (hlow : signedMin ≤ i) (hhigh : i < unsignedLimit) :
    (integer i).Rereads := by
  have hvalue := value_integer hlow hhigh
  simp only [Rereads, Json.Document.ofText, Unicode.GappedText.ofString, Json.text,
    String.toList_ofList, Json.Writer.chars, Json.Writer.numeral, hvalue]
  rfl

theorem Rereads.begins (h : Rereads n) : Json.Begins (Json.Writer.numeral n) := by
  cases n with
  | integer i => exact Json.begins_integer i
  | float x =>
    cases x with
    | finite negative units => exact Json.begins_toDocument negative units
    | nan => cases h
    | infinity negative => cases negative <;> cases h

/-- What is read from a numeral depends on nothing behind it. -/
theorem Rereads.value (h : Rereads n) (ends : Ends tail) (fuel : Nat) :
    ∃ rest, value (fuel + 1) ((Json.Writer.numeral n).map some ++ tail) =
      (.number (.ok n), some rest) ∧ skipBlanks rest = skipBlanks tail := by
  obtain ⟨negative, body, hvalue⟩ := value_begins h.begins
  have halone : ∀ fuel, Json.Reader.value (fuel + 1) ((Json.Writer.numeral n).map some) =
      numberNode negative body := by
    simpa using fun fuel => hvalue fuel []
  rw [Rereads, Json.ofText_number] at h
  obtain ⟨rest, hnode, hrest⟩ := Json.numberNode_of_numeral halone h
  obtain ⟨hn, hpass, -⟩ := numberNode_ok hnode
  refine ⟨rest ++ tail, ?_, skipBlanks_append hrest tail⟩
  rw [hvalue, ends.numberNode hpass, hn]

end Numeral

end RefViewer
