import RefViewer.Proofs.Query.Tokens

/-!
# What a taken token tells

A token that is taken stood at the front of the text: a word in its whole length, a symbol, a
number or a string between its quotes.
-/

namespace RefViewer.Query.Grammar

open Reader

-- ---------------------------------------------------------------------------
-- Words and symbols
-- ---------------------------------------------------------------------------

structure TakesWord (text left : List Char) : Prop where
  given : leadingWord text ≠ []
  whole : afterWord text = left

theorem TakesWord.append (taken : TakesWord text left) : leadingWord text ++ left = text := by
  rw [← taken.whole, leadingWord_append_afterWord]

theorem TakesWord.ends (taken : TakesWord text left) : WordEnds left :=
  taken.whole ▸ wordEnds_afterWord text

theorem TakesWord.head (taken : TakesWord text left) : text.head?.any isNameChar = true := by
  cases text with
  | nil => exact absurd rfl taken.given
  | cons c rest =>
    refine Decidable.byContradiction fun other => taken.given ?_
    exact List.takeWhile_cons_of_neg other

theorem leadingWord_chars (text : List Char) : ∀ c ∈ leadingWord text, isNameChar c = true :=
  fun _ hc => List.mem_takeWhile_imp hc

def ByWord (take : List Char → Option (α × List Char)) : Prop :=
  ∃ decide : List Char → Option α, decide [] = none ∧
    ∀ text, take text = (decide (leadingWord text)).map fun a => (a, afterWord text)

theorem ByWord.takesWord {take : List Char → Option (α × List Char)} (h : ByWord take)
    (taken : take text = some (a, left)) : TakesWord text left := by
  obtain ⟨decide, empty, eq⟩ := h
  rw [eq, Option.map_eq_some_iff] at taken
  obtain ⟨b, found, same⟩ := taken
  cases same
  refine ⟨fun none => ?_, rfl⟩
  rw [none, empty] at found
  cases found

theorem byWord_word (word : String) (letters : word.toList.all isNameChar = true)
    (given : word.toList ≠ []) : ByWord (takeWord word) := by
  refine ⟨fun w => if w = word.toList then some () else none, if_neg given.symm, fun text => ?_⟩
  rw [takeWord_eq word letters]
  by_cases same : leadingWord text = word.toList <;> simp [same]

theorem byWord_keyword (word : String) (letters : word.toList.all isNameChar = true)
    (given : word.toList ≠ []) : ByWord (takeKeyword word) := by
  refine ⟨fun w => if w.map Char.toLower = word.toList then some () else none,
    if_neg given.symm, fun text => ?_⟩
  rw [takeKeyword_eq word letters]
  by_cases same : (leadingWord text).map Char.toLower = word.toList <;> simp [same]

theorem byWord_name : ByWord takeName := by
  refine ⟨fun w => if w.head?.any isNameStart then some (.ofList w) else none, rfl, fun text => ?_⟩
  cases text with
  | nil => rfl
  | cons c rest =>
    rw [takeName]
    by_cases letter : isNameChar c = true
    · rw [leadingWord, afterWord, List.takeWhile_cons_of_pos letter,
        List.dropWhile_cons_of_pos letter]
      by_cases start : isNameStart c = true <;> simp [start]
    · have other : ¬ isNameStart c = true := fun start => letter (isNameChar_of_isNameStart start)
      rw [leadingWord, List.takeWhile_cons_of_neg letter, if_neg other]
      rfl

theorem byWord_boolean : ByWord fun text =>
    match takeWord "true" text with
    | some (_, rest) => some (Term.boolean true, rest)
    | none => (takeWord "false" text).map fun (_, rest) => (.boolean false, rest) := by
  refine ⟨fun w =>
    if w = "true".toList then some (.boolean true)
    else if w = "false".toList then some (.boolean false) else none, rfl, fun text => ?_⟩
  simp only [takeWord_eq "true" rfl, takeWord_eq "false" rfl]
  by_cases yes : leadingWord text = "true".toList
  · simp only [if_pos yes, Option.map_some]
  · simp only [if_neg yes]
    split <;> rfl

theorem takeName_some (taken : takeName text = some (name, left)) :
    TakesWord text left ∧ text.head?.any isNameStart = true := by
  refine ⟨byWord_name.takesWord taken, ?_⟩
  cases text with
  | nil => cases taken
  | cons c rest =>
    rw [takeName] at taken
    split at taken
    · next start => exact start
    · cases taken

theorem takeText_some (taken : takeText expected text = some (u, left)) :
    text = expected ++ left := by
  rw [takeText] at taken
  split at taken
  · next front =>
    cases taken
    obtain ⟨more, rfl⟩ := List.isPrefixOf_iff_prefix.mp front
    rw [List.drop_left]
  · cases taken

theorem takeEither_some (taken : takeEither first second text = some out) :
    first text = some out ∨ second text = some out := by
  rw [takeEither] at taken
  split at taken
  · next same => exact .inl (same.trans taken)
  · exact .inr taken

theorem takeBang_some (taken : takeBang text = some (u, left)) : text = '!' :: left := by
  unfold takeBang at taken
  split at taken
  · cases taken
  · cases taken
    rfl
  · cases taken

-- ---------------------------------------------------------------------------
-- Numbers
-- ---------------------------------------------------------------------------

theorem takeFraction_cases (text : List Char) :
    takeFraction text = ([], text) ∨
      ∃ first rest, first.isDigit = true ∧ text = '.' :: first :: rest ∧
        takeFraction text =
          ('.' :: first :: rest.takeWhile Char.isDigit, rest.dropWhile Char.isDigit) := by
  unfold takeFraction
  split
  · next c rest =>
    by_cases digit : c.isDigit = true
    · rw [if_pos digit]
      exact .inr ⟨c, rest, digit, rfl, rfl⟩
    · rw [if_neg digit]
      exact .inl rfl
  · exact .inl rfl

theorem takeUnsigned_some (taken : takeUnsigned text = some (digits, left)) :
    UnsignedToken digits ∧ text = digits ++ left := by
  have split := List.takeWhile_append_dropWhile (p := Char.isDigit) (l := text)
  have all : ∀ c ∈ text.takeWhile Char.isDigit, c.isDigit = true :=
    fun _ hc => List.mem_takeWhile_imp hc
  rw [takeUnsigned] at taken
  by_cases given : text.takeWhile Char.isDigit = []
  · rw [if_pos given] at taken
    cases taken
  · rw [if_neg given] at taken
    rcases takeFraction_cases (text.dropWhile Char.isDigit) with none | ⟨c, rest, digit, mid, some⟩
    · rw [none] at taken
      cases taken
      rw [List.append_nil]
      exact ⟨.whole given all, split.symm⟩
    · rw [some] at taken
      cases taken
      refine ⟨.fraction given all digit fun _ hc => List.mem_takeWhile_imp hc, ?_⟩
      rw [List.append_assoc, List.cons_append, List.cons_append, List.takeWhile_append_dropWhile,
        ← mid, split]

theorem takeNumber_some (taken : takeNumber text = some (digits, left)) :
    NumberToken digits ∧ text = digits ++ left := by
  unfold takeNumber at taken
  split at taken
  · next rest =>
    rw [Option.map_eq_some_iff] at taken
    obtain ⟨⟨inner, after⟩, unsigned, same⟩ := taken
    cases same
    obtain ⟨token, rfl⟩ := takeUnsigned_some unsigned
    exact ⟨.negative token, rfl⟩
  · obtain ⟨token, split⟩ := takeUnsigned_some taken
    exact ⟨.plain token, split⟩

-- ---------------------------------------------------------------------------
-- Strings
-- ---------------------------------------------------------------------------

theorem takeQuoted_some (quote : Quote)
    (taken : takeQuoted quote.char text = some (quoted, left)) :
    Escaped quote quoted ∧ text = quoted ++ quote.char :: left := by
  fun_induction takeQuoted quote.char text generalizing quoted with
  | case1 => cases taken
  | case2 c rest ih =>
    rw [Option.map_eq_some_iff] at taken
    obtain ⟨⟨inner, after⟩, later, same⟩ := taken
    cases same
    obtain ⟨escaped, rfl⟩ := ih later
    exact ⟨.escape escaped, rfl⟩
  | case3 rest =>
    cases taken
    exact ⟨.stop, rfl⟩
  | case4 => cases taken
  | case5 c rest _ noQuote noEscape ih =>
    rw [Option.map_eq_some_iff] at taken
    obtain ⟨⟨inner, after⟩, later, same⟩ := taken
    cases same
    obtain ⟨escaped, rfl⟩ := ih later
    exact ⟨.plain noQuote noEscape escaped, rfl⟩

theorem takeString_some (taken : takeString text = some (quoted, left)) :
    ∃ quote, Escaped quote quoted ∧ text = quote.char :: (quoted ++ quote.char :: left) := by
  unfold takeString at taken
  split at taken
  · obtain ⟨escaped, rfl⟩ := takeQuoted_some .double taken
    exact ⟨.double, escaped, rfl⟩
  · obtain ⟨escaped, rfl⟩ := takeQuoted_some .single taken
    exact ⟨.single, escaped, rfl⟩
  · cases taken

-- ---------------------------------------------------------------------------
-- Tokens
-- ---------------------------------------------------------------------------

theorem token_some {take : List Char → Option (α × List Char)}
    (reads : Reads (token rule take) text a rest) :
    ∃ left, take text = some (a, left) ∧ left.dropWhile isGap = rest :=
  Reads.of_lexeme (Reads.of_named reads)

theorem token_none {take : List Char → Option (α × List Char)}
    (refused : Refuses (token rule take) text) : take text = none := by
  cases taken : take text with
  | none => rfl
  | some out => exact absurd refused (reads_token rule taken).not_refuses

theorem symbol_some (reads : Reads (symbol expected) text u rest) :
    ∃ left, text = expected.toList ++ left ∧ left.dropWhile isGap = rest := by
  obtain ⟨left, taken, gap⟩ := Reads.of_lexeme reads
  exact ⟨left, takeText_some taken, gap⟩

theorem refuses_sign_word (refused : Refuses sign text) :
    (leadingWord text).map Char.toLower ≠ "not".toList := by
  intro same
  have taken : takeKeyword "not" text = some ((), afterWord text) := by
    rw [takeKeyword_eq "not" rfl, if_pos same]
  obtain ⟨-, noWord⟩ := Refuses.of_or refused
  exact absurd noWord ((reads_token .not taken).map fun _ => Sign.not).not_refuses

theorem ident_some (reads : Reads ident text name rest) :
    ∃ left, TakesWord text left ∧ left.dropWhile isGap = rest := by
  obtain ⟨left, taken, gap⟩ := token_some reads
  exact ⟨left, (takeName_some taken).1, gap⟩

theorem sign_some (reads : Reads sign text s rest) :
    ∃ left, left.dropWhile isGap = rest ∧ (text = '!' :: left ∨ TakesWord text left) := by
  rcases Reads.of_or reads with reads | ⟨-, reads⟩
  · obtain ⟨_, mid, bang, last⟩ := Reads.of_bind reads
    obtain ⟨-, rfl⟩ := Reads.of_pure last
    obtain ⟨left, taken, gap⟩ := token_some bang
    exact ⟨left, gap, .inl (takeBang_some taken)⟩
  · obtain ⟨_, mid, word, last⟩ := Reads.of_bind reads
    obtain ⟨-, rfl⟩ := Reads.of_pure last
    obtain ⟨left, taken, gap⟩ := token_some word
    exact ⟨left, gap, .inr ((byWord_keyword "not" rfl (by decide)).takesWord taken)⟩

def symbols : List String := ["||", "&&", "===", "==", "!==", "!=", "<=", ">=", "<", ">"]

def TakesOperator (text left : List Char) : Prop :=
  TakesWord text left ∨ ∃ written ∈ symbols, text = written.toList ++ left

theorem operatorAs_some (reads : Reads (operatorAs op rule take) text o rest) :
    o = op ∧ ∃ left, take text = some ((), left) ∧ left.dropWhile isGap = rest := by
  obtain ⟨_, mid, read, last⟩ := Reads.of_bind reads
  obtain ⟨rfl, rfl⟩ := Reads.of_pure last
  exact ⟨rfl, token_some read⟩

/-- How an operator is taken: by a symbol, by a word, or by a symbol or else in another way. -/
inductive OperatorTake (op : Operator) : (List Char → Option (Unit × List Char)) → Prop
  | symbol (spells : Spells op written) (known : written ∈ symbols) :
      OperatorTake op (takeSymbol written)
  | word (spells : Spells op written) (letters : written.toList.all isNameChar = true)
      (given : written.toList ≠ []) : OperatorTake op (takeKeyword written)
  | symbolOr (spells : Spells op written) (known : written ∈ symbols)
      (other : OperatorTake op take) : OperatorTake op (takeEither (takeSymbol written) take)

theorem operator_readers : ∃ readers : List (Reader Operator), operator = firstOf readers ∧
    ∀ p ∈ readers, ∃ op rule take, p = operatorAs op rule take ∧ OperatorTake op take := by
  refine ⟨_, rfl, fun p hp => ?_⟩
  simp only [List.mem_cons, List.not_mem_nil, or_false] at hp
  rcases hp with rfl | rfl | rfl | rfl | rfl | rfl | rfl | rfl | rfl | rfl | rfl | rfl <;>
    refine ⟨_, _, _, rfl, ?_⟩
  · exact .symbolOr .bars (by decide) (.word .or rfl (by decide))
  · exact .symbolOr .ampersands (by decide) (.word .and rfl (by decide))
  · exact .symbolOr .tripleEq (by decide) (.symbol .eq (by decide))
  · exact .symbolOr .doubleNe (by decide) (.symbol .ne (by decide))
  · exact .symbol .le (by decide)
  · exact .symbol .ge (by decide)
  · exact .symbol .lt (by decide)
  · exact .symbol .gt (by decide)
  · exact .word .contains rfl (by decide)
  · exact .word .startsWith rfl (by decide)
  · exact .word .endsWith rfl (by decide)
  · exact .word .matches rfl (by decide)

theorem OperatorTake.takesOperator (way : OperatorTake op take)
    (taken : take text = some ((), left)) : TakesOperator text left := by
  induction way with
  | symbol _ known => exact .inr ⟨_, known, takeText_some taken⟩
  | word _ letters given => exact .inl ((byWord_keyword _ letters given).takesWord taken)
  | symbolOr _ known _ ih =>
    rcases takeEither_some taken with taken | taken
    · exact .inr ⟨_, known, takeText_some taken⟩
    · exact ih taken

theorem operator_some (reads : Reads operator text op rest) :
    ∃ left, TakesOperator text left ∧ left.dropWhile isGap = rest := by
  obtain ⟨readers, eq, each⟩ := operator_readers
  rw [eq] at reads
  obtain ⟨p, hp, reads⟩ := Reads.of_firstOf reads
  obtain ⟨op, rule, take, rfl, way⟩ := each p hp
  obtain ⟨-, left, taken, gap⟩ := operatorAs_some reads
  exact ⟨left, way.takesOperator taken, gap⟩

-- ---------------------------------------------------------------------------
-- Words as operands
-- ---------------------------------------------------------------------------

theorem takeWord_head (taken : takeWord word text = some (u, left))
    (first : word.toList.head? = some c) : text.head? = some c := by
  rw [takeWord] at taken
  split at taken
  · next held =>
    obtain ⟨more, rfl⟩ := List.isPrefixOf_iff_prefix.mp (Bool.and_eq_true_iff.mp held).1
    rw [List.head?_append, first, Option.some_or]
  · cases taken

def word : Reader Term :=
  .firstOf [
    token .boolean fun text =>
      match takeWord "true" text with
      | some (_, rest) => some (.boolean true, rest)
      | none => (takeWord "false" text).map fun (_, rest) => (.boolean false, rest),
    do token .null (takeWord "null"); pure .null,
    Term.name <$> ident]

theorem primary_eq (inner : Reader Term) :
    primary inner = .or (grouped inner) (.or (Term.number <$> token .number takeNumber)
      (.or (Term.string <$> token .string takeString) word)) := rfl

theorem word_some (reads : Reads word text term rest) :
    ∃ left, TakesWord text left ∧ left.dropWhile isGap = rest ∧
      text.head?.any isNameStart = true := by
  obtain ⟨p, hp, reads⟩ := Reads.of_firstOf reads
  simp only [List.mem_cons, List.not_mem_nil, or_false] at hp
  rcases hp with rfl | rfl | rfl
  · obtain ⟨left, taken, gap⟩ := token_some reads
    refine ⟨left, byWord_boolean.takesWord taken, gap, ?_⟩
    split at taken
    · next found =>
      rw [takeWord_head found rfl]
      rfl
    · rw [Option.map_eq_some_iff] at taken
      obtain ⟨_, found, -⟩ := taken
      rw [takeWord_head found rfl]
      rfl
  · obtain ⟨_, null, -⟩ := Reads.of_map (f := fun _ => Term.null) reads
    obtain ⟨left, found, gap⟩ := token_some null
    refine ⟨left, (byWord_word "null" rfl (by decide)).takesWord found, gap, ?_⟩
    rw [takeWord_head found rfl]
    rfl
  · obtain ⟨name, ident, -⟩ := Reads.of_map reads
    obtain ⟨left, taken, gap⟩ := token_some ident
    obtain ⟨word, start⟩ := takeName_some taken
    exact ⟨left, word, gap, start⟩

-- ---------------------------------------------------------------------------
-- Whole queries
-- ---------------------------------------------------------------------------

theorem endOfInput_some (reads : Reads endOfInput text u rest) : text = [] := by
  have stopped := Reads.of_named reads
  simp only [Reads] at stopped
  split at stopped
  · next ended => exact ended
  · cases stopped

theorem query_eq (text : List Char) :
    query text = Reader.read (do
      skipGap
      let term ← expr (text.length + 1)
      endOfInput
      pure term) text := by
  rw [query]

theorem query_iff :
    Reads query text term rest ↔
      Reads (expr (text.length + 1)) (text.dropWhile isGap) term [] ∧ rest = [] := by
  have sequence : Reads query text term rest ↔ Reads (do
      skipGap
      let term ← expr (text.length + 1)
      endOfInput
      pure term) text term rest := by
    unfold Reads
    rw [query_eq]
    rfl
  rw [sequence]
  constructor
  · intro reads
    obtain ⟨_, begun, gap, reads⟩ := Reads.of_bind reads
    obtain ⟨_, left, expr, reads⟩ := Reads.of_bind reads
    obtain ⟨_, last, stop, reads⟩ := Reads.of_bind reads
    obtain ⟨rfl, rfl⟩ := Reads.of_pure reads
    cases gap
    cases endOfInput_some stop
    cases stop
    exact ⟨expr, rfl⟩
  · rintro ⟨expr, rfl⟩
    have gap : Reads skipGap text () (text.dropWhile isGap) := rfl
    have stop : Reads endOfInput [] () [] := rfl
    exact gap.bind (expr.bind (stop.bind (reads_pure term [])))

/-- A text is parsed when an expression is read from it whole. -/
theorem parse_iff :
    parse text = .ok term ↔
      Reads (expr (text.toList.length + 1)) (text.toList.dropWhile isGap) term [] := by
  have taken : parse text = .ok term ↔ ∃ rest, Reads query text.toList term rest := by
    unfold parse Reads
    rcases query text.toList with ⟨_ | ⟨read, rest⟩, misses⟩ <;> simp
  simp only [taken, query_iff, exists_and_left, exists_eq, and_true]

end RefViewer.Query.Grammar
