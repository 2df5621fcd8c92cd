import RefViewer.Proofs.Query.Taken
import RefViewer.Proofs.Query.Writing

/-!
# Tokens as they are written

Keywords may be written in any mix of cases, strings with either quote, and some operators have two
spellings. What is written in one of these ways is read, and nothing else is.
-/

namespace RefViewer.Query

def Term.isWord : Term → Bool
  | .null | .boolean _ | .name _ => true
  | _ => false

namespace Grammar

open Reader

-- ---------------------------------------------------------------------------
-- Keywords
-- ---------------------------------------------------------------------------

theorem keyword_chars {keyword : String} {word : List Char}
    (letters : keyword.toList.all isNameChar = true)
    (same : word.map Char.toLower = keyword.toList) : ∀ c ∈ word, isNameChar c = true := by
  intro c hc
  have lowered : c.toLower ∈ keyword.toList := same ▸ List.mem_map_of_mem hc
  exact isNameChar_of_toLower (List.all_eq_true.mp letters _ lowered)

theorem keyword_cons {word keyword : List Char} (same : word.map Char.toLower = keyword)
    (given : keyword ≠ []) : ∃ c more, word = c :: more := by
  refine List.exists_cons_of_ne_nil ?_
  rintro rfl
  exact given same.symm

theorem keyword_written {keyword : String} (letters : keyword.toList.all isNameChar = true)
    (taken : takeKeyword keyword text = some (u, left)) :
    ∃ word, word.map Char.toLower = keyword.toList ∧ text = word ++ left ∧ WordEnds left := by
  rw [takeKeyword_eq keyword letters] at taken
  split at taken
  · next same =>
    cases taken
    exact ⟨_, same, (leadingWord_append_afterWord text).symm, wordEnds_afterWord text⟩
  · cases taken

theorem takeKeyword_append {keyword : String} {word : List Char}
    (letters : keyword.toList.all isNameChar = true)
    (same : word.map Char.toLower = keyword.toList) (ends : WordEnds left) :
    takeKeyword keyword (word ++ left) = some ((), left) := by
  have chars := keyword_chars letters same
  rw [takeKeyword_eq keyword letters, leadingWord_append chars ends, if_pos same,
    afterWord_append chars ends]

-- ---------------------------------------------------------------------------
-- Signs
-- ---------------------------------------------------------------------------

inductive WritesSign : Sign → List Char → Prop
  | bang : WritesSign .bang ['!']
  | not {word : List Char} (same : word.map Char.toLower = "not".toList) : WritesSign .not word

def SignEnds (left : List Char) : Sign → Prop
  | .bang => left.head? ≠ some '='
  | .not => WordEnds left

theorem sign_written (reads : Reads sign text s rest) :
    ∃ word left, WritesSign s word ∧ text = word ++ left ∧ SignEnds left s ∧
      left.dropWhile isGap = rest := by
  rcases Reads.of_or reads with reads | ⟨-, reads⟩
  · obtain ⟨_, mid, bang, last⟩ := Reads.of_bind reads
    obtain ⟨rfl, rfl⟩ := Reads.of_pure last
    obtain ⟨left, taken, gap⟩ := token_some bang
    obtain rfl := takeBang_some taken
    refine ⟨['!'], left, .bang, rfl, fun equals => ?_, gap⟩
    obtain ⟨more, rfl⟩ := List.head?_eq_some_iff.mp equals
    cases taken
  · obtain ⟨_, mid, not, last⟩ := Reads.of_bind reads
    obtain ⟨rfl, rfl⟩ := Reads.of_pure last
    obtain ⟨left, taken, gap⟩ := token_some not
    obtain ⟨word, same, split, ends⟩ := keyword_written rfl taken
    exact ⟨word, left, .not same, split, ends, gap⟩

theorem WritesSign.reads (writes : WritesSign s written) (ends : SignEnds left s) :
    Reads sign (written ++ left) s (left.dropWhile isGap) := by
  cases writes with
  | bang => exact reads_bang ends
  | not same =>
    obtain ⟨c, more, rfl⟩ := keyword_cons same (by decide)
    have noBang : ((c :: more) ++ left).head? ≠ some '!' := fun h =>
      ne_of_test (keyword_chars rfl same c List.mem_cons_self) rfl (Option.some.inj h)
    have refused : Refuses (do token .bang takeBang; pure Sign.bang) ((c :: more) ++ left) :=
      (refuses_token .bang (takeBang_none noBang)).bind _
    have taken := reads_token .not (takeKeyword_append rfl same ends)
    exact .or_right refused (taken.bind (reads_pure Sign.not _))

-- ---------------------------------------------------------------------------
-- Operators
-- ---------------------------------------------------------------------------

/-- A symbol as it is, or a word in any mix of cases. -/
inductive WritesOperator (op : Operator) : List Char → Prop
  | symbol (spells : Spells op spelling) (known : spelling ∈ symbols) :
      WritesOperator op spelling.toList
  | word {word : List Char} (spells : Spells op spelling)
      (letters : spelling.toList.all isNameChar = true)
      (same : word.map Char.toLower = spelling.toList) : WritesOperator op word

structure OperatorEnds (written left : List Char) : Prop where
  noEquals : left.head? ≠ some '='
  word : written.head?.any isNameChar = true → WordEnds left

theorem symbol_head (known : spelling ∈ symbols) :
    ∃ c more, spelling.toList = c :: more ∧ isNameChar c = false := by
  have heads : ∀ spelling ∈ symbols, spelling.toList ≠ [] ∧
      spelling.toList.head?.any isNameChar = false := by decide
  obtain ⟨given, other⟩ := heads spelling known
  obtain ⟨c, more, split⟩ := List.exists_cons_of_ne_nil given
  rw [split, List.head?_cons, Option.any_some] at other
  exact ⟨c, more, split, other⟩

theorem takeSymbol_word (known : spelling ∈ symbols) (begins : text.head?.any isNameChar = true) :
    takeSymbol spelling text = none := by
  obtain ⟨c, more, split, other⟩ := symbol_head known
  cases text with
  | nil => cases begins
  | cons d rest =>
    rw [List.head?_cons, Option.any_some] at begins
    have differs : c ≠ d := (ne_of_test begins other).symm
    rw [takeSymbol, split, takeText, List.isPrefixOf, beq_eq_false_iff_ne.mpr differs,
      Bool.false_and, if_neg Bool.false_ne_true]

theorem OperatorTake.anyCase (way : OperatorTake op take) {word keyword : List Char}
    (same : word.map Char.toLower = keyword) (small : keyword.map Char.toLower = keyword)
    (letters : ∀ c ∈ word, isNameChar c = true) (lowered : ∀ c ∈ keyword, isNameChar c = true)
    (given : keyword ≠ []) (ends : WordEnds left) :
    take (word ++ left) = take (keyword ++ left) := by
  have begins {word : List Char} (letters : ∀ c ∈ word, isNameChar c = true) (given : word ≠ []) :
      (word ++ left).head?.any isNameChar = true := by
    obtain ⟨c, more, rfl⟩ := List.exists_cons_of_ne_nil given
    exact letters c List.mem_cons_self
  have mixed := begins letters fun none => given (by rw [← same, none, List.map_nil])
  have plain := begins lowered given
  induction way with
  | symbol _ known => rw [takeSymbol_word known mixed, takeSymbol_word known plain]
  | word _ chars _ =>
    rw [takeKeyword_eq _ chars, takeKeyword_eq _ chars, leadingWord_append letters ends,
      leadingWord_append lowered ends, afterWord_append letters ends,
      afterWord_append lowered ends, same, small]
  | symbolOr _ known _ ih =>
    rw [takeEither, takeEither, takeSymbol_word known mixed, takeSymbol_word known plain]
    exact ih

theorem operatorAs_congr {take : List Char → Option (Unit × List Char)} (op : Operator)
    (rule : Rule) (same : take text = take other) :
    (operatorAs op rule take text).outcome = (operatorAs op rule take other).outcome := by
  cases taken : take text with
  | none =>
    have here : Refuses (operatorAs op rule take) text := (refuses_token rule taken).bind _
    exact here.trans (Refuses.bind _ (refuses_token rule (same ▸ taken))).symm
  | some out =>
    have reads {text : List Char} (taken : take text = some out) :
        Reads (operatorAs op rule take) text op (out.2.dropWhile isGap) :=
      (reads_token rule taken).bind (reads_pure op _)
    exact (reads taken).trans (reads (same ▸ taken)).symm

theorem reads_operatorAs {take : List Char → Option (Unit × List Char)} (op : Operator)
    (rule : Rule) (taken : take text = some ((), left)) :
    Reads (operatorAs op rule take) text op (left.dropWhile isGap) :=
  (reads_token rule taken).bind (reads_pure op _)

theorem takeEither_right (refused : first text = none) (taken : second text = some out) :
    takeEither first second text = some out := by
  rw [takeEither, refused, taken]

theorem reads_keyword (spells : Spells op spelling)
    (letters : spelling.toList.all isNameChar = true) (ends : WordEnds left) :
    Reads operator (spelling.toList ++ left) op (left.dropWhile isGap) := by
  have taken {keyword : String} (letters : keyword.toList.all isNameChar = true)
      (small : keyword.toList.map Char.toLower = keyword.toList) :
      takeKeyword keyword (keyword.toList ++ left) = some ((), left) :=
    takeKeyword_append letters small ends
  -- The readers in front of the right one refuse the first letters.
  cases spells with
  | or | and =>
    repeat refine .or_right rfl ?_
    exact .or_left _ (reads_operatorAs _ _ (takeEither_right rfl (taken rfl rfl)))
  | contains | startsWith | endsWith | «matches» =>
    repeat refine .or_right rfl ?_
    exact .or_left _ (reads_operatorAs _ _ (taken rfl rfl))
  | _ => cases letters

/-- A symbol is read as the operator it spells, unless an equals sign makes it another one. -/
theorem reads_symbol (spells : Spells op spelling) (known : spelling ∈ symbols)
    (noEquals : left.head? ≠ some '=') :
    Reads operator (spelling.toList ++ left) op (left.dropWhile isGap) := by
  have longer (before : List Char) : takeText (before ++ ['=']) (before ++ left) = none := by
    have apart : (before ++ ['=']).isPrefixOf (before ++ left) = false := by
      refine Bool.eq_false_iff.mpr fun front => noEquals ?_
      obtain ⟨more, same⟩ := List.isPrefixOf_iff_prefix.mp front
      rw [List.append_assoc, List.append_cancel_left_eq] at same
      rw [← same]
      rfl
    rw [takeText, apart, if_neg Bool.false_ne_true]
  have refused (op : Operator) (rule : Rule) (before : List Char) :
      Refuses (operatorAs op rule (takeText (before ++ ['=']))) (before ++ left) :=
    (refuses_token rule (longer before)).bind _
  cases spells with
  | bars | ampersands | tripleEq | doubleNe | le | ge => rfl
  | eq =>
    refine .or_right rfl (.or_right rfl (.or_left _ ?_))
    exact reads_operatorAs _ _ (takeEither_right (longer ['=', '=']) rfl)
  | ne =>
    refine .or_right rfl (.or_right rfl (.or_right rfl (.or_left _ ?_)))
    exact reads_operatorAs _ _ (takeEither_right (longer ['!', '=']) rfl)
  | lt =>
    refine .or_right rfl (.or_right rfl (.or_right rfl (.or_right rfl ?_)))
    exact .or_right (refused .le .le ['<']) (.or_right rfl (.or_left _ (reads_operatorAs _ _ rfl)))
  | gt =>
    refine .or_right rfl (.or_right rfl (.or_right rfl (.or_right rfl (.or_right rfl ?_))))
    exact .or_right (refused .ge .ge ['>']) (.or_right rfl (.or_left _ (reads_operatorAs _ _ rfl)))
  | _ => exact absurd known (by decide)

theorem small_of_keyword (spells : Spells op spelling)
    (letters : spelling.toList.all isNameChar = true) :
    spelling.toList ≠ [] ∧ spelling.toList.map Char.toLower = spelling.toList := by
  cases spells with
  | or | and | contains | startsWith | endsWith | «matches» => decide
  | _ => cases letters

theorem WritesOperator.reads (writes : WritesOperator op written)
    (ends : OperatorEnds written left) :
    Reads operator (written ++ left) op (left.dropWhile isGap) := by
  cases writes with
  | symbol spells known => exact reads_symbol spells known ends.noEquals
  | @word spelling _ spells letters same =>
    obtain ⟨given, small⟩ := small_of_keyword spells letters
    have chars := keyword_chars letters same
    obtain ⟨c, more, rfl⟩ := keyword_cons same given
    have behind := ends.word (chars c List.mem_cons_self)
    obtain ⟨readers, eq, each⟩ := operator_readers
    have plain := reads_keyword spells letters behind
    rw [eq] at plain ⊢
    refine (firstOf_congr fun p hp => ?_).trans plain
    obtain ⟨op, rule, take, rfl, way⟩ := each p hp
    exact operatorAs_congr op rule
      (way.anyCase same small chars (List.all_eq_true.mp letters) given behind)

theorem OperatorTake.written (way : OperatorTake op take) (taken : take text = some ((), left)) :
    ∃ written, WritesOperator op written ∧ text = written ++ left ∧
      (written.head?.any isNameChar = true → WordEnds left) := by
  have symbol {spelling : String} (spells : Spells op spelling) (known : spelling ∈ symbols)
      (taken : takeSymbol spelling text = some ((), left)) :
      ∃ written, WritesOperator op written ∧ text = written ++ left ∧
        (written.head?.any isNameChar = true → WordEnds left) := by
    obtain ⟨c, more, split, other⟩ := symbol_head known
    refine ⟨_, .symbol spells known, takeText_some taken, fun word => ?_⟩
    rw [split, List.head?_cons, Option.any_some, other] at word
    cases word
  induction way with
  | symbol spells known => exact symbol spells known taken
  | word spells letters _ =>
    obtain ⟨word, same, split, ends⟩ := keyword_written letters taken
    exact ⟨word, .word spells letters same, split, fun _ => ends⟩
  | symbolOr spells known _ ih =>
    rcases takeEither_some taken with taken | taken
    · exact symbol spells known taken
    · exact ih taken

theorem operator_written (reads : Reads operator text op rest) :
    ∃ written left, WritesOperator op written ∧ text = written ++ left ∧
      (written.head?.any isNameChar = true → WordEnds left) ∧ left.dropWhile isGap = rest := by
  obtain ⟨readers, eq, each⟩ := operator_readers
  rw [eq] at reads
  obtain ⟨p, hp, reads⟩ := Reads.of_firstOf reads
  obtain ⟨op, rule, take, rfl, way⟩ := each p hp
  obtain ⟨rfl, left, taken, gap⟩ := operatorAs_some reads
  obtain ⟨written, writes, split, ends⟩ := way.written taken
  exact ⟨written, left, writes, split, ends, gap⟩

-- ---------------------------------------------------------------------------
-- Values
-- ---------------------------------------------------------------------------

/-- A literal or a name as it stands in a text. A name must not be taken for a keyword. -/
inductive WritesValue : Term → List Char → Prop
  | number (token : NumberToken digits) : WritesValue (.number digits) digits
  | string (quote : Quote) (escaped : Escaped quote quoted) :
      WritesValue (.string quoted) (quote.char :: (quoted ++ [quote.char]))
  | boolean (b : Bool) : WritesValue (.boolean b) (toString b).toList
  | null : WritesValue .null "null".toList
  | name {name : String} (valid : isName name.toList = true)
      (free : Term.reserved name = false) : WritesValue (.name name) name.toList

theorem name_written (taken : takeName text = some (name, left)) :
    isName name.toList = true ∧ text = name.toList ++ left ∧ WordEnds left := by
  cases text with
  | nil => cases taken
  | cons c rest =>
    rw [takeName] at taken
    split at taken
    · next start =>
      cases taken
      rw [String.toList_ofList]
      refine ⟨?_, ?_, wordEnds_afterWord rest⟩
      · rw [isName, start, Bool.true_and, List.all_eq_true]
        exact fun _ hc => List.mem_takeWhile_imp hc
      · rw [List.cons_append, List.takeWhile_append_dropWhile]
    · cases taken

theorem ident_written (reads : Reads ident text name rest) :
    ∃ left, isName name.toList = true ∧ text = name.toList ++ left ∧ WordEnds left ∧
      left.dropWhile isGap = rest := by
  obtain ⟨left, taken, gap⟩ := token_some reads
  obtain ⟨valid, split, ends⟩ := name_written taken
  exact ⟨left, valid, split, ends, gap⟩

theorem takeBoolean_eq (text : List Char) :
    (match takeWord "true" text with
      | some (_, rest) => some (Term.boolean true, rest)
      | none => (takeWord "false" text).map fun (_, rest) => (.boolean false, rest)) =
      if leadingWord text = "true".toList then some (.boolean true, afterWord text)
      else if leadingWord text = "false".toList then some (.boolean false, afterWord text)
      else none := by
  rw [takeWord_eq "true" rfl, takeWord_eq "false" rfl]
  by_cases yes : leadingWord text = "true".toList
  · simp only [if_pos yes]
  · simp only [if_neg yes]
    split <;> rfl

theorem keyword_split {keyword : List Char} (same : leadingWord text = keyword) :
    text = keyword ++ afterWord text := by
  rw [← same, leadingWord_append_afterWord]

theorem free_of_refused {name : String} (valid : isName name.toList = true) (ends : WordEnds left)
    (noSign : Refuses sign (name.toList ++ left))
    (others : ∀ keyword ∈ ["true", "false", "null"],
      leadingWord (name.toList ++ left) ≠ keyword.toList) :
    Term.reserved name = false := by
  have noWord := refuses_sign_word noSign
  rw [leadingWord_append (isName_chars valid) ends] at noWord others
  rw [Term.reserved, Bool.or_eq_false_iff, decide_eq_false_iff_not, decide_eq_false_iff_not]
  exact ⟨fun known => others name known rfl, noWord⟩

theorem word_written (noSign : Refuses sign text) (reads : Reads word text term rest) :
    ∃ written left, WritesValue term written ∧ text = written ++ left ∧ WordEnds left ∧
      left.dropWhile isGap = rest := by
  rcases Reads.of_or reads with boolean | ⟨noBoolean, reads⟩
  · obtain ⟨left, taken, gap⟩ := token_some boolean
    replace taken := (takeBoolean_eq text).symm.trans taken
    split at taken
    · next same =>
      cases taken
      exact ⟨_, _, .boolean true, keyword_split same, wordEnds_afterWord text, gap⟩
    split at taken
    · next same =>
      cases taken
      exact ⟨_, _, .boolean false, keyword_split same, wordEnds_afterWord text, gap⟩
    · cases taken
  rcases Reads.of_or reads with null | ⟨noNull, reads⟩
  · obtain ⟨_, token, rfl⟩ := Reads.of_map (f := fun _ => Term.null) null
    obtain ⟨left, taken, gap⟩ := token_some token
    rw [takeWord_eq "null" rfl] at taken
    split at taken
    · next same =>
      cases taken
      exact ⟨_, _, .null, keyword_split same, wordEnds_afterWord text, gap⟩
    · cases taken
  rcases Reads.of_or reads with named | ⟨-, none⟩
  · obtain ⟨name, token, rfl⟩ := Reads.of_map named
    obtain ⟨left, taken, gap⟩ := token_some token
    obtain ⟨valid, rfl, ends⟩ := name_written taken
    refine ⟨_, left, .name valid (free_of_refused valid ends noSign ?_), rfl, ends, gap⟩
    have boolean := (takeBoolean_eq _).symm.trans (token_none noBoolean)
    have null := token_none (Refuses.of_map (f := fun _ => Term.null) noNull)
    rw [takeWord_eq "null" rfl] at null
    intro keyword hk same
    simp only [List.mem_cons, List.not_mem_nil, or_false] at hk
    rcases hk with rfl | rfl | rfl
    · rw [if_pos same] at boolean
      cases boolean
    · rw [same] at boolean
      cases boolean
    · rw [if_pos same] at null
      cases null
  · cases none

theorem value_written {inner : Reader Term} (noSign : Refuses sign text)
    (reads : Reads (primary inner) text term rest) :
    Reads (grouped inner) text term rest ∨
      ∃ written left, WritesValue term written ∧ text = written ++ left ∧
        (term.isWord = true → WordEnds left) ∧ left.dropWhile isGap = rest := by
  rw [primary_eq] at reads
  rcases Reads.of_or reads with grouped | ⟨-, reads⟩
  · exact .inl grouped
  refine .inr ?_
  rcases Reads.of_or reads with number | ⟨-, reads⟩
  · obtain ⟨digits, token, rfl⟩ := Reads.of_map number
    obtain ⟨left, taken, gap⟩ := token_some token
    obtain ⟨token, split⟩ := takeNumber_some taken
    exact ⟨digits, left, .number token, split, nofun, gap⟩
  rcases Reads.of_or reads with string | ⟨-, reads⟩
  · obtain ⟨quoted, token, rfl⟩ := Reads.of_map string
    obtain ⟨left, taken, gap⟩ := token_some token
    obtain ⟨quote, escaped, split⟩ := takeString_some taken
    refine ⟨_, left, .string quote escaped, ?_, nofun, gap⟩
    rw [split, List.cons_append, List.append_assoc]
    rfl
  obtain ⟨written, left, writes, split, ends, gap⟩ := word_written noSign reads
  exact ⟨written, left, writes, split, fun _ => ends, gap⟩

end Grammar

end RefViewer.Query
