import RefViewer.Proofs.Query.Outcome
import RefViewer.Proofs.Query.Words

/-!
# Reading written tokens

Each token is read back from its text, as long as what follows does not run on from it.
-/

namespace RefViewer.Query

open Reader

-- ---------------------------------------------------------------------------
-- Gaps
-- ---------------------------------------------------------------------------

structure Gap where
  chars : List Char
  blank : ∀ c ∈ chars, isGap c = true

def Gap.none : Gap := ⟨[], nofun⟩

def Gap.leading (text : List Char) : Gap :=
  ⟨text.takeWhile isGap, fun _ hc => List.mem_takeWhile_imp hc⟩

theorem Gap.dropGap (gap : Gap) (text : List Char) :
    (gap.chars ++ text).dropWhile isGap = text.dropWhile isGap :=
  List.dropWhile_append_of_pos gap.blank

theorem isNameChar_of_isGap (gap : isGap c = true) : Grammar.isNameChar c = false := by
  simp only [isGap, Bool.or_eq_true, decide_eq_true_eq] at gap
  rcases gap with ((rfl | rfl) | rfl) | rfl <;> rfl

theorem Gap.wordEnds (gap : Gap) (ends : gap.chars = [] → Grammar.WordEnds text) :
    Grammar.WordEnds (gap.chars ++ text) := by
  rcases gap with ⟨_ | ⟨c, more⟩, blank⟩
  · exact ends rfl
  · have gap := isNameChar_of_isGap (blank c List.mem_cons_self)
    exact Grammar.wordEnds_iff.mpr gap

theorem Gap.leading_append (text : List Char) :
    (Gap.leading text).chars ++ text.dropWhile isGap = text :=
  List.takeWhile_append_dropWhile

namespace Grammar

-- ---------------------------------------------------------------------------
-- Where tokens end
-- ---------------------------------------------------------------------------

structure NumberEnds (rest : List Char) : Prop where
  digits : rest.head?.any Char.isDigit = false
  fraction : takeFraction rest = ([], rest)

/-- Nothing here continues the token before it: no word, no fraction, and no arguments for a
property. -/
structure Boundary (rest : List Char) : Prop where
  word : WordEnds rest
  fraction : takeFraction rest = ([], rest)
  noArguments : (rest.dropWhile isGap).head? ≠ some '('

structure OperandEnds (rest : List Char) : Prop extends Boundary rest where
  noSuffix : (rest.dropWhile isGap).head? ≠ some '.'

/-- The end of the text, or a character that closes what stands before it. -/
inductive Closing : List Char → Prop
  | stop : Closing []
  | parenthesis : Closing (')' :: rest)
  | comma : Closing (',' :: rest)

theorem Closing.operandEnds (closing : Closing rest) : OperandEnds rest := by
  cases closing <;> exact ⟨⟨rfl, rfl, by simp [isGap]⟩, by simp [isGap]⟩

theorem Closing.dropGap (closing : Closing rest) : rest.dropWhile isGap = rest := by
  cases closing <;> rfl

theorem WordEnds.digits (ends : WordEnds rest) : rest.head?.any Char.isDigit = false := by
  have ends := wordEnds_iff.mp ends
  cases rest with
  | nil => rfl
  | cons c rest =>
    simp only [List.head?_cons, Option.any_some, isNameChar, Char.isAlphanum,
      Bool.or_eq_false_iff] at ends ⊢
    exact ends.1.2

theorem Boundary.numberEnds (boundary : Boundary rest) : NumberEnds rest :=
  ⟨boundary.word.digits, boundary.fraction⟩

-- ---------------------------------------------------------------------------
-- Numbers
-- ---------------------------------------------------------------------------

inductive UnsignedToken : List Char → Prop
  | whole (given : digits ≠ []) (all : ∀ c ∈ digits, c.isDigit = true) : UnsignedToken digits
  | fraction (given : digits ≠ []) (all : ∀ c ∈ digits, c.isDigit = true)
      (place : first.isDigit = true) (places : ∀ c ∈ more, c.isDigit = true) :
      UnsignedToken (digits ++ '.' :: first :: more)

inductive NumberToken : List Char → Prop
  | plain (unsigned : UnsignedToken digits) : NumberToken digits
  | negative (unsigned : UnsignedToken digits) : NumberToken ('-' :: digits)

theorem takeWhile_digits {digits rest : List Char} (all : ∀ c ∈ digits, c.isDigit = true)
    (ends : rest.head?.any Char.isDigit = false) :
    (digits ++ rest).takeWhile Char.isDigit = digits ∧
      (digits ++ rest).dropWhile Char.isDigit = rest := by
  rw [List.takeWhile_append_of_pos all, List.dropWhile_append_of_pos all]
  cases rest with
  | nil => simp
  | cons c rest =>
    simp only [List.head?_cons, Option.any_some] at ends
    simp only [List.takeWhile_cons, List.dropWhile_cons, ends, Bool.false_eq_true, if_false,
      List.append_nil, and_self]

theorem UnsignedToken.take (unsigned : UnsignedToken digits) (ends : NumberEnds rest) :
    takeUnsigned (digits ++ rest) = some (digits, rest) := by
  cases unsigned with
  | whole given all =>
    obtain ⟨taken, left⟩ := takeWhile_digits all ends.digits
    simp only [takeUnsigned, taken, left, if_neg given, ends.fraction, List.append_nil]
  | @fraction whole more first given all place places =>
    have point : ('.' :: first :: (more ++ rest)).head?.any Char.isDigit = false := rfl
    obtain ⟨taken, left⟩ := takeWhile_digits all point
    obtain ⟨takenMore, leftMore⟩ := takeWhile_digits places ends.digits
    have fraction : takeFraction ('.' :: first :: (more ++ rest)) =
        ('.' :: first :: more, rest) := by
      simp only [takeFraction, if_pos place, takenMore, leftMore]
    simp only [List.append_assoc, List.cons_append, takeUnsigned, taken, left, if_neg given,
      fraction]

theorem UnsignedToken.head (unsigned : UnsignedToken digits) :
    ∃ c rest, digits = c :: rest ∧ c.isDigit = true := by
  cases unsigned with
  | whole given all =>
    obtain ⟨c, rest, rfl⟩ := List.exists_cons_of_ne_nil given
    exact ⟨c, rest, rfl, all c List.mem_cons_self⟩
  | @fraction digits more first given all place places =>
    obtain ⟨c, rest, rfl⟩ := List.exists_cons_of_ne_nil given
    exact ⟨c, rest ++ '.' :: first :: more, rfl, all c List.mem_cons_self⟩

theorem NumberToken.take (token : NumberToken digits) (ends : NumberEnds rest) :
    takeNumber (digits ++ rest) = some (digits, rest) := by
  cases token with
  | negative unsigned =>
    simp only [List.cons_append, takeNumber, unsigned.take ends, Option.map_some]
  | plain unsigned =>
    obtain ⟨c, more, rfl, digit⟩ := unsigned.head
    have noSign : c ≠ '-' := by rintro rfl; exact absurd digit (by decide)
    have taken := unsigned.take ends
    simp only [List.cons_append] at taken ⊢
    rw [takeNumber]
    · exact taken
    · intro rest h
      exact noSign (List.cons.inj h).1

theorem takeFraction_none {text : List Char} (noPoint : text.head? ≠ some '.') :
    takeFraction text = ([], text) := by
  unfold takeFraction
  split
  · exact absurd rfl noPoint
  · rfl

theorem takeNumber_unsigned {text : List Char} (noSign : text.head? ≠ some '-') :
    takeNumber text = takeUnsigned text := by
  unfold takeNumber
  split
  · exact absurd rfl noSign
  · rfl

theorem takeNumber_none {text : List Char} (noDigit : text.head?.any Char.isDigit = false)
    (noSign : text.head? ≠ some '-') : takeNumber text = none := by
  have unsigned : takeUnsigned text = none := by
    cases text with
    | nil => rfl
    | cons c rest =>
      simp only [List.head?_cons, Option.any_some] at noDigit
      simp only [takeUnsigned, List.takeWhile_cons, noDigit, Bool.false_eq_true, if_false, if_true]
  rw [takeNumber_unsigned noSign, unsigned]

-- ---------------------------------------------------------------------------
-- Strings
-- ---------------------------------------------------------------------------

inductive Quote where
  | double
  | single
  deriving DecidableEq, Repr

def Quote.char : Quote → Char
  | .double => '"'
  | .single => '\''

inductive Escaped (quote : Quote) : List Char → Prop
  | stop : Escaped quote []
  | escape (later : Escaped quote rest) : Escaped quote ('\\' :: c :: rest)
  | plain (noQuote : c ≠ quote.char) (noEscape : c ≠ '\\') (later : Escaped quote rest) :
      Escaped quote (c :: rest)

theorem Escaped.take (escaped : Escaped quote quoted) (rest : List Char) :
    takeQuoted quote.char (quoted ++ quote.char :: rest) = some (quoted, rest) := by
  induction escaped with
  | stop => cases quote <;> rfl
  | escape later ih => simp only [List.cons_append, takeQuoted, ih, Option.map_some]
  | @plain c rest noQuote noEscape later ih =>
    rw [List.cons_append, takeQuoted]
    · simp only [if_neg noQuote, if_neg noEscape, ih, Option.map_some]
    · intro x more h
      exact absurd h noEscape

theorem Escaped.takeString (escaped : Escaped quote quoted) (rest : List Char) :
    takeString (quote.char :: (quoted ++ quote.char :: rest)) = some (quoted, rest) := by
  have taken := escaped.take rest
  cases quote <;> exact taken

theorem takeString_none {text : List Char} (noDouble : text.head? ≠ some '"')
    (noSingle : text.head? ≠ some '\'') : takeString text = none := by
  unfold takeString
  split
  · exact absurd rfl noDouble
  · exact absurd rfl noSingle
  · rfl

-- ---------------------------------------------------------------------------
-- Signs, operators and punctuation
-- ---------------------------------------------------------------------------

theorem reads_token {take : List Char → Option (α × List Char)} (rule : Rule)
    (taken : take text = some (a, rest)) :
    Reads (token rule take) text a (rest.dropWhile isGap) :=
  (reads_lexeme taken).named rule

theorem refuses_token {take : List Char → Option (α × List Char)} (rule : Rule)
    (refused : take text = none) : Refuses (token rule take) text :=
  (refuses_lexeme refused).named rule

theorem takeBang_cons (ahead : rest.head? ≠ some '=') :
    takeBang ('!' :: rest) = some ((), rest) := by
  unfold takeBang
  split
  · next h =>
    obtain ⟨_, rfl⟩ := List.cons.inj h
    exact absurd rfl ahead
  · next h => rw [(List.cons.inj h).2]
  · next _ h => exact absurd rfl (h rest)

theorem takeBang_none (noBang : text.head? ≠ some '!') : takeBang text = none := by
  unfold takeBang
  split
  · rfl
  · exact absurd rfl noBang
  · rfl

theorem reads_bang (ahead : rest.head? ≠ some '=') :
    Reads sign ('!' :: rest) .bang (rest.dropWhile isGap) :=
  ((reads_token .bang (takeBang_cons ahead)).bind (reads_pure Sign.bang _)).or_left _

theorem reads_not (ends : WordEnds rest) :
    Reads sign ('n' :: 'o' :: 't' :: rest) .not (rest.dropWhile isGap) := by
  have chars : ∀ c ∈ "not".toList, isNameChar c = true := List.all_eq_true.mp rfl
  have taken : takeKeyword "not" ("not".toList ++ rest) = some ((), rest) := by
    rw [takeKeyword_eq "not" rfl, leadingWord_append chars ends, afterWord_append chars ends,
      if_pos (by decide)]
  have noBang : Refuses (do token .bang takeBang; pure Sign.bang) ('n' :: 'o' :: 't' :: rest) :=
    (refuses_token .bang rfl).bind _
  exact .or_right noBang ((reads_token .not taken).bind (reads_pure _ _))

theorem refuses_sign (noBang : text.head? ≠ some '!')
    (noWord : (leadingWord text).map Char.toLower ≠ "not".toList) : Refuses sign text := by
  have bang := takeBang_none noBang
  have word : takeKeyword "not" text = none := by
    rw [takeKeyword_eq "not" rfl, if_neg noWord]
  exact .or ((refuses_token .bang bang).bind _) ((refuses_token .not word).bind _)

/-- How an operator may be written, words in small letters. -/
inductive Spells : Operator → String → Prop
  | or : Spells .or "or"
  | bars : Spells .or "||"
  | and : Spells .and "and"
  | ampersands : Spells .and "&&"
  | eq : Spells .eq "=="
  | tripleEq : Spells .eq "==="
  | ne : Spells .ne "!="
  | doubleNe : Spells .ne "!=="
  | le : Spells .le "<="
  | ge : Spells .ge ">="
  | lt : Spells .lt "<"
  | gt : Spells .gt ">"
  | contains : Spells .contains "contains"
  | startsWith : Spells .startsWith "startswith"
  | endsWith : Spells .endsWith "endswith"
  | matches : Spells .matches "matches"

theorem Spells.head (spells : Spells op spelling) :
    ∃ c more, spelling.toList = c :: more ∧ isGap c = false ∧ c ≠ '(' ∧ c ≠ '.' := by
  cases spells <;> exact ⟨_, _, rfl, rfl, by decide, by decide⟩

theorem Spells.reads (spells : Spells op spelling) (rest : List Char) :
    Reads operator (spelling.toList ++ ' ' :: rest) op (rest.dropWhile isGap) := by
  cases spells <;> rfl

theorem Spells.dropGap (spells : Spells op spelling) (rest : List Char) :
    (' ' :: (spelling.toList ++ rest)).dropWhile isGap = spelling.toList ++ rest := by
  obtain ⟨c, more, text, noGap, _⟩ := spells.head
  rw [text, List.cons_append, List.dropWhile_cons_of_pos rfl,
    List.dropWhile_cons_of_neg (by rw [noGap]; decide)]

theorem Spells.operandEnds (spells : Spells op spelling) (rest : List Char) :
    OperandEnds (' ' :: (spelling.toList ++ rest)) := by
  obtain ⟨c, more, text, _, noGroup, noPoint⟩ := spells.head
  have next : ((' ' :: (spelling.toList ++ rest)).dropWhile isGap).head? = some c := by
    rw [spells.dropGap, text, List.cons_append, List.head?_cons]
  refine ⟨⟨rfl, rfl, ?_⟩, ?_⟩
  · exact fun h => noGroup (Option.some.inj (next.symm.trans h))
  · exact fun h => noPoint (Option.some.inj (next.symm.trans h))

theorem Closing.refuses_operator (closing : Closing rest) : Refuses operator rest := by
  cases closing <;> rfl

end Grammar

end RefViewer.Query
