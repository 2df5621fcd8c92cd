import Mathlib.Data.List.TakeWhile
import RefViewer.Query.Grammar

/-!
# Words at the front of a text

Words are read to their end, so which word stands at the front of a text settles every
keyword and every name at once.
-/

namespace RefViewer.Query.Grammar

-- ---------------------------------------------------------------------------
-- Stops
-- ---------------------------------------------------------------------------

theorem dropWhile_stop {test : Char → Bool} {c : Char} (stops : test c = false)
    (text more : List Char) :
    (text ++ c :: more).dropWhile test = text.dropWhile test ++ c :: more := by
  rw [List.dropWhile_append, List.dropWhile_cons_of_neg (by rw [stops]; decide)]
  split
  · next all => rw [List.isEmpty_iff.mp all, List.nil_append]
  · rfl

theorem head_dropWhile (test : Char → Bool) (text : List Char) :
    (text.dropWhile test).head?.any test = false := by
  induction text with
  | nil => rfl
  | cons c text ih =>
    by_cases h : test c = true
    · rwa [List.dropWhile_cons_of_pos h]
    · rwa [List.dropWhile_cons_of_neg h, List.head?_cons, Option.any_some, ← Bool.not_eq_true]

theorem takeWhile_stop {test : Char → Bool} {c : Char} (stops : test c = false)
    (text more : List Char) : (text ++ c :: more).takeWhile test = text.takeWhile test := by
  induction text with
  | nil => exact List.takeWhile_cons_of_neg (by rw [stops]; decide)
  | cons d text ih =>
    rw [List.cons_append, List.takeWhile_cons, List.takeWhile_cons, ih]

theorem prefix_stop {expected : List Char} {c : Char} (apart : c ∉ expected)
    (text more : List Char) :
    expected.isPrefixOf (text ++ c :: more) = expected.isPrefixOf text := by
  induction expected generalizing text with
  | nil => rfl
  | cons e expected ih =>
    obtain ⟨differs, apart⟩ := not_or.mp fun h => apart (List.mem_cons.mpr h)
    cases text with
    | nil =>
      simp only [List.nil_append, List.isPrefixOf, beq_eq_false_iff_ne.mpr (Ne.symm differs),
        Bool.false_and]
    | cons d text => simp only [List.cons_append, List.isPrefixOf, ih apart]

-- ---------------------------------------------------------------------------
-- Words
-- ---------------------------------------------------------------------------

def leadingWord (text : List Char) : List Char := text.takeWhile isNameChar

def afterWord (text : List Char) : List Char := text.dropWhile isNameChar

theorem leadingWord_stop {c : Char} (stops : isNameChar c = false) (text more : List Char) :
    leadingWord (text ++ c :: more) = leadingWord text :=
  takeWhile_stop stops text more

theorem afterWord_stop {c : Char} (stops : isNameChar c = false) (text more : List Char) :
    afterWord (text ++ c :: more) = afterWord text ++ c :: more :=
  dropWhile_stop stops text more

def WordEnds (text : List Char) : Prop := leadingWord text = []

theorem wordEnds_iff : WordEnds text ↔ text.head?.any isNameChar = false := by
  cases text with
  | nil => exact ⟨fun _ => rfl, fun _ => rfl⟩
  | cons c rest =>
    simp only [WordEnds, leadingWord, List.takeWhile_cons, List.head?_cons, Option.any_some]
    cases isNameChar c <;> simp

theorem wordEnds_afterWord (text : List Char) : WordEnds (afterWord text) :=
  wordEnds_iff.mpr (head_dropWhile isNameChar text)

theorem leadingWord_append (letters : ∀ c ∈ word, isNameChar c = true) (ends : WordEnds rest) :
    leadingWord (word ++ rest) = word := by
  rw [leadingWord, List.takeWhile_append_of_pos letters]
  rw [show rest.takeWhile isNameChar = [] from ends, List.append_nil]

theorem afterWord_append (letters : ∀ c ∈ word, isNameChar c = true) (ends : WordEnds rest) :
    afterWord (word ++ rest) = rest := by
  rw [afterWord, List.dropWhile_append_of_pos letters]
  have whole := List.takeWhile_append_dropWhile (p := isNameChar) (l := rest)
  rwa [show rest.takeWhile isNameChar = [] from ends, List.nil_append] at whole

theorem leadingWord_append_afterWord (text : List Char) :
    leadingWord text ++ afterWord text = text :=
  List.takeWhile_append_dropWhile

theorem drop_leadingWord (text : List Char) :
    text.drop (leadingWord text).length = afterWord text := by
  have whole : text.drop (leadingWord text).length =
      (leadingWord text ++ afterWord text).drop (leadingWord text).length := by
    rw [leadingWord_append_afterWord]
  rw [whole, List.drop_left]

theorem fits_take_iff (fits : List Char → Prop)
    (shape : ∀ word, fits word → word.length = n ∧ ∀ c ∈ word, isNameChar c = true)
    (text : List Char) :
    fits (text.take n) ∧ WordEnds (text.drop n) ↔ fits (leadingWord text) := by
  constructor
  · rintro ⟨fit, ends⟩
    have whole := leadingWord_append (shape _ fit).2 ends
    rw [List.take_append_drop] at whole
    rwa [whole]
  · intro fit
    have length := (shape _ fit).1
    have taken : text.take n = leadingWord text := by
      rw [← leadingWord_append_afterWord text, ← length, List.take_left,
        leadingWord_append_afterWord]
    rw [taken, ← length, drop_leadingWord]
    exact ⟨fit, wordEnds_afterWord text⟩

theorem takeWord_eq (word : String) (letters : word.toList.all isNameChar = true)
    (text : List Char) :
    takeWord word text =
      if leadingWord text = word.toList then some ((), afterWord text) else none := by
  have shape : ∀ w, w = word.toList → w.length = word.length ∧ ∀ c ∈ w, isNameChar c = true := by
    rintro w rfl
    exact ⟨String.length_toList, List.all_eq_true.mp letters⟩
  have test := fits_take_iff (· = word.toList) shape text
  have front : word.toList.isPrefixOf text = true ↔ text.take word.length = word.toList := by
    rw [List.isPrefixOf_iff_prefix, List.prefix_iff_eq_take, String.length_toList, eq_comm]
  rw [takeWord]
  by_cases h : leadingWord text = word.toList
  · have dropped : text.drop word.length = afterWord text := by
      rw [← String.length_toList, ← h, drop_leadingWord]
    obtain ⟨taken, ends⟩ := test.mpr h
    rw [dropped] at ends
    rw [if_pos h, front.mpr taken, dropped, wordEnds_iff.mp ends]
    rfl
  · rw [if_neg h]
    split
    · next held =>
      simp only [Bool.and_eq_true, Bool.not_eq_true', ← wordEnds_iff] at held
      exact absurd (test.mp ⟨front.mp held.1, held.2⟩) h
    · rfl

theorem takeWord_append (word : String) (letters : word.toList.all isNameChar = true)
    (ends : WordEnds rest) : takeWord word (word.toList ++ rest) = some ((), rest) := by
  have chars := List.all_eq_true.mp letters
  rw [takeWord_eq word letters, if_pos (leadingWord_append chars ends),
    afterWord_append chars ends]

theorem takeWord_none (word : String) (letters : word.toList.all isNameChar = true)
    (differs : leadingWord text ≠ word.toList) : takeWord word text = none := by
  rw [takeWord_eq word letters, if_neg differs]

theorem toLower_cases (c : Char) : c.isUpper = true ∨ c.toLower = c := by
  by_cases upper : c.val ≥ 'A'.val ∧ c.val ≤ 'Z'.val
  · exact .inl (decide_eq_true upper)
  · exact .inr (dif_neg upper)

theorem isAlpha_of_isUpper {c : Char} (upper : c.isUpper = true) : c.isAlpha = true :=
  Bool.or_eq_true_iff.mpr (.inl upper)

theorem isNameChar_of_toLower (h : isNameChar c.toLower = true) : isNameChar c = true := by
  rcases toLower_cases c with upper | same
  · simp only [isNameChar, Char.isAlphanum, isAlpha_of_isUpper upper, Bool.true_or]
  · rwa [same] at h

theorem takeKeyword_eq (word : String) (letters : word.toList.all isNameChar = true)
    (text : List Char) :
    takeKeyword word text =
      if (leadingWord text).map Char.toLower = word.toList then some ((), afterWord text)
      else none := by
  have shape : ∀ w : List Char, w.map Char.toLower = word.toList →
      w.length = word.length ∧ ∀ c ∈ w, isNameChar c = true := by
    intro w h
    refine ⟨by rw [← String.length_toList, ← h, List.length_map], fun c hc => ?_⟩
    have lowered : c.toLower ∈ word.toList := h ▸ List.mem_map_of_mem hc
    exact isNameChar_of_toLower (List.all_eq_true.mp letters _ lowered)
  have test := fits_take_iff (·.map Char.toLower = word.toList) shape text
  rw [takeKeyword]
  by_cases h : (leadingWord text).map Char.toLower = word.toList
  · have dropped : text.drop word.length = afterWord text := by
      rw [← (shape _ h).1, drop_leadingWord]
    obtain ⟨taken, ends⟩ := test.mpr h
    rw [dropped] at ends
    rw [if_pos h, taken, dropped, wordEnds_iff.mp ends, decide_eq_true rfl]
    rfl
  · rw [if_neg h]
    split
    · next held =>
      simp only [Bool.and_eq_true, decide_eq_true_eq, Bool.not_eq_true', ← wordEnds_iff] at held
      exact absurd (test.mp held) h
    · rfl

-- ---------------------------------------------------------------------------
-- Names
-- ---------------------------------------------------------------------------

def isName : List Char → Bool
  | [] => false
  | c :: rest => isNameStart c && rest.all isNameChar

theorem isNameChar_of_isNameStart (h : isNameStart c = true) : isNameChar c = true := by
  simp only [isNameStart, isNameChar, Char.isAlphanum, Bool.or_eq_true] at h ⊢
  rcases h with h | h
  · exact .inl (.inl h)
  · exact .inr h

theorem ne_of_test {test : Char → Bool} (h : test c = true) (other : test d = false) : c ≠ d := by
  rintro rfl
  rw [other] at h
  exact Bool.false_ne_true h

theorem isGap_of_test {test : Char → Bool} (h : test c = true)
    (gaps : test ' ' = false ∧ test '\t' = false ∧ test '\r' = false ∧ test '\n' = false) :
    Reader.isGap c = false := by
  obtain ⟨blank, tab, back, line⟩ := gaps
  simp only [Reader.isGap, Bool.or_eq_false_iff, decide_eq_false_iff_not]
  exact ⟨⟨⟨ne_of_test h blank, ne_of_test h tab⟩, ne_of_test h back⟩, ne_of_test h line⟩

theorem isGap_of_isNameStart (h : isNameStart c = true) : Reader.isGap c = false :=
  isGap_of_test h ⟨rfl, rfl, rfl, rfl⟩

theorem isGap_of_isDigit {c : Char} (h : c.isDigit = true) : Reader.isGap c = false :=
  isGap_of_test h ⟨rfl, rfl, rfl, rfl⟩

theorem isDigit_of_isAlpha {c : Char} (alpha : c.isAlpha = true) : c.isDigit = false := by
  have above : '9'.val < c.val := by
    rcases Bool.or_eq_true_iff.mp alpha with upper | lower
    · have first : 'A'.val ≤ c.val := (of_decide_eq_true upper).1
      exact UInt32.lt_of_lt_of_le (by decide) first
    · have first : 'a'.val ≤ c.val := of_decide_eq_true (Bool.and_eq_true_iff.mp lower).1
      exact UInt32.lt_of_lt_of_le (by decide) first
  refine Bool.eq_false_iff.mpr fun digit => ?_
  have last : c.val ≤ '9'.val := of_decide_eq_true (Bool.and_eq_true_iff.mp digit).2
  exact UInt32.not_lt.mpr last above

theorem isDigit_of_isNameStart {c : Char} (h : isNameStart c = true) : c.isDigit = false := by
  rcases Bool.or_eq_true_iff.mp h with alpha | underscore
  · exact isDigit_of_isAlpha alpha
  · rw [of_decide_eq_true underscore]
    rfl

theorem isName_cons (name : isName text = true) :
    ∃ c more, text = c :: more ∧ isNameStart c = true := by
  cases text with
  | nil => exact absurd name Bool.false_ne_true
  | cons c more =>
    rw [isName, Bool.and_eq_true] at name
    exact ⟨c, more, rfl, name.1⟩

theorem isName_chars (name : isName text = true) : ∀ c ∈ text, isNameChar c = true := by
  cases text with
  | nil => exact absurd name Bool.false_ne_true
  | cons c rest =>
    simp only [isName, Bool.and_eq_true, List.all_eq_true] at name
    intro x hx
    rcases List.mem_cons.mp hx with rfl | hx
    · exact isNameChar_of_isNameStart name.1
    · exact name.2 x hx

theorem takeName_append {name : String} (valid : isName name.toList = true)
    (ends : WordEnds rest) : takeName (name.toList ++ rest) = some (name, rest) := by
  have chars := isName_chars valid
  have word := leadingWord_append chars ends
  have after := afterWord_append chars ends
  cases h : name.toList with
  | nil => rw [h] at valid; exact absurd valid Bool.false_ne_true
  | cons c letters =>
    rw [h] at valid chars word after
    simp only [isName, Bool.and_eq_true] at valid
    have first := chars c List.mem_cons_self
    simp only [leadingWord, afterWord, List.cons_append, List.takeWhile_cons, List.dropWhile_cons,
      if_pos first, List.cons.injEq, true_and] at word after
    simp only [takeName, List.cons_append, if_pos valid.1, word, after]
    rw [← h, String.ofList_toList]

end RefViewer.Query.Grammar
