import RefViewer.Proofs.Query.Writing

/-!
# Reading written operands

An operand is read back with its signs, calls and properties. The expressions inside it are
read by a reader that is only known to be right on shorter terms.
-/

namespace RefViewer.Query

open Reader
open Grammar (Quote Escaped NumberToken UnsignedToken NumberEnds isName isNameStart isNameChar
  WordEnds Boundary Closing leadingWord takeWord_append takeWord_none reads_token refuses_token)

-- ---------------------------------------------------------------------------
-- How operands begin
-- ---------------------------------------------------------------------------

/-- An operand without signs begins here: no gap comes first, a `!` before it is a sign, and no
sign stands in front. -/
structure Begins (text : List Char) : Prop where
  noGap : text.dropWhile isGap = text
  noEquals : text.head? ≠ some '='
  noSign : Refuses Grammar.sign text

theorem Begins.cons {c : Char} (noGap : isGap c = false) (noEquals : c ≠ '=')
    (noSign : Refuses Grammar.sign (c :: more)) : Begins (c :: more) :=
  ⟨List.dropWhile_cons_of_neg (by rw [noGap]; decide), fun h => noEquals (Option.some.inj h),
    noSign⟩

theorem Begins.plain {c : Char}
    (plain : isGap c = false ∧ c ≠ '=' ∧ c ≠ '!' ∧ c.toLower ≠ 'n') (more : List Char) :
    Begins (c :: more) := by
  obtain ⟨noGap, noEquals, noBang, noLetter⟩ := plain
  refine .cons noGap noEquals (Grammar.refuses_sign (fun h => noBang (Option.some.inj h)) ?_)
  intro word
  by_cases letter : isNameChar c = true
  · rw [leadingWord, List.takeWhile_cons_of_pos letter] at word
    exact noLetter (List.cons.inj word).1
  · rw [leadingWord, List.takeWhile_cons_of_neg letter] at word
    cases word

theorem Begins.digit {c : Char} (digit : c.isDigit = true) (more : List Char) :
    Begins (c :: more) := by
  have noLetter : c.toLower ≠ 'n' := by
    intro h
    rcases Grammar.toLower_cases c with upper | same
    · rw [Grammar.isDigit_of_isAlpha (Grammar.isAlpha_of_isUpper upper)] at digit
      exact Bool.false_ne_true digit
    · exact Grammar.ne_of_test digit rfl (same.symm.trans h)
  exact .plain ⟨Grammar.isGap_of_isDigit digit, Grammar.ne_of_test digit rfl,
    Grammar.ne_of_test digit rfl, noLetter⟩ more

theorem Begins.name {ident : String} (valid : isName ident.toList = true)
    (free : Term.reserved ident = false) (ends : WordEnds rest) :
    Begins (ident.toList ++ rest) := by
  have word := Grammar.leadingWord_append (Grammar.isName_chars valid) ends
  obtain ⟨c, more, text, start⟩ := Grammar.isName_cons valid
  have noSign : Refuses Grammar.sign (ident.toList ++ rest) := by
    refine Grammar.refuses_sign ?_ ?_
    · rw [text, List.cons_append, List.head?_cons]
      exact fun h => Grammar.ne_of_test start rfl (Option.some.inj h)
    · rw [word]
      simp only [Term.reserved, Bool.or_eq_false_iff, decide_eq_false_iff_not] at free
      exact free.2
  rw [text, List.cons_append] at noSign ⊢
  exact .cons (Grammar.isGap_of_isNameStart start) (Grammar.ne_of_test start rfl) noSign

theorem Term.Writable.begins {s : Spelling} (writable : Writable s.quote term) :
    ∀ {rest}, term.level = closest → WordEnds rest → Begins (term.write s ++ rest) := by
  induction writable with
  | null => intro rest _ _; exact .cons rfl (by decide) rfl
  | boolean b =>
    intro rest _ _
    cases b
    · exact .plain (by decide) _
    · exact .plain (by decide) _
  | number token =>
    intro rest _ _
    cases token with
    | plain unsigned =>
      obtain ⟨c, more, rfl, digit⟩ := unsigned.head
      exact .digit digit _
    | negative unsigned =>
      exact .plain (by decide) _
  | string escaped =>
    intro rest _ _
    simp only [write, List.cons_append]
    cases s.quote
    · exact .plain (by decide) _
    · exact .plain (by decide) _
  | name valid free => intro rest _ ends; exact .name valid free ends
  | group inner _ =>
    intro rest _ _
    exact .plain (by decide) _
  | call receiver tight valid arguments ih _ =>
    intro rest _ _
    simp only [write, List.append_assoc, List.cons_append]
    exact ih tight rfl
  | property receiver tight valid ih =>
    intro rest _ _
    simp only [write, List.append_assoc, List.cons_append]
    exact ih tight rfl
  | signed _ _ _ => intro rest tight; exact absurd tight (Nat.ne_of_lt (Sign.level_lt_closest _))
  | binary _ _ _ _ _ _ =>
    intro rest tight
    exact absurd tight (Nat.ne_of_lt (Operator.level_lt_closest _))

-- ---------------------------------------------------------------------------
-- Values and groups
-- ---------------------------------------------------------------------------

theorem takeText_none (c : Char) {text : List Char} (ahead : text.head? ≠ some c) :
    takeText [c] text = none := by
  cases text with
  | nil => rfl
  | cons first rest =>
    have differs : c ≠ first := fun h => ahead (by rw [h, List.head?_cons])
    simp only [takeText, List.isPrefixOf, beq_eq_false_iff_ne.mpr differs, Bool.false_and,
      Bool.false_eq_true, if_false]

theorem refuses_grouped (inner : Reader Term) (ahead : text.head? ≠ some '(') :
    Refuses (Grammar.grouped inner) text :=
  (refuses_lexeme (takeText_none '(' ahead)).bind _

theorem reads_group {inner : Reader Term}
    (reads : Reads inner (text.dropWhile isGap) term (')' :: rest)) :
    Reads (Grammar.primary inner) ('(' :: text) (.group term) (rest.dropWhile isGap) := by
  have opening : Reads (symbol "(") ('(' :: text) () (text.dropWhile isGap) := reads_lexeme rfl
  have closing : Reads (symbol ")") (')' :: rest) () (rest.dropWhile isGap) := reads_lexeme rfl
  exact (opening.bind (reads.bind (closing.bind (reads_pure (Term.group term) _)))).or_left _

theorem reads_number (inner : Reader Term) (token : NumberToken digits) (ends : NumberEnds rest) :
    Reads (Grammar.primary inner) (digits ++ rest) (.number digits) (rest.dropWhile isGap) := by
  have taken := token.take ends
  have noGroup : (digits ++ rest).head? ≠ some '(' := by
    cases token with
    | plain unsigned =>
      obtain ⟨c, more, rfl, digit⟩ := unsigned.head
      intro h
      rw [Option.some.inj h] at digit
      exact absurd digit (by decide)
    | negative unsigned => exact fun h => absurd (Option.some.inj h) (by decide)
  have number := (reads_token .number taken).map Term.number
  exact .or_right (refuses_grouped inner noGroup) (number.or_left _)

theorem reads_string (inner : Reader Term) {quote : Quote} (escaped : Escaped quote quoted)
    (rest : List Char) :
    Reads (Grammar.primary inner) (quote.char :: (quoted ++ quote.char :: rest))
      (.string quoted) (rest.dropWhile isGap) := by
  have taken := escaped.takeString rest
  have string := (reads_token .string taken).map Term.string
  have noGroup : Refuses (Grammar.grouped inner)
      (quote.char :: (quoted ++ quote.char :: rest)) := by
    cases quote <;> rfl
  have noNumber : Refuses (Term.number <$> Grammar.token .number Grammar.takeNumber)
      (quote.char :: (quoted ++ quote.char :: rest)) := by
    cases quote <;> rfl
  exact .or_right noGroup (.or_right noNumber (string.or_left _))

theorem reads_boolean (inner : Reader Term) (b : Bool) (ends : WordEnds rest) :
    Reads (Grammar.primary inner) ((toString b).toList ++ rest) (.boolean b)
      (rest.dropWhile isGap) := by
  have wordTrue := takeWord_append "true" rfl ends
  have wordFalse := takeWord_append "false" rfl ends
  cases b with
  | true =>
    refine .or_right rfl (.or_right rfl (.or_right rfl (.or_left _ (reads_token _ ?_))))
    simp only [toString, cond_true, wordTrue]
  | false =>
    refine .or_right rfl (.or_right rfl (.or_right rfl (.or_left _ (reads_token _ ?_))))
    have other : Grammar.takeWord "true" ("false".toList ++ rest) = none := rfl
    simp only [toString, cond_false, other, wordFalse, Option.map_some]

theorem reads_null (inner : Reader Term) (ends : WordEnds rest) :
    Reads (Grammar.primary inner) ("null".toList ++ rest) .null (rest.dropWhile isGap) := by
  have taken := takeWord_append "null" rfl ends
  have null : Reads (do Grammar.token .null (Grammar.takeWord "null"); pure Term.null)
      ("null".toList ++ rest) .null (rest.dropWhile isGap) :=
    (reads_token .null taken).bind (reads_pure Term.null _)
  exact .or_right rfl (.or_right rfl (.or_right rfl (.or_right rfl (null.or_left _))))

theorem reads_ident {ident : String} (valid : isName ident.toList = true) (ends : WordEnds rest) :
    Reads Grammar.ident (ident.toList ++ rest) ident (rest.dropWhile isGap) :=
  reads_token .ident (Grammar.takeName_append valid ends)

theorem reads_name (inner : Reader Term) {ident : String} (valid : isName ident.toList = true)
    (free : Term.reserved ident = false) (ends : WordEnds rest) :
    Reads (Grammar.primary inner) (ident.toList ++ rest) (.name ident)
      (rest.dropWhile isGap) := by
  have name := (reads_ident valid ends).map Term.name
  have word := Grammar.leadingWord_append (Grammar.isName_chars valid) ends
  simp only [Term.reserved, Bool.or_eq_false_iff, decide_eq_false_iff_not] at free
  have differs : ∀ keyword ∈ ["true", "false", "null"],
      leadingWord (ident.toList ++ rest) ≠ keyword.toList := by
    intro keyword hk same
    rw [word] at same
    exact free.1 (String.toList_inj.mp same ▸ hk)
  obtain ⟨c, more, text, start⟩ := Grammar.isName_cons valid
  rw [text, List.cons_append] at name differs ⊢
  have first : ∀ d : Char, isNameStart d = false → (c :: (more ++ rest)).head? ≠ some d :=
    fun d hd h => Grammar.ne_of_test start hd (Option.some.inj h)
  have noDigit : (c :: (more ++ rest)).head?.any Char.isDigit = false :=
    Grammar.isDigit_of_isNameStart start
  have noNumber := Grammar.takeNumber_none noDigit (first _ rfl)
  have noString := Grammar.takeString_none (first _ rfl) (first _ rfl)
  have noTrue := takeWord_none "true" rfl (differs _ (by decide))
  have noFalse := takeWord_none "false" rfl (differs _ (by decide))
  have noNull := takeWord_none "null" rfl (differs _ (by decide))
  refine .or_right (refuses_grouped inner (first _ rfl)) (.or_right ?_ (.or_right ?_
    (.or_right ?_ (.or_right ?_ (name.or_left _)))))
  · exact (refuses_token .number noNumber).map _
  · exact (refuses_token .string noString).map _
  · exact refuses_token .boolean (by simp only [noTrue, noFalse, Option.map_none])
  · exact (refuses_token .null noNull).bind _

theorem Term.Writable.noGap {s : Spelling} (writable : Writable s.quote term) :
    ∀ {rest}, WordEnds rest →
      (term.write s ++ rest).dropWhile isGap = term.write s ++ rest := by
  have grouped := writable.grouped
  induction grouped with
  | leaf tight => intro rest ends; exact (writable.begins tight ends).noGap
  | @signed operand sign _ _ _ => intro rest _; cases sign <;> rfl
  | binary _ _ _ _ ih _ =>
    intro rest _
    cases writable with
    | binary left right _ _ =>
      simp only [write, List.append_assoc, List.cons_append]
      exact ih left rfl

-- ---------------------------------------------------------------------------
-- Calls and properties
-- ---------------------------------------------------------------------------

/-- Right on the terms that are written in fewer than `length` characters. -/
structure Fits (s : Spelling) (length : Nat) (inner : Reader Term) : Prop where
  reads : ∀ {term rest}, Term.Writable s.quote term → (term.write s).length < length →
    Closing rest → Reads inner (term.write s ++ rest) term rest
  refuses : ∀ rest, Refuses inner (')' :: rest)

theorem name_noGap {name : String} (valid : isName name.toList = true) (rest : List Char) :
    (name.toList ++ rest).dropWhile isGap = name.toList ++ rest := by
  obtain ⟨c, more, text, start⟩ := Grammar.isName_cons valid
  rw [text, List.cons_append, List.dropWhile_cons_of_neg]
  rw [Grammar.isGap_of_isNameStart start]
  exact Bool.false_ne_true

theorem reads_point (gap : Gap) {name : String} (valid : isName name.toList = true)
    (rest : List Char) :
    Reads (symbol ".") ('.' :: (gap.chars ++ (name.toList ++ rest))) () (name.toList ++ rest) := by
  have point : Reads (symbol ".") ('.' :: (gap.chars ++ (name.toList ++ rest))) ()
      ((gap.chars ++ (name.toList ++ rest)).dropWhile isGap) := reads_lexeme rfl
  rwa [gap.dropGap, name_noGap valid] at point

theorem boundary_point {name : String} (valid : isName name.toList = true) (rest : List Char) :
    Boundary ('.' :: (name.toList ++ rest)) := by
  obtain ⟨c, more, text, start⟩ := Grammar.isName_cons valid
  refine ⟨rfl, ?_, by simp [isGap]⟩
  have noDigit := Grammar.isDigit_of_isNameStart start
  simp only [text, List.cons_append, Grammar.takeFraction, noDigit, Bool.false_eq_true, if_false]

def suffix (inner : Reader Term) : Reader Grammar.Suffix :=
  .or (Grammar.call inner) Grammar.property

theorem reads_property (inner : Reader Term) (gap : Gap) {wanted : String}
    (valid : isName wanted.toList = true) (ends : WordEnds rest)
    (noArguments : (rest.dropWhile isGap).head? ≠ some '(') :
    Reads (suffix inner) ('.' :: (gap.chars ++ (wanted.toList ++ rest))) (.property wanted)
      (rest.dropWhile isGap) := by
  have point := reads_point gap valid rest
  have name := reads_ident valid ends
  have noCall : Refuses (Grammar.call inner)
      ('.' :: (gap.chars ++ (wanted.toList ++ rest))) := by
    have noOpening : Refuses (symbol "(") (rest.dropWhile isGap) :=
      refuses_lexeme (takeText_none '(' noArguments)
    exact .named .call (point.bind_refuses (name.bind_refuses (noOpening.bind _)))
  have ahead := reads_notBefore noArguments
  exact .or_right noCall (.named .property (point.bind (name.bind (ahead.bind
    (reads_pure (Grammar.Suffix.property wanted) _)))))

theorem reads_call {inner : Reader Term} (gap behind : Gap) {method : String}
    (valid : isName method.toList = true)
    (arguments : Reads (Grammar.arguments inner) (text.dropWhile isGap) given (')' :: rest)) :
    Reads (suffix inner)
      ('.' :: (gap.chars ++ (method.toList ++ (behind.chars ++ '(' :: text))))
      (.call method given) (rest.dropWhile isGap) := by
  have ends : WordEnds (behind.chars ++ '(' :: text) := behind.wordEnds fun _ => rfl
  have point := reads_point gap valid (behind.chars ++ '(' :: text)
  have name := reads_ident valid ends
  rw [behind.dropGap] at name
  have opening : Reads (symbol "(") ('(' :: text) () (text.dropWhile isGap) := reads_lexeme rfl
  have closing : Reads (symbol ")") (')' :: rest) () (rest.dropWhile isGap) := reads_lexeme rfl
  exact .or_left _ (.named .call (point.bind (name.bind (opening.bind (arguments.bind
    (closing.bind (reads_pure _ _)))))))

theorem closing_more (s : Spelling) (more : List Term) (rest : List Char) :
    Closing (separator more ++ (Term.writeAll s more ++ ')' :: rest)) := by
  cases more with
  | nil => exact .parenthesis
  | cons _ _ => exact .comma

section

variable {s : Spelling} {inner : Reader Term} (fits : Fits s length inner)
include fits

theorem Fits.reads_more (given : List Term) (writable : ∀ a ∈ given, Term.Writable s.quote a)
    (short : (Term.writeAll s given).length < length) (rest : List Char) :
    Repeats (do symbol ","; inner) (separator given ++ (Term.writeAll s given ++ ')' :: rest))
      given (')' :: rest) := by
  induction given with
  | nil => exact .stop rfl
  | cons first more ih =>
    have closing := closing_more s more rest
    have written := writable first List.mem_cons_self
    simp only [Term.writeAll, List.length_append] at short
    have comma : Reads (symbol ",") (',' :: ' ' :: (first.write s ++
        (separator more ++ (Term.writeAll s more ++ ')' :: rest)))) ()
        ((' ' :: (first.write s ++
          (separator more ++ (Term.writeAll s more ++ ')' :: rest)))).dropWhile isGap) :=
      reads_lexeme rfl
    rw [List.dropWhile_cons_of_pos rfl, written.noGap closing.operandEnds.word] at comma
    have argument := fits.reads written (by omega) closing
    have later := ih (fun a ha => writable a (List.mem_cons_of_mem _ ha)) (by omega)
    simp only [Term.writeAll, List.append_assoc]
    refine .item (comma.bind argument) ?_ later
    simp only [separator, List.length_append, List.length_cons]
    omega

theorem Fits.reads_arguments (given : List Term)
    (writable : ∀ a ∈ given, Term.Writable s.quote a)
    (short : (Term.writeAll s given).length < length) (rest : List Char) :
    Reads (Grammar.arguments inner) (Term.writeAll s given ++ ')' :: rest) given
      (')' :: rest) := by
  cases given with
  | nil => exact .or_right ((fits.refuses rest).bind _) (reads_pure _ _)
  | cons first more =>
    have closing := closing_more s more rest
    simp only [Term.writeAll, List.length_append] at short
    have argument := fits.reads (writable first List.mem_cons_self) (by omega) closing
    have later := fits.reads_more more (fun a ha => writable a (List.mem_cons_of_mem _ ha))
      (by omega) rest
    simp only [Term.writeAll, List.append_assoc]
    exact .or_left _ (argument.bind (later.many.bind (reads_pure (first :: more) _)))

theorem Fits.reads_call (given : List Term) {method : String}
    (valid : isName method.toList = true) (writable : ∀ a ∈ given, Term.Writable s.quote a)
    (short : (Term.writeAll s given).length < length) (rest : List Char) :
    Reads (suffix inner)
      ('.' :: (method.toList ++ '(' :: (Term.writeAll s given ++ ')' :: rest)))
      (.call method given) (rest.dropWhile isGap) := by
  have noGap : (Term.writeAll s given ++ ')' :: rest).dropWhile isGap =
      Term.writeAll s given ++ ')' :: rest := by
    cases given with
    | nil => rfl
    | cons first more =>
      have closing := closing_more s more rest
      simp only [Term.writeAll, List.append_assoc]
      exact (writable first List.mem_cons_self).noGap closing.operandEnds.word
  have arguments := fits.reads_arguments given writable short rest
  rw [← noGap] at arguments
  exact Query.reads_call .none .none valid arguments

-- ---------------------------------------------------------------------------
-- Operands
-- ---------------------------------------------------------------------------

/-- A written operand without signs is a value or a group with its calls and properties. The
suffixes that follow in the text go on with those of the term. -/
theorem Fits.reads_chain (writable : Term.Writable s.quote term) :
    term.level = closest → (term.write s).length ≤ length →
    ∀ {rest suffixes after}, Boundary rest →
      Repeats (suffix inner) (rest.dropWhile isGap) suffixes after →
      ∃ first mid chain, Reads (Grammar.primary inner) (term.write s ++ rest) first mid ∧
        Repeats (suffix inner) mid chain after ∧
        chain.foldl Grammar.Suffix.apply first = suffixes.foldl Grammar.Suffix.apply term := by
  induction writable with
  | null =>
    intro _ _ rest suffixes after boundary follow
    exact ⟨_, _, _, reads_null inner boundary.word, follow, rfl⟩
  | boolean b =>
    intro _ _ rest suffixes after boundary follow
    have reads := reads_boolean inner b boundary.word
    cases b with
    | false => exact ⟨_, _, _, reads, follow, rfl⟩
    | true => exact ⟨_, _, _, reads, follow, rfl⟩
  | number token =>
    intro _ _ rest suffixes after boundary follow
    exact ⟨_, _, _, reads_number inner token boundary.numberEnds, follow, rfl⟩
  | string escaped =>
    intro _ _ rest suffixes after _ follow
    simp only [Term.write, List.cons_append, List.append_assoc, List.nil_append]
    exact ⟨_, _, _, reads_string inner escaped rest, follow, rfl⟩
  | name valid free =>
    intro _ _ rest suffixes after boundary follow
    exact ⟨_, _, _, reads_name inner valid free boundary.word, follow, rfl⟩
  | group writable _ =>
    intro _ short rest suffixes after _ follow
    simp only [Term.write, List.length_cons, List.length_append] at short
    simp only [Term.write, List.cons_append, List.append_assoc, List.nil_append]
    have closing : Closing (')' :: rest) := .parenthesis
    have reads := fits.reads writable (by omega) closing
    have noGap := writable.noGap closing.operandEnds.word
    rw [← noGap] at reads
    exact ⟨_, _, _, reads_group reads, follow, rfl⟩
  | @call _ given method _ tight valid writable ih _ =>
    intro _ short rest suffixes after _ follow
    simp only [Term.write, List.length_cons, List.length_append] at short
    simp only [Term.write, List.cons_append, List.append_assoc, List.nil_append]
    have call := fits.reads_call given valid writable (by omega) rest
    have shorter : (rest.dropWhile isGap).length <
        ('.' :: (method.toList ++ '(' :: (Term.writeAll s given ++ ')' :: rest))).length := by
      have le := (List.dropWhile_sublist isGap (l := rest)).length_le
      simp only [List.length_cons, List.length_append]
      omega
    exact ih tight (by omega) (boundary_point valid _) (.item call shorter follow)
  | @property _ wanted _ tight valid ih =>
    intro _ short rest suffixes after boundary follow
    simp only [Term.write, List.length_cons, List.length_append] at short
    simp only [Term.write, List.cons_append, List.append_assoc]
    have property := reads_property inner .none valid boundary.word boundary.noArguments
    have shorter : (rest.dropWhile isGap).length < ('.' :: (wanted.toList ++ rest)).length := by
      have le := (List.dropWhile_sublist isGap (l := rest)).length_le
      simp only [List.length_cons, List.length_append]
      omega
    exact ih tight (by omega) (boundary_point valid _) (.item property shorter follow)
  | signed _ _ _ => intro tight; exact absurd tight (Nat.ne_of_lt (Sign.level_lt_closest _))
  | binary _ _ _ _ _ _ =>
    intro tight
    exact absurd tight (Nat.ne_of_lt (Operator.level_lt_closest _))

end

end RefViewer.Query
