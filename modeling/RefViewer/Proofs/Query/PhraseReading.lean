import RefViewer.Proofs.Query.Phrase
import RefViewer.Proofs.Query.Progress
import RefViewer.Proofs.Query.Rows

/-!
# Reading phrases

The grammar reads a phrase that is apart, and as its reading: `Phrase.parse_text`. The depth that
the reader allows must exceed the nesting of the phrase, which is less than the length of the text.
-/

namespace RefViewer.Query

open Reader
open Grammar (WordEnds NumberEnds Closing WritesValue WritesSign WritesOperator OperatorEnds SignEnds
  isNameChar isNameStart takeFraction)

-- ---------------------------------------------------------------------------
-- How tokens begin
-- ---------------------------------------------------------------------------

theorem isAlpha_of_toLower {c : Char} (h : c.toLower.isAlpha = true) : c.isAlpha = true := by
  rcases Grammar.toLower_cases c with upper | same
  · exact Grammar.isAlpha_of_isUpper upper
  · rwa [same] at h

theorem Grammar.WritesOperator.head (writes : WritesOperator op written) :
    ∃ c more, written = c :: more ∧ isGap c = false ∧ c.isDigit = false ∧ c ≠ '(' ∧ c ≠ '.' := by
  cases writes with
  | symbol spells known =>
    obtain ⟨c, more, split, -⟩ := Grammar.symbol_head known
    have heads : ∀ spelling ∈ Grammar.symbols, (spelling.toList.head?.any fun c =>
        !isGap c && !c.isDigit && c != '(' && c != '.') = true := by decide
    have plain := heads _ known
    rw [split, List.head?_cons, Option.any_some] at plain
    simp only [Bool.and_eq_true, Bool.not_eq_true', bne_iff_ne, and_assoc] at plain
    exact ⟨c, more, split, plain⟩
  | @word spelling word spells letters same =>
    obtain ⟨given, -⟩ := Grammar.small_of_keyword spells letters
    obtain ⟨c, more, rfl⟩ := Grammar.keyword_cons same given
    have letter : c.toLower.isAlpha = true := by
      have heads : spelling.toList.head?.any Char.isAlpha = true := by
        cases spells <;> first | rfl | cases letters
      rwa [← same, List.map_cons, List.head?_cons, Option.any_some] at heads
    have start : isNameStart c = true := by
      rw [isNameStart, isAlpha_of_toLower letter, Bool.true_or]
    exact ⟨c, more, rfl, Grammar.isGap_of_isNameStart start, Grammar.isDigit_of_isNameStart start,
      Grammar.ne_of_test start rfl, Grammar.ne_of_test start rfl⟩

def Solid (written : List Char) : Prop :=
  ∃ c more, written = c :: more ∧ isGap c = false ∧ c ≠ '='

theorem Solid.noGap (solid : Solid written) : written.dropWhile isGap = written := by
  obtain ⟨c, more, rfl, noGap, -⟩ := solid
  rw [List.dropWhile_cons_of_neg (by rw [noGap]; decide)]

theorem Solid.noEquals (solid : Solid written) : written.head? ≠ some '=' := by
  obtain ⟨c, more, rfl, -, noEquals⟩ := solid
  exact fun h => noEquals (Option.some.inj h)

theorem Gap.noEquals (gap : Gap) (ahead : text.head? ≠ some '=') :
    (gap.chars ++ text).head? ≠ some '=' := by
  rcases gap with ⟨_ | ⟨c, more⟩, blank⟩
  · exact ahead
  · intro equals
    have gap := blank c List.mem_cons_self
    rw [Option.some.inj equals] at gap
    cases gap

theorem solid_of_name {c : Char} (start : isNameChar c = true) (more : List Char) :
    Solid (c :: more) := by
  refine ⟨c, more, rfl, Bool.eq_false_iff.mpr fun gap => ?_, Grammar.ne_of_test start rfl⟩
  rw [isNameChar_of_isGap gap] at start
  cases start

theorem Grammar.WritesSign.solid (writes : WritesSign s written) : Solid written := by
  cases writes with
  | bang => exact ⟨'!', [], rfl, rfl, by decide⟩
  | not same =>
    obtain ⟨c, more, rfl⟩ := Grammar.keyword_cons same (by decide)
    exact solid_of_name (Grammar.keyword_chars rfl same c List.mem_cons_self) more

theorem Grammar.WritesValue.solid (writes : WritesValue term written) : Solid written := by
  cases writes with
  | number token =>
    cases token with
    | plain unsigned =>
      obtain ⟨c, more, rfl, digit⟩ := unsigned.head
      exact ⟨c, more, rfl, Grammar.isGap_of_isDigit digit, Grammar.ne_of_test digit rfl⟩
    | negative unsigned => exact ⟨'-', _, rfl, rfl, by decide⟩
  | string quote escaped => cases quote <;> exact ⟨_, _, rfl, rfl, by decide⟩
  | boolean b => cases b <;> exact ⟨_, _, rfl, rfl, by decide⟩
  | null => exact ⟨_, _, rfl, rfl, by decide⟩
  | name valid free =>
    obtain ⟨c, more, split, start⟩ := Grammar.isName_cons valid
    rw [split]
    exact solid_of_name (Grammar.isNameChar_of_isNameStart start) more

namespace Phrase

def Opens : {g : Grade} → Phrase g → Prop
  | .core, p | .operand, p | .row, p => Solid p.chars ∧ p.startsWord = p.chars.head?.any isNameChar
  | .arguments, _ | .enclosed, _ => True

theorem opens_append {chars : List Char} {startsWord : Bool}
    (opens : Solid chars ∧ startsWord = chars.head?.any isNameChar) (more : List Char) :
    Solid (chars ++ more) ∧ startsWord = (chars ++ more).head?.any isNameChar := by
  obtain ⟨⟨c, rest, rfl, plain⟩, word⟩ := opens
  exact ⟨⟨c, rest ++ more, rfl, plain⟩, word⟩

theorem opens (p : Phrase g) : p.Opens := by
  induction p with
  | value writes => exact ⟨writes.solid, rfl⟩
  | group inner _ => exact ⟨⟨'(', _, rfl, rfl, by decide⟩, rfl⟩
  | property receiver selector ih => exact opens_append ih _
  | bareCall receiver selector behind within ih => exact opens_append ih _
  | call receiver selector behind given ih _ => exact opens_append ih _
  | bare core ih => exact ih
  | signed writes gap operand _ => exact opens_append ⟨writes.solid, rfl⟩ _
  | single operand ih => exact ih
  | joined first joint others ih _ => exact opens_append ih _
  | last | more | enclosed => trivial

end Phrase

-- ---------------------------------------------------------------------------
-- What follows an operand
-- ---------------------------------------------------------------------------

/-- Nothing here continues the operand before it, unless it is a call or a property. -/
structure Follows (endsInWord : Bool) (rest : List Char) : Prop where
  word : endsInWord = true → WordEnds rest
  number : NumberEnds rest
  noArguments : (rest.dropWhile isGap).head? ≠ some '('

theorem numberEnds_cons {c : Char} (noDigit : c.isDigit = false) (noPoint : c ≠ '.')
    (more : List Char) : NumberEnds (c :: more) :=
  ⟨noDigit, Grammar.takeFraction_none fun h => noPoint (Option.some.inj h)⟩

theorem Gap.numberEnds (gap : Gap) (ends : NumberEnds text) :
    NumberEnds (gap.chars ++ text) := by
  rcases gap with ⟨_ | ⟨c, more⟩, blank⟩
  · exact ends
  · have gap := blank c List.mem_cons_self
    have noDigit : c.isDigit = false := Bool.eq_false_iff.mpr fun digit => by
      rw [Grammar.isGap_of_isDigit digit] at gap
      cases gap
    have noPoint : c ≠ '.' := by
      rintro rfl
      cases gap
    exact numberEnds_cons noDigit noPoint _

theorem Gap.follows (gap : Gap) (word : gap.chars = [] → endsInWord = true → WordEnds text)
    (ends : NumberEnds text) (noArguments : (text.dropWhile isGap).head? ≠ some '(') :
    Follows endsInWord (gap.chars ++ text) where
  word ended := gap.wordEnds fun none => word none ended
  number := gap.numberEnds ends
  noArguments := by rwa [gap.dropGap]

theorem follows_closing (endsInWord : Bool) (after : Gap) (closing : Closing rest) :
    Follows endsInWord (after.chars ++ rest) :=
  have ends := closing.operandEnds
  after.follows (fun _ _ => ends.word) ends.toBoundary.numberEnds ends.noArguments

theorem takeFraction_point {text : List Char} (noDigit : text.head?.any Char.isDigit = false) :
    takeFraction ('.' :: text) = ([], '.' :: text) := by
  cases text with
  | nil => rfl
  | cons c text =>
    rw [List.head?_cons, Option.any_some] at noDigit
    rw [takeFraction, if_neg (by rw [noDigit]; decide)]

theorem Selector.follows (endsInWord : Bool) (selector : Selector) (rest : List Char) :
    Follows endsInWord (selector.chars ++ rest) := by
  obtain ⟨c, more, split, start⟩ := Grammar.isName_cons selector.valid
  have name : NumberEnds (selector.name.toList ++ rest) := by
    rw [split]
    exact numberEnds_cons (Grammar.isDigit_of_isNameStart start) (Grammar.ne_of_test start rfl) _
  have point : NumberEnds ('.' :: (selector.after.chars ++ (selector.name.toList ++ rest))) :=
    ⟨rfl, takeFraction_point (selector.after.numberEnds name).digits⟩
  rw [Selector.chars, List.append_assoc, List.cons_append, List.append_assoc]
  exact selector.before.follows (fun _ _ => rfl) point (by simp [isGap])

theorem Joint.dropGap (joint : Joint) (rest : List Char) :
    (joint.chars ++ rest).dropWhile isGap = joint.written ++ (joint.after.chars ++ rest) ∧
      ((joint.chars ++ rest).dropWhile isGap).head? ≠ some '.' := by
  obtain ⟨c, more, split, noGap, -, -, noPoint⟩ := joint.writes.head
  have next : (joint.chars ++ rest).dropWhile isGap =
      joint.written ++ (joint.after.chars ++ rest) := by
    rw [Joint.chars, List.append_assoc, joint.before.dropGap, List.append_assoc, split,
      List.cons_append, List.dropWhile_cons_of_neg (by rw [noGap]; decide)]
  refine ⟨next, ?_⟩
  rw [next, split]
  exact fun h => noPoint (Option.some.inj h)

theorem Joint.follows {joint : Joint} (apart : joint.Apart endsInWord startsWord)
    (rest : List Char) : Follows endsInWord (joint.chars ++ rest) := by
  obtain ⟨c, more, split, noGap, noDigit, noGroup, noPoint⟩ := joint.writes.head
  have ends : NumberEnds (joint.written ++ joint.after.chars ++ rest) := by
    rw [split]
    exact numberEnds_cons noDigit noPoint _
  have noArguments :
      ((joint.written ++ joint.after.chars ++ rest).dropWhile isGap).head? ≠ some '(' := by
    rw [split, List.cons_append, List.cons_append,
      List.dropWhile_cons_of_neg (by rw [noGap]; decide)]
    exact fun h => noGroup (Option.some.inj h)
  rw [Joint.chars, List.append_assoc]
  refine joint.before.follows (fun none ended => ?_) ends noArguments
  rw [Grammar.wordEnds_iff, split]
  refine Bool.eq_false_iff.mpr fun word => ?_
  have isWord : joint.isWord = true := by
    rw [Joint.isWord, split]
    exact word
  rw [(apart isWord).1 none] at ended
  cases ended

-- ---------------------------------------------------------------------------
-- Values and signs
-- ---------------------------------------------------------------------------

theorem Grammar.WritesValue.reads (inner : Reader Term) (writes : WritesValue term written)
    (follows : Follows term.isWord rest) :
    Reads (Grammar.primary inner) (written ++ rest) term (rest.dropWhile isGap) := by
  cases writes with
  | number token => exact reads_number inner token follows.number
  | string quote escaped =>
    rw [List.cons_append, List.append_assoc]
    exact reads_string inner escaped rest
  | boolean b => exact reads_boolean inner b (follows.word rfl)
  | null => exact reads_null inner (follows.word rfl)
  | name valid free => exact reads_name inner valid free (follows.word rfl)

theorem Grammar.WritesValue.begins (writes : WritesValue term written)
    (follows : Follows term.isWord rest) : Begins (written ++ rest) := by
  cases writes with
  | number token =>
    cases token with
    | plain unsigned =>
      obtain ⟨c, more, rfl, digit⟩ := unsigned.head
      exact .digit digit _
    | negative _ => exact .plain (by decide) _
  | string quote escaped => cases quote <;> exact .plain (by decide) _
  | boolean b => cases b <;> exact .plain (by decide) _
  | null => exact .cons rfl (by decide) rfl
  | name valid free => exact .name valid free (follows.word rfl)

-- ---------------------------------------------------------------------------
-- Phrases
-- ---------------------------------------------------------------------------

namespace Phrase

/-- How a phrase is read in front of what may follow at its place. The suffixes behind a core go on
with its own. An argument list is read in front of a closing parenthesis. -/
def IsRead : {g : Grade} → Phrase g → Prop
  | .core, p => ∀ {depth rest suffixes left}, p.nesting ≤ depth → Follows p.endsInWord rest →
      Repeats (suffix (Grammar.expr depth)) (rest.dropWhile isGap) suffixes left →
      Begins (p.chars ++ rest) ∧
        ∃ first mid chain, Reads (Grammar.primary (Grammar.expr depth)) (p.chars ++ rest) first mid ∧
          Repeats (suffix (Grammar.expr depth)) mid chain left ∧
          chain.foldl Grammar.Suffix.apply first = suffixes.foldl Grammar.Suffix.apply p.reading
  | .operand, p => ∀ {depth rest}, p.nesting ≤ depth → Follows p.endsInWord rest →
      (rest.dropWhile isGap).head? ≠ some '.' →
      ∃ begun first mid chain, Repeats Grammar.sign (p.chars ++ rest) p.reading.signs begun ∧
        Reads (Grammar.primary (Grammar.expr depth)) begun first mid ∧
        Repeats (suffix (Grammar.expr depth)) mid chain (rest.dropWhile isGap) ∧
        chain.foldl Grammar.Suffix.apply first = p.reading.term
  | .row, p => ∀ {depth rest} (after : Gap), p.nesting ≤ depth → Closing rest →
      ∃ mid, Reads (Grammar.operandWithSigns (Grammar.expr depth))
          (p.chars ++ (after.chars ++ rest)) p.reading.1 mid ∧
        Repeats (Grammar.link (Grammar.expr depth)) mid p.reading.2 rest
  | .arguments, p => ∀ {depth} rest, p.nesting < depth →
      ∃ first others mid, p.reading = first :: others ∧
        Reads (Grammar.expr depth) ((p.chars ++ ')' :: rest).dropWhile isGap) first mid ∧
        Repeats (do symbol ","; Grammar.expr depth) mid others (')' :: rest)
  | .enclosed, p => ∀ {depth rest}, p.nesting < depth → Closing rest →
      Reads (Grammar.expr depth) ((p.chars ++ rest).dropWhile isGap) p.reading rest

-- ---------------------------------------------------------------------------
-- Cores
-- ---------------------------------------------------------------------------

theorem isRead_value (writes : WritesValue term written) : (value writes).IsRead := by
  intro depth rest suffixes left _ follows later
  exact ⟨writes.begins follows, term, _, suffixes, writes.reads _ follows, later, rfl⟩

theorem isRead_group {inner : Phrase .enclosed} (ih : inner.IsRead) : (group inner).IsRead := by
  intro depth rest suffixes left shallow _ later
  have inside : Reads (Grammar.expr depth) ((inner.chars ++ ')' :: rest).dropWhile isGap)
      inner.reading (')' :: rest) := ih shallow .parenthesis
  rw [chars, List.cons_append, List.append_assoc]
  exact ⟨.plain (by decide) _, .group inner.reading, _, suffixes, reads_group inside, later, rfl⟩

theorem IsRead.suffix {receiver : Phrase .core} (ih : receiver.IsRead) (selector : Selector)
    {more : List Char} (shallow : receiver.nesting ≤ depth)
    (read : Reads (Query.suffix (Grammar.expr depth))
      ('.' :: (selector.after.chars ++ (selector.name.toList ++ more))) s mid)
    (later : Repeats (Query.suffix (Grammar.expr depth)) mid suffixes left) :
    Begins (receiver.chars ++ (selector.chars ++ more)) ∧
      ∃ first mid chain, Reads (Grammar.primary (Grammar.expr depth))
          (receiver.chars ++ (selector.chars ++ more)) first mid ∧
        Repeats (Query.suffix (Grammar.expr depth)) mid chain left ∧
        chain.foldl Grammar.Suffix.apply first =
          suffixes.foldl Grammar.Suffix.apply (s.apply receiver.reading) := by
  have follows := selector.follows receiver.endsInWord more
  have point : (selector.chars ++ more).dropWhile isGap =
      '.' :: (selector.after.chars ++ (selector.name.toList ++ more)) := by
    rw [Selector.chars, List.append_assoc, selector.before.dropGap, List.cons_append,
      List.append_assoc]
    rfl
  have shorter := (Grammar.takes_suffix (Grammar.takes_expr depth)).length_le read
  have both := Repeats.item read shorter later
  rw [← point] at both
  exact ih shallow follows both

theorem isRead_property {receiver : Phrase .core} (ih : receiver.IsRead) (selector : Selector) :
    (property receiver selector).IsRead := by
  intro depth rest suffixes left shallow follows later
  have read := reads_property (Grammar.expr depth) selector.after selector.valid
    (follows.word rfl) follows.noArguments
  rw [chars, List.append_assoc]
  exact ih.suffix selector shallow read later

theorem IsRead.call {receiver : Phrase .core} (ih : receiver.IsRead) (selector : Selector)
    (behind : Gap) {inside rest : List Char} (shallow : receiver.nesting ≤ depth)
    (arguments : Reads (Grammar.arguments (Grammar.expr depth))
      ((inside ++ ')' :: rest).dropWhile isGap) given (')' :: rest))
    (later : Repeats (Query.suffix (Grammar.expr depth)) (rest.dropWhile isGap) suffixes left) :
    let written := receiver.chars ++
      (selector.chars ++ (behind.chars ++ '(' :: (inside ++ [')']))) ++ rest
    Begins written ∧
      ∃ first mid chain, Reads (Grammar.primary (Grammar.expr depth)) written first mid ∧
        Repeats (Query.suffix (Grammar.expr depth)) mid chain left ∧
        chain.foldl Grammar.Suffix.apply first = suffixes.foldl Grammar.Suffix.apply
          (.call receiver.reading selector.name given) := by
  have read := reads_call selector.after behind selector.valid arguments
  simp only [List.append_assoc, List.cons_append, List.nil_append]
  exact ih.suffix selector shallow read later

theorem isRead_bareCall {receiver : Phrase .core} (ih : receiver.IsRead) (selector : Selector)
    (behind within : Gap) : (bareCall receiver selector behind within).IsRead := by
  intro depth rest suffixes left shallow _ later
  have none : Reads (Grammar.arguments (Grammar.expr depth))
      ((within.chars ++ ')' :: rest).dropWhile isGap) [] (')' :: rest) := by
    rw [within.dropGap]
    exact .or_right ((refuses_expr depth rest).bind _) (reads_pure _ _)
  exact ih.call selector behind shallow none later

theorem isRead_call {receiver : Phrase .core} {given : Phrase .arguments} (ih : receiver.IsRead)
    (argued : given.IsRead) (selector : Selector) (behind : Gap) :
    (call receiver selector behind given).IsRead := by
  intro depth rest suffixes left shallow _ later
  obtain ⟨shallow, deeper⟩ := Nat.max_le.mp shallow
  obtain ⟨first, others, mid, whole, one, more⟩ := argued rest deeper
  have arguments : Reads (Grammar.arguments (Grammar.expr depth))
      ((given.chars ++ ')' :: rest).dropWhile isGap) given.reading (')' :: rest) := by
    rw [whole]
    exact .or_left _ (one.bind (more.many.bind (reads_pure (first :: others) _)))
  exact ih.call selector behind shallow arguments later

-- ---------------------------------------------------------------------------
-- Arguments
-- ---------------------------------------------------------------------------

theorem isRead_last {argument : Phrase .enclosed} (ih : argument.IsRead) :
    (last argument).IsRead :=
  fun _ shallow => ⟨argument.reading, [], _, rfl, ih shallow .parenthesis, .stop rfl⟩

theorem isRead_more {argument : Phrase .enclosed} {others : Phrase .arguments}
    (ih : argument.IsRead) (argued : others.IsRead) : (more argument others).IsRead := by
  intro depth rest shallow
  obtain ⟨shallow, deep⟩ := Nat.max_lt.mp shallow
  obtain ⟨second, third, mid, whole, one, later⟩ := argued rest deep
  have first : Reads (Grammar.expr depth)
      ((argument.chars ++ ',' :: (others.chars ++ ')' :: rest)).dropWhile isGap) argument.reading
      (',' :: (others.chars ++ ')' :: rest)) := ih shallow .comma
  have comma : Reads (symbol ",") (',' :: (others.chars ++ ')' :: rest)) ()
      ((others.chars ++ ')' :: rest).dropWhile isGap) := reads_lexeme rfl
  have next : Reads (do symbol ","; Grammar.expr depth) (',' :: (others.chars ++ ')' :: rest))
      second mid := comma.bind one
  have shorter := (Grammar.takes_comma (Grammar.takes_expr depth)).length_le next
  rw [chars, List.append_assoc, List.cons_append]
  refine ⟨argument.reading, others.reading, _, rfl, first, ?_⟩
  rw [whole]
  exact .item next shorter later

-- ---------------------------------------------------------------------------
-- Operands
-- ---------------------------------------------------------------------------

theorem isRead_bare {core : Phrase .core} (ih : core.IsRead) : (bare core).IsRead := by
  intro depth rest shallow follows noSuffix
  obtain ⟨begins, first, mid, chain, primary, suffixes, whole⟩ :=
    ih shallow follows (.stop (refuses_suffix (Grammar.expr depth) noSuffix))
  exact ⟨_, first, mid, chain, .stop begins.noSign, primary, suffixes, whole⟩

theorem isRead_signed {operand : Phrase .operand} (writes : WritesSign s written) (gap : Gap)
    (apart : s = .not → gap.chars = [] → operand.startsWord = false) (ih : operand.IsRead) :
    (signed writes gap operand).IsRead := by
  intro depth rest shallow follows noSuffix
  obtain ⟨begun, first, mid, chain, signs, primary, suffixes, whole⟩ :=
    ih shallow follows noSuffix
  obtain ⟨solid, word⟩ := opens_append operand.opens rest
  have ends : SignEnds (gap.chars ++ (operand.chars ++ rest)) s := by
    cases s with
    | bang => exact gap.noEquals solid.noEquals
    | not =>
      exact gap.wordEnds fun none => Grammar.wordEnds_iff.mpr (word.symm.trans (apart rfl none))
  have sign := writes.reads ends
  rw [gap.dropGap, solid.noGap] at sign
  have shorter := Grammar.takes_sign.length_le sign
  rw [chars, List.append_assoc, List.append_assoc]
  exact ⟨begun, first, mid, chain, .item sign shorter signs, primary, suffixes, whole⟩

theorem IsRead.reads {operand : Phrase .operand} (ih : operand.IsRead)
    (shallow : operand.nesting ≤ depth) (follows : Follows operand.endsInWord rest)
    (noSuffix : (rest.dropWhile isGap).head? ≠ some '.') :
    Reads (Grammar.operandWithSigns (Grammar.expr depth)) (operand.chars ++ rest) operand.reading
      (rest.dropWhile isGap) := by
  obtain ⟨begun, first, mid, chain, signs, primary, suffixes, whole⟩ :=
    ih shallow follows noSuffix
  refine signs.many.bind (primary.bind (suffixes.many.bind ?_))
  rw [whole]
  exact reads_pure operand.reading _

-- ---------------------------------------------------------------------------
-- Rows
-- ---------------------------------------------------------------------------

theorem isRead_single {operand : Phrase .operand} (ih : operand.IsRead) :
    (single operand).IsRead := by
  intro depth rest after shallow closing
  have ends := closing.operandEnds
  have noSuffix : ((after.chars ++ rest).dropWhile isGap).head? ≠ some '.' := by
    rw [after.dropGap]
    exact ends.noSuffix
  have reads := ih.reads shallow (follows_closing _ after closing) noSuffix
  rw [after.dropGap, closing.dropGap] at reads
  exact ⟨rest, reads, .stop (closing.refuses_operator.bind _)⟩

theorem isRead_joined {first : Phrase .operand} {joint : Joint} {others : Phrase .row}
    (ih : first.IsRead) (apart : joint.Apart first.endsInWord others.startsWord)
    (later : others.IsRead) : (joined first joint others).IsRead := by
  intro depth rest after shallow closing
  obtain ⟨shallow, deep⟩ := Nat.max_le.mp shallow
  obtain ⟨mid, operand, links⟩ := later after deep closing
  obtain ⟨solid, word⟩ := opens_append others.opens (after.chars ++ rest)
  have ends : OperatorEnds joint.written
      (joint.after.chars ++ (others.chars ++ (after.chars ++ rest))) :=
    ⟨joint.after.noEquals solid.noEquals, fun isWord => joint.after.wordEnds fun none =>
      Grammar.wordEnds_iff.mpr (word.symm.trans ((apart isWord).2 none))⟩
  have operator := joint.writes.reads ends
  rw [joint.after.dropGap, solid.noGap] at operator
  have link : Reads (Grammar.link (Grammar.expr depth)) _ ⟨joint.operator, others.reading.1⟩ mid :=
    operator.bind (operand.bind (reads_pure (Link.mk joint.operator others.reading.1) mid))
  have shorter := (Grammar.takes_link (Grammar.takes_expr depth)).length_le link
  obtain ⟨begins, noSuffix⟩ := joint.dropGap (others.chars ++ (after.chars ++ rest))
  have reads := ih.reads shallow (joint.follows apart (others.chars ++ (after.chars ++ rest)))
    noSuffix
  rw [begins] at reads
  rw [chars, List.append_assoc, List.append_assoc]
  exact ⟨_, reads, .item link shorter links⟩

theorem isRead_enclosed {row : Phrase .row} (before after : Gap) (ih : row.IsRead) :
    (enclosed before row after).IsRead := by
  intro depth rest shallow closing
  obtain ⟨depth, rfl⟩ := Nat.exists_eq_succ_of_ne_zero (Nat.ne_zero_of_lt shallow)
  obtain ⟨mid, operand, links⟩ := ih after (Nat.le_of_lt_succ shallow) closing
  obtain ⟨solid, -⟩ := opens_append row.opens (after.chars ++ rest)
  rw [chars, List.append_assoc, List.append_assoc, before.dropGap, solid.noGap]
  exact .named .expr (operand.bind (links.many.bind (reads_pure _ rest)))

-- ---------------------------------------------------------------------------
-- Queries
-- ---------------------------------------------------------------------------

theorem isRead (p : Phrase g) (apart : p.Apart) : p.IsRead := by
  induction p with
  | value writes => exact isRead_value writes
  | group inner ih => exact isRead_group (ih apart)
  | property receiver selector ih => exact isRead_property (ih apart) selector
  | bareCall receiver selector behind within ih =>
    exact isRead_bareCall (ih apart) selector behind within
  | call receiver selector behind given ih argued =>
    exact isRead_call (ih apart.1) (argued apart.2) selector behind
  | last argument ih => exact isRead_last (ih apart)
  | more argument others ih argued => exact isRead_more (ih apart.1) (argued apart.2)
  | bare core ih => exact isRead_bare (ih apart)
  | signed writes gap operand ih => exact isRead_signed writes gap apart.1 (ih apart.2)
  | single operand ih => exact isRead_single (ih apart)
  | joined first joint others ih later =>
    exact isRead_joined (ih apart.1) apart.2.1 (later apart.2.2)
  | enclosed before row after ih => exact isRead_enclosed before after (ih apart)

/-- The text of a phrase is parsed, and as the reading of the phrase. -/
theorem parse_text (p : Phrase .enclosed) (apart : p.Apart) :
    Grammar.parse p.text = .ok p.reading := by
  have reads : Reads (Grammar.expr (p.chars.length + 1)) ((p.chars ++ []).dropWhile isGap)
      p.reading [] := p.isRead apart (Nat.lt_succ_of_le p.nesting_le) .stop
  rw [List.append_nil] at reads
  rw [Grammar.parse_iff, text, String.toList_ofList]
  exact reads

end Phrase

end RefViewer.Query
