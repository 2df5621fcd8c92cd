import RefViewer.Proofs.Query.Operands
import RefViewer.Proofs.Query.Taken

/-!
# What the grammar has read

A success of a reader of the grammar is taken apart into the successes it is made of. Every token
is at least one character long, so a run of signs, suffixes or links goes on until the next one is
refused.
-/

namespace RefViewer.Query.Grammar

open Reader

-- ---------------------------------------------------------------------------
-- Tokens
-- ---------------------------------------------------------------------------

theorem TakesWord.shorter (taken : TakesWord text left) : left.length + 1 ≤ text.length := by
  have given := List.length_pos_iff.mpr taken.given
  have whole := congrArg List.length taken.append
  rw [List.length_append] at whole
  omega

theorem TakesOperator.shorter (taken : TakesOperator text left) :
    left.length + 1 ≤ text.length := by
  rcases taken with word | ⟨written, known, rfl⟩
  · exact word.shorter
  · have given : ∀ written ∈ symbols, 0 < written.toList.length := by decide
    have length := given written known
    rw [List.length_append]
    omega

theorem length_dropGap_le (text : List Char) : (text.dropWhile isGap).length ≤ text.length :=
  (List.dropWhile_sublist isGap).length_le

theorem takes_symbol {expected : String} (given : 0 < expected.toList.length) :
    Takes 1 (symbol expected) := by
  refine takes_lexeme fun text _ left taken => ?_
  rw [takeText_some taken, List.length_append]
  omega

theorem takes_ident : Takes 1 ident :=
  (takes_lexeme fun _ _ _ taken => (takeName_some taken).1.shorter).named .ident

theorem takes_sign : Takes 1 sign := by
  constructor
  intro text s rest reads
  obtain ⟨left, rfl, rfl | word⟩ := sign_some reads
  · exact Nat.succ_le_succ (length_dropGap_le left)
  · exact Nat.le_trans (Nat.succ_le_succ (length_dropGap_le left)) word.shorter

theorem takes_operator : Takes 1 operator := by
  constructor
  intro text op rest reads
  obtain ⟨left, taken, rfl⟩ := operator_some reads
  exact Nat.le_trans (Nat.succ_le_succ (length_dropGap_le left)) taken.shorter

theorem takes_notBefore (c : Char) : Takes 0 (notBefore c) := by
  constructor
  intro text _ rest reads
  obtain ⟨-, rfl⟩ := Reads.of_notBefore reads
  exact Nat.le_refl _

-- ---------------------------------------------------------------------------
-- Values and groups
-- ---------------------------------------------------------------------------

inductive TakesValue : List Char → Term → List Char → Prop
  | number (token : NumberToken digits) : TakesValue (digits ++ left) (.number digits) left
  | string (escaped : Escaped quote quoted) :
      TakesValue (quote.char :: (quoted ++ quote.char :: left)) (.string quoted) left
  | boolean (b : Bool) (word : TakesWord text left) : TakesValue text (.boolean b) left
  | null (word : TakesWord text left) : TakesValue text .null left
  | name (ident : String) (word : TakesWord text left) : TakesValue text (.name ident) left

theorem NumberToken.length_pos (token : NumberToken digits) : 0 < digits.length := by
  cases token with
  | plain unsigned =>
    obtain ⟨c, rest, rfl, -⟩ := unsigned.head
    exact Nat.succ_pos _
  | negative _ => exact Nat.succ_pos _

theorem TakesValue.shorter (taken : TakesValue text term left) :
    left.length + 1 ≤ text.length := by
  cases taken with
  | number token =>
    have length := token.length_pos
    rw [List.length_append]
    omega
  | string _ =>
    simp only [List.length_cons, List.length_append]
    omega
  | boolean _ word | null word | name _ word => exact word.shorter

theorem grouped_some {inner : Reader Term} (reads : Reads (grouped inner) text term rest) :
    ∃ within begun ended, term = .group within ∧ Reads (symbol "(") text () begun ∧
      Reads inner begun within ended ∧ Reads (symbol ")") ended () rest := by
  obtain ⟨_, begun, opening, reads⟩ := Reads.of_bind reads
  obtain ⟨within, ended, inside, reads⟩ := Reads.of_bind reads
  obtain ⟨_, last, closing, reads⟩ := Reads.of_bind reads
  obtain ⟨rfl, rfl⟩ := Reads.of_pure reads
  exact ⟨within, begun, ended, rfl, opening, inside, closing⟩

theorem primary_some {inner : Reader Term} (reads : Reads (primary inner) text term rest) :
    Reads (grouped inner) text term rest ∨
      ∃ left, TakesValue text term left ∧ left.dropWhile isGap = rest := by
  obtain ⟨p, hp, reads⟩ := Reads.of_firstOf reads
  simp only [List.mem_cons, List.not_mem_nil, or_false] at hp
  rcases hp with rfl | rfl | rfl | rfl | rfl | rfl
  · exact .inl reads
  · obtain ⟨digits, number, rfl⟩ := Reads.of_map reads
    obtain ⟨left, taken, gap⟩ := token_some number
    obtain ⟨token, rfl⟩ := takeNumber_some taken
    exact .inr ⟨left, .number token, gap⟩
  · obtain ⟨quoted, string, rfl⟩ := Reads.of_map reads
    obtain ⟨left, taken, gap⟩ := token_some string
    obtain ⟨quote, escaped, rfl⟩ := takeString_some taken
    exact .inr ⟨left, .string escaped, gap⟩
  · obtain ⟨left, taken, gap⟩ := token_some reads
    split at taken
    · next found =>
      cases taken
      have word := (byWord_word "true" rfl (by decide)).takesWord found
      exact .inr ⟨left, .boolean true word, gap⟩
    · rw [Option.map_eq_some_iff] at taken
      obtain ⟨⟨_, rest⟩, found, same⟩ := taken
      cases same
      have word := (byWord_word "false" rfl (by decide)).takesWord found
      exact .inr ⟨rest, .boolean false word, gap⟩
  · obtain ⟨_, mid, null, reads⟩ := Reads.of_bind reads
    obtain ⟨rfl, rfl⟩ := Reads.of_pure reads
    obtain ⟨left, taken, gap⟩ := token_some null
    exact .inr ⟨left, .null ((byWord_word "null" rfl (by decide)).takesWord taken), gap⟩
  · obtain ⟨name, ident, rfl⟩ := Reads.of_map reads
    obtain ⟨left, word, gap⟩ := ident_some ident
    exact .inr ⟨left, .name name word, gap⟩

-- ---------------------------------------------------------------------------
-- Calls and properties
-- ---------------------------------------------------------------------------

theorem call_some {inner : Reader Term} (reads : Reads (call inner) text s rest) :
    ∃ method given named opened argued closed, s = .call method given ∧
      Reads (symbol ".") text () named ∧ Reads ident named method opened ∧
      Reads (symbol "(") opened () argued ∧ Reads (arguments inner) argued given closed ∧
      Reads (symbol ")") closed () rest := by
  obtain ⟨_, named, point, reads⟩ := Reads.of_bind (Reads.of_named reads)
  obtain ⟨method, opened, ident, reads⟩ := Reads.of_bind reads
  obtain ⟨_, argued, opening, reads⟩ := Reads.of_bind reads
  obtain ⟨given, closed, arguments, reads⟩ := Reads.of_bind reads
  obtain ⟨_, last, closing, reads⟩ := Reads.of_bind reads
  obtain ⟨rfl, rfl⟩ := Reads.of_pure reads
  exact ⟨method, given, named, opened, argued, closed, rfl, point, ident, opening, arguments,
    closing⟩

theorem property_some (reads : Reads property text s rest) :
    ∃ wanted named, s = .property wanted ∧ Reads (symbol ".") text () named ∧
      Reads ident named wanted rest ∧ rest.head? ≠ some '(' := by
  obtain ⟨_, named, point, reads⟩ := Reads.of_bind (Reads.of_named reads)
  obtain ⟨wanted, left, ident, reads⟩ := Reads.of_bind reads
  obtain ⟨_, last, noCall, reads⟩ := Reads.of_bind reads
  obtain ⟨rfl, rfl⟩ := Reads.of_pure reads
  obtain ⟨noOpening, rfl⟩ := Reads.of_notBefore noCall
  exact ⟨wanted, named, rfl, point, ident, noOpening⟩

-- ---------------------------------------------------------------------------
-- Operands and rows
-- ---------------------------------------------------------------------------

theorem link_some {inner : Reader Term} {next : Link} (reads : Reads (link inner) text next rest) :
    ∃ mid, Reads operator text next.operator mid ∧
      Reads (operandWithSigns inner) mid next.operand rest := by
  obtain ⟨op, mid, operator, reads⟩ := Reads.of_bind reads
  obtain ⟨operand, last, operandRead, reads⟩ := Reads.of_bind reads
  obtain ⟨rfl, rfl⟩ := Reads.of_pure reads
  exact ⟨mid, operator, operandRead⟩

section

variable {inner : Reader Term} (advances : Takes 1 inner)
include advances

theorem takes_comma : Takes 1 (do symbol ","; inner) :=
  (takes_symbol (by decide)).bind fun _ => advances.weaken

theorem arguments_some (reads : Reads (arguments inner) text given rest) :
    (given = [] ∧ rest = text) ∨ ∃ first more mid, given = first :: more ∧
      Reads inner text first mid ∧ Repeats (do symbol ","; inner) mid more rest := by
  rcases Reads.of_or reads with reads | ⟨-, reads⟩
  · obtain ⟨first, mid, argument, reads⟩ := Reads.of_bind reads
    obtain ⟨more, last, commas, reads⟩ := Reads.of_bind reads
    obtain ⟨rfl, rfl⟩ := Reads.of_pure reads
    exact .inr ⟨first, more, mid, rfl, argument, (takes_comma advances).of_many commas⟩
  · obtain ⟨rfl, rfl⟩ := Reads.of_pure reads
    exact .inl ⟨rfl, rfl⟩

theorem takes_arguments : Takes 0 (arguments inner) := by
  refine .or (advances.weaken.bind fun first => ?_) (takes_pure _)
  exact (takes_comma advances).many.bind fun rest => takes_pure _

theorem takes_suffix : Takes 1 (suffix inner) := by
  refine .or (.named .call ?_) (.named .property ?_)
  · refine (takes_symbol (by decide)).bind fun _ => takes_ident.weaken.bind fun method => ?_
    refine (takes_symbol (by decide)).weaken.bind fun _ => ?_
    refine (takes_arguments advances).bind fun given => ?_
    exact (takes_symbol (by decide)).weaken.bind fun _ => takes_pure _
  · refine (takes_symbol (by decide)).bind fun _ => takes_ident.weaken.bind fun name => ?_
    exact (takes_notBefore '(').bind fun _ => takes_pure _

theorem takes_grouped : Takes 1 (grouped inner) := by
  refine (takes_symbol (by decide)).bind fun _ => advances.weaken.bind fun term => ?_
  exact (takes_symbol (by decide)).weaken.bind fun _ => takes_pure _

theorem takes_primary : Takes 1 (primary inner) := by
  constructor
  intro text term rest reads
  rcases primary_some reads with grouped | ⟨left, taken, rfl⟩
  · exact (takes_grouped advances).length_le grouped
  · exact Nat.le_trans (Nat.succ_le_succ (length_dropGap_le left)) taken.shorter

theorem operand_some {operand : Operand}
    (reads : Reads (operandWithSigns inner) text operand rest) :
    ∃ first chain begun followed, operand.term = chain.foldl Suffix.apply first ∧
      Repeats sign text operand.signs begun ∧ Reads (primary inner) begun first followed ∧
      Repeats (suffix inner) followed chain rest := by
  obtain ⟨signs, begun, signsRead, reads⟩ := Reads.of_bind reads
  obtain ⟨first, followed, primary, reads⟩ := Reads.of_bind reads
  obtain ⟨chain, last, chainRead, reads⟩ := Reads.of_bind reads
  obtain ⟨rfl, rfl⟩ := Reads.of_pure reads
  exact ⟨first, chain, begun, followed, rfl, takes_sign.of_many signsRead, primary,
    (takes_suffix advances).of_many chainRead⟩

theorem takes_operandWithSigns : Takes 1 (operandWithSigns inner) := by
  constructor
  intro text operand rest reads
  obtain ⟨first, chain, begun, followed, -, signs, primary, suffixes⟩ :=
    operand_some advances reads
  have before := signs.length_le
  have between := (takes_primary advances).length_le primary
  have after := suffixes.length_le
  omega

theorem takes_link : Takes 1 (link inner) :=
  takes_operator.bind fun _ => (takes_operandWithSigns advances).weaken.bind fun _ => takes_pure _

theorem row_some (reads : Reads (row inner) text term rest) :
    ∃ first links mid, term = Precedence.group first links ∧
      Reads (operandWithSigns inner) text first mid ∧ Repeats (link inner) mid links rest := by
  obtain ⟨first, mid, operand, reads⟩ := Reads.of_bind (Reads.of_named reads)
  obtain ⟨links, last, linksRead, reads⟩ := Reads.of_bind reads
  obtain ⟨rfl, rfl⟩ := Reads.of_pure reads
  exact ⟨first, links, mid, rfl, operand, (takes_link advances).of_many linksRead⟩

theorem takes_row : Takes 1 (row inner) := by
  constructor
  intro text term rest reads
  obtain ⟨first, links, mid, -, operand, others⟩ := row_some advances reads
  have before := (takes_operandWithSigns advances).length_le operand
  have after := others.length_le
  omega

end

theorem takes_expr (depth : Nat) : Takes 1 (expr depth) := by
  induction depth with
  | zero =>
    refine ⟨fun reads => ?_⟩
    cases reads
  | succ depth ih => exact takes_row ih

end RefViewer.Query.Grammar
