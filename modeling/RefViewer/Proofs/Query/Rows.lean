import RefViewer.Proofs.Query.Operands
import RefViewer.Proofs.Query.Taken

/-!
# Reading written terms

A written term is read as its row of operands and operators, and grouping the row gives the
term. The depth that the reader allows is the length of the text, and a part of a term is
written in fewer characters than the term.
-/

namespace RefViewer.Query

open Reader
open Grammar (WordEnds OperandEnds Closing)

-- ---------------------------------------------------------------------------
-- Signs
-- ---------------------------------------------------------------------------

theorem signs_begin (begins : Begins text) (signs : List Sign) :
    (signs.flatMap signText ++ text).dropWhile isGap = signs.flatMap signText ++ text ∧
      (signs.flatMap signText ++ text).head? ≠ some '=' := by
  cases signs with
  | nil => exact ⟨begins.noGap, begins.noEquals⟩
  | cons sign signs =>
    cases sign <;> exact ⟨rfl, fun h => absurd (Option.some.inj h) (by decide)⟩

theorem reads_signs (begins : Begins text) (signs : List Sign) :
    Repeats Grammar.sign (signs.flatMap signText ++ text) signs text := by
  induction signs with
  | nil => exact .stop begins.noSign
  | cons sign signs ih =>
    obtain ⟨noGap, noEquals⟩ := signs_begin begins signs
    cases sign with
    | bang =>
      have bang := Grammar.reads_bang noEquals
      rw [noGap] at bang
      exact .item bang (Nat.lt_succ_self _) ih
    | not =>
      have ends : WordEnds (' ' :: (signs.flatMap signText ++ text)) := rfl
      have not := Grammar.reads_not ends
      rw [List.dropWhile_cons_of_pos rfl, noGap] at not
      refine .item not ?_ ih
      simp only [List.flatMap_cons, signText, List.length_append, List.length_cons]
      omega

-- ---------------------------------------------------------------------------
-- Operands and links
-- ---------------------------------------------------------------------------

theorem refuses_suffix (inner : Reader Term) (ahead : text.head? ≠ some '.') :
    Refuses (suffix inner) text := by
  have noPoint : Refuses (symbol ".") text := refuses_lexeme (takeText_none '.' ahead)
  exact .or (.named .call (noPoint.bind _)) (.named .property (noPoint.bind _))

theorem Term.Ready.noGap (ready : Ready s length operand) (ends : WordEnds rest) :
    (operandText s operand ++ rest).dropWhile isGap = operandText s operand ++ rest := by
  rw [operandText, List.append_assoc]
  exact (signs_begin (ready.writable.begins ready.tight ends) operand.signs).1

theorem linksText_ends (s : Spelling) (links : List Link) (closing : Closing rest) :
    OperandEnds (Term.linksText s links ++ rest) := by
  cases links with
  | nil => exact closing.operandEnds
  | cons link links =>
    simp only [Term.linksText, List.cons_append, List.append_assoc]
    exact (s.known link.operator).operandEnds _

section

variable {s : Spelling} {inner : Reader Term} (fits : Fits s length inner)
include fits

theorem Fits.reads_operand (ready : Term.Ready s length operand) (ends : OperandEnds rest) :
    Reads (Grammar.operandWithSigns inner) (Term.operandText s operand ++ rest) operand
      (rest.dropWhile isGap) := by
  have begins := ready.writable.begins ready.tight ends.word
  have follow : Repeats (suffix inner) (rest.dropWhile isGap) [] (rest.dropWhile isGap) :=
    .stop (refuses_suffix inner ends.noSuffix)
  obtain ⟨first, mid, chain, primary, suffixes, whole⟩ :=
    fits.reads_chain ready.writable ready.tight ready.short ends.toBoundary follow
  have signs := reads_signs begins operand.signs
  have term : chain.foldl Grammar.Suffix.apply first = operand.term := whole
  rw [Term.operandText, List.append_assoc]
  refine signs.many.bind (primary.bind (suffixes.many.bind ?_))
  rw [term]
  exact reads_pure operand _

theorem Fits.reads_link (op : Operator) (ready : Term.Ready s length operand)
    (ends : OperandEnds rest) :
    Reads (Grammar.link inner)
      ((s.operator op).toList ++ ' ' :: (Term.operandText s operand ++ rest)) ⟨op, operand⟩
      (rest.dropWhile isGap) := by
  have operator := (s.known op).reads (Term.operandText s operand ++ rest)
  rw [ready.noGap ends.word] at operator
  exact operator.bind ((fits.reads_operand ready ends).bind (reads_pure (Link.mk op operand) _))

theorem Fits.reads_links (links : List Link)
    (ready : ∀ link ∈ links, Term.Ready s length link.operand) (closing : Closing rest) :
    Repeats (Grammar.link inner) ((Term.linksText s links ++ rest).dropWhile isGap) links
      rest := by
  induction links with
  | nil =>
    rw [Term.linksText, List.nil_append, closing.dropGap]
    exact .stop (closing.refuses_operator.bind _)
  | cons link links ih =>
    have later := ih fun other h => ready other (List.mem_cons_of_mem _ h)
    have ends := linksText_ends s links closing
    have first := fits.reads_link link.operator (ready link List.mem_cons_self) ends
    simp only [Term.linksText, List.cons_append, List.append_assoc]
    rw [(s.known link.operator).dropGap]
    refine .item first ?_ later
    have le := (List.dropWhile_sublist isGap (l := Term.linksText s links ++ rest)).length_le
    simp only [List.length_append, List.length_cons] at le ⊢
    omega

-- ---------------------------------------------------------------------------
-- Rows and expressions
-- ---------------------------------------------------------------------------

theorem Fits.reads_row (writable : Term.Writable s.quote term)
    (short : (term.write s).length ≤ length) (closing : Closing rest) :
    Reads (Grammar.row inner) (term.write s ++ rest) term rest := by
  obtain ⟨first, others⟩ := writable.ready_row short
  have ends := linksText_ends s term.links closing
  have operand := fits.reads_operand first ends
  have links := fits.reads_links term.links others closing
  have grouped : Precedence.group term.firstOperand term.links = term :=
    Precedence.group_row writable.grouped
  rw [writable.grouped.write_row s, List.append_assoc]
  refine .named .expr (operand.bind (links.many.bind ?_))
  rw [grouped]
  exact reads_pure term rest

end

theorem refuses_row (inner : Reader Term) (rest : List Char) :
    Refuses (Grammar.row inner) (')' :: rest) := by
  have signs : Repeats Grammar.sign (')' :: rest) [] (')' :: rest) := .stop rfl
  have primary : Refuses (Grammar.primary inner) (')' :: rest) := rfl
  exact .named .expr ((signs.many.bind_refuses (primary.bind _)).bind _)

theorem refuses_expr (depth : Nat) (rest : List Char) :
    Refuses (Grammar.expr depth) (')' :: rest) := by
  cases depth with
  | zero => exact refuses_fail _
  | succ depth => exact refuses_row _ rest

theorem fits_expr (s : Spelling) (depth : Nat) : Fits s depth (Grammar.expr depth) := by
  induction depth with
  | zero => exact ⟨fun _ short _ => absurd short (Nat.not_lt_zero _), fun _ => refuses_fail _⟩
  | succ depth ih =>
    refine ⟨fun writable short closing => ?_, refuses_row (Grammar.expr depth)⟩
    exact ih.reads_row writable (Nat.le_of_lt_succ short) closing

/-- A written term is read back whole. -/
theorem parse_write (s : Spelling) (writable : Term.Writable s.quote term) :
    Grammar.parse (.ofList (term.write s)) = .ok term := by
  have ends : WordEnds [] := rfl
  have noGap := writable.noGap ends
  have expr := (fits_expr s ((term.write s).length + 1)).reads writable (Nat.lt_succ_self _) .stop
  rw [List.append_nil] at noGap expr
  rw [Grammar.parse_iff, String.toList_ofList, noGap]
  exact expr

end RefViewer.Query
