import RefViewer.Proofs.Query.Height
import RefViewer.Proofs.Query.Resumed
import RefViewer.Proofs.Query.Trimming
import RefViewer.Query.Compiled

/-!
# Composed queries

Queries in parentheses may be joined by an operator or negated. Unless the text gets over the size
limits, it compiles to the expression composed of theirs.
-/

namespace RefViewer.Query

open Reader
open Grammar (Spells)

def enclose (text : String) : String := "(" ++ text ++ ")"

def either (p q : String) : String := enclose p ++ " or " ++ enclose q

def both (p q : String) : String := enclose p ++ " and " ++ enclose q

def negated (p : String) : String := "not " ++ enclose p

-- ---------------------------------------------------------------------------
-- Queries that compile
-- ---------------------------------------------------------------------------

/-- A trimmed text, not blank, that compiles to the expression. -/
structure Compiles (text : String) (e : Expr) : Prop where
  trimmed : Unicode.trim text = text
  given : text ≠ ""
  compiled : Compiled.ofText text = .ok ⟨text, some e⟩

theorem Compiles.parsed (h : Compiles text e) :
    ∃ term, Grammar.parse text = .ok term ∧ term.resolve = .ok e := by
  have compiled := h.compiled
  rw [Compiled.ofText, h.trimmed, Compiled.ofTrimmed, if_neg h.given] at compiled
  cases parsed : parse text with
  | error fault => rw [parsed] at compiled; cases compiled
  | ok same =>
    rw [parsed] at compiled
    cases compiled
    obtain ⟨_, -, parsed⟩ := bind_ok parsed
    exact bind_ok parsed

theorem Compiles.of_term (trimmed : Unicode.trim text = text) (given : text ≠ "")
    (fits : Size.check text = .ok ()) (parsed : Grammar.parse text = .ok term)
    (resolved : term.resolve = .ok e) : Compiles text e := by
  have whole : parse text = .ok e := by
    rw [parse, fits, parsed]
    exact resolved
  refine ⟨trimmed, given, ?_⟩
  rw [Compiled.ofText, trimmed, Compiled.ofTrimmed, if_neg given, whole]
  rfl

-- ---------------------------------------------------------------------------
-- Enclosed queries
-- ---------------------------------------------------------------------------

theorem toList_enclose (text : String) :
    (enclose text).toList = '(' :: (text.toList ++ [')']) := by
  simp [enclose]

theorem reads_enclosed {depth : Nat} (compiles : Compiles p e)
    (parsed : Grammar.parse p = .ok term) (le : p.toList.length + 1 ≤ depth) (rest : List Char) :
    Reads (Grammar.primary (Grammar.expr depth)) ((enclose p).toList ++ rest) (.group term)
      (rest.dropWhile isGap) := by
  have noGap := Unicode.dropGap_of_trimmed compiles.trimmed
  have whole := Grammar.parse_iff.mp parsed
  rw [noGap] at whole
  have breaks : Breaks (')' :: rest) := .parenthesis
  have inside := reads_whole le breaks .parenthesis noGap whole
  rw [toList_enclose, List.cons_append, List.append_assoc]
  exact reads_group inside

theorem reads_enclosed_operand (depth : Nat) (compiles : Compiles p e)
    (parsed : Grammar.parse p = .ok term) (le : p.toList.length + 1 ≤ depth)
    (signed : Repeats Grammar.sign text signs ((enclose p).toList ++ rest))
    (ahead : (rest.dropWhile isGap).head? ≠ some '.') :
    Reads (Grammar.operandWithSigns (Grammar.expr depth)) text ⟨signs, .group term⟩
      (rest.dropWhile isGap) := by
  have primary := reads_enclosed compiles parsed le rest
  have suffixes : Repeats (suffix (Grammar.expr depth)) (rest.dropWhile isGap) []
      (rest.dropWhile isGap) := .stop (refuses_suffix _ ahead)
  exact signed.many.bind (primary.bind (suffixes.many.bind (reads_pure _ _)))

theorem unsigned_enclosed (p : String) (rest : List Char) :
    Repeats Grammar.sign ((enclose p).toList ++ rest) [] ((enclose p).toList ++ rest) := by
  rw [toList_enclose]
  exact .stop rfl

theorem enclose_noGap (p : String) (rest : List Char) :
    ((enclose p).toList ++ rest).dropWhile isGap = (enclose p).toList ++ rest := by
  rw [toList_enclose]
  rfl

theorem parse_joined (left : Compiles p a) (right : Compiles q b) (spells : Spells op word)
    (parsedLeft : Grammar.parse p = .ok lhs) (parsedRight : Grammar.parse q = .ok rhs)
    (chars : text.toList =
      (enclose p).toList ++ ' ' :: (word.toList ++ ' ' :: (enclose q).toList)) :
    Grammar.parse text = .ok (.binary op (.group lhs) (.group rhs)) := by
  have length := congrArg List.length chars
  simp only [toList_enclose, List.length_append, List.length_cons] at length
  have noGap : text.toList.dropWhile isGap = text.toList := by rw [chars, enclose_noGap]
  have grouped : Precedence.group ⟨[], .group lhs⟩ [⟨op, ⟨[], .group rhs⟩⟩] =
      .binary op (.group lhs) (.group rhs) := by
    cases op <;> rfl
  have gap := spells.dropGap (' ' :: (enclose q).toList)
  have ahead := (spells.operandEnds (' ' :: (enclose q).toList)).noSuffix
  have first := reads_enclosed_operand text.toList.length left parsedLeft (by omega)
    (unsigned_enclosed p _) ahead
  rw [gap, ← chars] at first
  have operator := spells.reads (enclose q).toList
  have second := reads_enclosed_operand text.toList.length right parsedRight (by omega)
    (unsigned_enclosed q []) (fun h => by cases h)
  have noGapBehind := enclose_noGap q []
  rw [List.append_nil] at noGapBehind second
  rw [noGapBehind] at operator
  have shorter : ([] : List Char).length <
      (word.toList ++ ' ' :: (enclose q).toList).length := by
    simp only [List.length_nil, List.length_append, List.length_cons]
    omega
  have links : Repeats (Grammar.link (Grammar.expr text.toList.length))
      (word.toList ++ ' ' :: (enclose q).toList) [⟨op, ⟨[], .group rhs⟩⟩] [] :=
    .item (operator.bind (second.bind (reads_pure (Link.mk op _) _))) shorter
      (.stop (Grammar.Closing.stop.refuses_operator.bind _))
  rw [Grammar.parse_iff, noGap, ← grouped]
  exact .named .expr (first.bind (links.many.bind (reads_pure _ _)))

theorem parse_negated (compiles : Compiles p e) (parsed : Grammar.parse p = .ok term) :
    Grammar.parse (negated p) = .ok (.signed .not (.group term)) := by
  have chars : (negated p).toList = 'n' :: 'o' :: 't' :: ' ' :: (enclose p).toList := by
    simp [negated]
  have length := congrArg List.length chars
  simp only [toList_enclose, List.length_append, List.length_cons] at length
  have noGap : (negated p).toList.dropWhile isGap = (negated p).toList := by rw [chars]; rfl
  have grouped : Precedence.group ⟨[.not], .group term⟩ [] = .signed .not (.group term) := rfl
  have ends : Grammar.WordEnds (' ' :: (enclose p).toList) := rfl
  have not := Grammar.reads_not ends
  have noGapBehind := enclose_noGap p []
  have unsigned := unsigned_enclosed p []
  rw [List.append_nil] at noGapBehind
  rw [List.dropWhile_cons_of_pos rfl, noGapBehind, ← chars] at not
  have signed : Repeats Grammar.sign (negated p).toList [.not] ((enclose p).toList ++ []) := by
    rw [List.append_nil] at unsigned ⊢
    refine .item not ?_ unsigned
    simp only [chars, List.length_cons]
    omega
  have first := reads_enclosed_operand (negated p).toList.length compiles parsed (by omega)
    signed (fun h => by cases h)
  have links : Repeats (Grammar.link (Grammar.expr (negated p).toList.length)) [] [] [] :=
    .stop (Grammar.Closing.stop.refuses_operator.bind _)
  rw [Grammar.parse_iff, noGap, ← grouped]
  exact .named .expr (first.bind (links.many.bind (reads_pure _ _)))

-- ---------------------------------------------------------------------------
-- Composed queries compile
-- ---------------------------------------------------------------------------

theorem trimmed_composed (chars : text.toList = first :: (before ++ (enclose p).toList))
    (starts : ¬ Unicode.isBlank first = true) : Unicode.trim text = text ∧ text ≠ "" := by
  have ends : ¬ Unicode.isBlank ')' = true := by decide
  have split : text.toList = first :: ((before ++ '(' :: p.toList) ++ [')']) := by
    rw [chars, toList_enclose, List.append_assoc, List.cons_append]
  refine ⟨Unicode.trim_of_ends split starts ends, ?_⟩
  rintro rfl
  cases chars

theorem Compiles.joined (left : Compiles p a) (right : Compiles q b) (spells : Spells op word)
    (chars : text.toList =
      (enclose p).toList ++ ' ' :: (word.toList ++ ' ' :: (enclose q).toList))
    (made : Term.applyOperator a b op = .ok e) (fits : Size.check text = .ok ()) :
    Compiles text e := by
  obtain ⟨lhs, parsedLeft, resolvedLeft⟩ := left.parsed
  obtain ⟨rhs, parsedRight, resolvedRight⟩ := right.parsed
  have parsed := parse_joined left right spells parsedLeft parsedRight chars
  have split : text.toList = '(' ::
      ((p.toList ++ ')' :: ' ' :: (word.toList ++ [' '])) ++ (enclose q).toList) := by
    rw [chars, toList_enclose p]
    simp only [List.cons_append, List.append_assoc, List.nil_append]
  obtain ⟨trimmed, given⟩ := trimmed_composed split (by decide)
  refine .of_term trimmed given fits parsed ?_
  rw [Term.resolve, Term.resolve, Term.resolve, resolvedLeft, resolvedRight]
  exact made

theorem Compiles.either (left : Compiles p a) (right : Compiles q b)
    (fits : Size.check (either p q) = .ok ()) : Compiles (Query.either p q) (.or a b) := by
  have chars : (Query.either p q).toList =
      (enclose p).toList ++ ' ' :: ("or".toList ++ ' ' :: (enclose q).toList) := by
    simp [Query.either]
  exact left.joined right .or chars rfl fits

theorem Compiles.both (left : Compiles p a) (right : Compiles q b)
    (fits : Size.check (both p q) = .ok ()) : Compiles (Query.both p q) (.and a b) := by
  have chars : (Query.both p q).toList =
      (enclose p).toList ++ ' ' :: ("and".toList ++ ' ' :: (enclose q).toList) := by
    simp [Query.both]
  exact left.joined right .and chars rfl fits

theorem Compiles.negated (compiles : Compiles p e) (fits : Size.check (negated p) = .ok ()) :
    Compiles (Query.negated p) (.not e) := by
  obtain ⟨term, parsed, resolved⟩ := compiles.parsed
  have chars : (Query.negated p).toList = 'n' :: (['o', 't', ' '] ++ (enclose p).toList) := by
    simp [Query.negated]
  obtain ⟨trimmed, given⟩ := trimmed_composed chars (by decide)
  refine .of_term trimmed given fits (parse_negated compiles parsed) ?_
  rw [Term.resolve, Term.resolve, resolved]
  rfl

end RefViewer.Query
