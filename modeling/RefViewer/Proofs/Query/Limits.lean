import RefViewer.Proofs.Query.Height
import RefViewer.Proofs.Query.Marks
import RefViewer.Proofs.Query.Progress
import RefViewer.Query.Compiled

/-!
# Size limits hold for what is read

Every level of a term is paid for by a mark of its own, and every group or argument list opens a
parenthesis that the size check counts. So the check bounds the height of what is read from a
text and the nesting in it: `parse_bounded`.
-/

namespace RefViewer.Query

open Reader
open Grammar (TakesWord UnsignedToken NumberToken leadingWord_chars isNameChar)

-- ---------------------------------------------------------------------------
-- Tokens
-- ---------------------------------------------------------------------------

namespace Size

section

variable {depth tokens : Nat} {text left rest : List Char}

theorem Starts.word (h : Starts depth tokens text) (taken : TakesWord text left) :
    AllowsAfter depth (tokens + 1) left := by
  have letters := leadingWord_chars text
  obtain ⟨c, more, word⟩ := List.exists_cons_of_ne_nil taken.given
  have whole := taken.append
  rw [word, List.cons_append] at whole
  rw [← whole] at h
  have here := h.here fun _ => letters c (word ▸ List.mem_cons_self)
  rw [whole, ← taken.append] at here
  exact here.chars letters taken.given

theorem AllowsAfter.word (h : AllowsAfter depth tokens text) (taken : TakesWord text left) :
    Starts depth tokens left := by
  rw [← taken.append] at h
  exact (h.chars (leadingWord_chars text)).starts taken.ends

theorem isNameChar_of_isDigit {c : Char} (digit : c.isDigit = true) : isNameChar c = true := by
  simp only [isNameChar, Char.isAlphanum, digit, Bool.or_true, Bool.true_or]

theorem Allows.unsigned (h : Allows depth tokens (digits ++ left))
    (token : UnsignedToken digits) : AllowsAfter depth (tokens + 1) left := by
  cases token with
  | whole given all => exact h.chars (fun c hc => isNameChar_of_isDigit (all c hc)) given
  | @fraction whole more first given all place places =>
    rw [List.append_assoc] at h
    have point := h.chars (fun c hc => isNameChar_of_isDigit (all c hc)) given
    have places : ∀ c ∈ first :: more, isNameChar c = true := by
      refine List.forall_mem_cons.mpr ⟨isNameChar_of_isDigit place, fun c hc => ?_⟩
      exact isNameChar_of_isDigit (places c hc)
    have after := ((point.here rfl).cons rfl).chars places (List.cons_ne_nil first more)
    exact after.fewer (by omega)

theorem Starts.number (h : Starts depth tokens (digits ++ left)) (token : NumberToken digits) :
    AllowsAfter depth (tokens + 1) left := by
  cases token with
  | negative unsigned =>
    have after := ((h.here (by decide)).cons rfl).unsigned unsigned
    exact after.fewer (by omega)
  | plain unsigned =>
    obtain ⟨c, rest, rfl, digit⟩ := unsigned.head
    exact (h.here fun _ => isNameChar_of_isDigit digit).unsigned unsigned

theorem Starts.sign (h : Starts depth tokens text) (reads : Reads Grammar.sign text s rest) :
    Starts depth (tokens + 1) rest := by
  obtain ⟨left, rfl, rfl | word⟩ := Grammar.sign_some reads
  · exact (h.here (by decide)).exclamation.dropGap.starts
  · exact ((h.word word).starts word.ends).dropGap

def operatorChars : List Char := ['|', '&', '=', '!', '<', '>']

theorem Allows.operatorChars (h : Allows depth tokens (written ++ left))
    (chars : ∀ c ∈ written, c ∈ Size.operatorChars) : Allows depth tokens left := by
  induction written with
  | nil => exact h
  | cons c written ih =>
    obtain ⟨first, others⟩ := List.forall_mem_cons.mp chars
    refine ih ?_ others
    by_cases bang : c = '!'
    · subst bang
      exact Within.fewer h.exclamation (Nat.le_succ _)
    · have start : Scan.start c = ([.plain], .between) := by
        simp only [Size.operatorChars, List.mem_cons, List.not_mem_nil, or_false] at first
        rcases first with rfl | rfl | rfl | rfl | rfl | rfl
        case inr.inr.inr.inl => exact absurd rfl bang
        all_goals rfl
      exact Within.fewer (h.cons start) (Nat.le_succ _)

theorem isWordChar_operatorChars (special : c ∈ Size.operatorChars) : isWordChar c = false := by
  simp only [Size.operatorChars, List.mem_cons, List.not_mem_nil, or_false] at special
  rcases special with rfl | rfl | rfl | rfl | rfl | rfl <;> rfl

theorem symbol_chars (known : written ∈ Grammar.symbols) :
    written.toList ≠ [] ∧ ∀ c ∈ written.toList, c ∈ Size.operatorChars := by
  have each : ∀ written ∈ Grammar.symbols, written.toList ≠ [] ∧
      (written.toList.all Size.operatorChars.contains) = true := by decide
  obtain ⟨given, all⟩ := each written known
  exact ⟨given, fun c hc => List.contains_iff_mem.mp (List.all_eq_true.mp all c hc)⟩

/-- An operator may cost nothing: its operands pay for its level. -/
theorem AllowsAfter.operator (h : AllowsAfter depth tokens text)
    (reads : Reads Grammar.operator text op rest) : Starts depth tokens rest := by
  obtain ⟨left, word | ⟨written, known, rfl⟩, rfl⟩ := Grammar.operator_some reads
  · exact (h.word word).dropGap
  · obtain ⟨given, all⟩ := symbol_chars known
    obtain ⟨c, more, split⟩ := List.exists_cons_of_ne_nil given
    rw [split] at h all
    have here := h.here (isWordChar_operatorChars (all c List.mem_cons_self))
    exact (here.operatorChars all).dropGap.starts

end

end Size

-- ---------------------------------------------------------------------------
-- Operands
-- ---------------------------------------------------------------------------

open Size (Allows AllowsAfter Starts maxNesting maxTokens)

/-- A run of items pays for all of them when each item pays for itself. -/
theorem Reader.Repeats.pays {stands : Nat → List Char → Prop} {price : α → Nat} {sound : α → Prop}
    {p : Reader α} (repeats : Repeats p text items rest)
    (item : ∀ {tokens text a rest}, stands tokens text → Reads p text a rest →
      sound a ∧ stands (tokens + price a) rest) :
    ∀ {tokens}, stands tokens text →
      (∀ a ∈ items, sound a) ∧ stands (tokens + (items.map price).sum) rest := by
  induction repeats with
  | stop _ => exact fun h => ⟨fun _ ha => absurd ha List.not_mem_nil, h⟩
  | item first _ _ ih =>
    intro tokens h
    obtain ⟨good, mid⟩ := item h first
    obtain ⟨others, last⟩ := ih mid
    rw [List.map_cons, List.sum_cons, ← Nat.add_assoc]
    exact ⟨List.forall_mem_cons.mpr ⟨good, others⟩, last⟩

/-- Whatever is read takes a mark for every level of the term, and its groups stand inside the
parentheses that are open before it. -/
def Pays (inner : Reader Term) : Prop :=
  ∀ {depth tokens text term rest}, Starts depth tokens text → Reads inner text term rest →
    depth + term.nesting ≤ maxNesting ∧ AllowsAfter depth (tokens + term.height) rest

section

variable {inner : Reader Term} (pays : Pays inner) (advances : Takes 1 inner)
  {depth tokens : Nat} {text rest : List Char}
include pays

theorem Pays.comma (h : AllowsAfter depth tokens text)
    (reads : Reads (do symbol ","; inner) text term rest) :
    depth + term.nesting ≤ maxNesting ∧ AllowsAfter depth (tokens + term.height) rest := by
  obtain ⟨_, mid, comma, reads⟩ := Reads.of_bind reads
  obtain ⟨left, rfl, rfl⟩ := Grammar.symbol_some comma
  obtain ⟨nested, after⟩ := pays ((h.here rfl).cons rfl).dropGap.starts reads
  exact ⟨nested, after.fewer (by omega)⟩

include advances

theorem Pays.arguments (h : Allows depth tokens text)
    (reads : Reads (Grammar.arguments inner) text given rest) :
    depth + Term.nestingAll given ≤ maxNesting ∧
      AllowsAfter depth (tokens + Term.heightAll given) rest := by
  rcases Grammar.arguments_some advances reads with
    ⟨rfl, rfl⟩ | ⟨first, more, mid, rfl, firstRead, commas⟩
  · exact ⟨h.depth_le, h.after⟩
  · obtain ⟨nested, after⟩ := pays h.starts firstRead
    obtain ⟨others, after⟩ := commas.pays pays.comma after
    have each : ∀ term ∈ more, term.nesting ≤ maxNesting - depth := fun term hm => by
      have fits := others term hm
      omega
    have all := Term.nestingAll_le each
    have total := Term.heightAll_le_sum more
    simp only [Term.nestingAll, Term.heightAll]
    exact ⟨by omega, after.fewer (by omega)⟩

theorem Pays.suffix (h : AllowsAfter depth tokens text)
    (reads : Reads (suffix inner) text s rest) :
    depth + s.nesting ≤ maxNesting ∧ AllowsAfter depth (tokens + s.height) rest := by
  rcases Reads.of_or reads with call | ⟨-, property⟩
  · obtain ⟨method, given, named, opened, argued, closed, rfl, point, ident, opening, arguments,
      closing⟩ := Grammar.call_some call
    obtain ⟨left, rfl, rfl⟩ := Grammar.symbol_some point
    obtain ⟨left, word, rfl⟩ := Grammar.ident_some ident
    have behind := (((h.here rfl).cons rfl).dropGap.starts.word word).dropGap
    obtain ⟨left, same, rfl⟩ := Grammar.symbol_some opening
    rw [same] at behind
    have inside := ((behind.here rfl).cons rfl).dropGap
    obtain ⟨nested, behind⟩ := pays.arguments advances inside arguments
    obtain ⟨left, rfl, rfl⟩ := Grammar.symbol_some closing
    have after := ((behind.here rfl).cons rfl).after.dropGap
    simp only [Size.Mark.depthAfter, Nat.add_sub_cancel] at nested after
    simp only [Grammar.Suffix.nesting, Grammar.Suffix.height]
    exact ⟨by omega, after.fewer (by omega)⟩
  · obtain ⟨wanted, named, rfl, point, ident, -⟩ := Grammar.property_some property
    obtain ⟨left, rfl, rfl⟩ := Grammar.symbol_some point
    obtain ⟨left, word, rfl⟩ := Grammar.ident_some ident
    have after := (((h.here rfl).cons rfl).dropGap.starts.word word).dropGap
    exact ⟨h.depth_le, after.fewer (Nat.le_succ _)⟩

omit advances

theorem Pays.grouped (h : Starts depth tokens text)
    (reads : Reads (Grammar.grouped inner) text term rest) :
    depth + term.nesting ≤ maxNesting ∧ AllowsAfter depth (tokens + term.height) rest := by
  obtain ⟨within, begun, ended, rfl, opening, insideRead, closing⟩ := Grammar.grouped_some reads
  obtain ⟨left, rfl, rfl⟩ := Grammar.symbol_some opening
  have inside := ((h.here (by decide)).cons rfl).dropGap.starts
  obtain ⟨nested, behind⟩ := pays inside insideRead
  obtain ⟨left, rfl, rfl⟩ := Grammar.symbol_some closing
  have after := ((behind.here rfl).cons rfl).after.dropGap
  simp only [Size.Mark.depthAfter, Nat.add_sub_cancel] at nested after
  rw [Term.nesting, Term.height]
  exact ⟨by omega, after.fewer (by omega)⟩

theorem Pays.primary (h : Starts depth tokens text)
    (reads : Reads (Grammar.primary inner) text term rest) :
    depth + term.nesting ≤ maxNesting ∧ AllowsAfter depth (tokens + term.height) rest := by
  have leaf {left} (after : AllowsAfter depth (tokens + 1) left) :
      depth + 0 ≤ maxNesting ∧ AllowsAfter depth (tokens + 1) (left.dropWhile isGap) :=
    ⟨after.depth_le, after.dropGap⟩
  rcases Grammar.primary_some reads with grouped | ⟨left, value, rfl⟩
  · exact pays.grouped h grouped
  · cases value with
    | number token => exact leaf (h.number token)
    | @string quote quoted left escaped =>
      have here := h.here (by cases quote <;> decide)
      exact leaf (here.string escaped).after
    | boolean _ word | null word | name _ word => exact leaf (h.word word)

include advances

theorem Pays.operand {operand : Operand} (h : Starts depth tokens text)
    (reads : Reads (Grammar.operandWithSigns inner) text operand rest) :
    depth + operand.term.nesting ≤ maxNesting ∧
      AllowsAfter depth (tokens + operand.height) rest := by
  obtain ⟨first, chain, begun, followed, whole, signs, primary, suffixes⟩ :=
    Grammar.operand_some advances reads
  have sign {tokens text s rest} (h : Starts depth tokens text)
      (reads : Reads Grammar.sign text s rest) : True ∧ Starts depth (tokens + 1) rest :=
    ⟨trivial, h.sign reads⟩
  obtain ⟨-, begins⟩ := signs.pays sign h
  obtain ⟨nested, after⟩ := pays.primary begins primary
  obtain ⟨others, after⟩ := suffixes.pays (pays.suffix advances) after
  have lhs : first.nesting ≤ maxNesting - depth := by omega
  have each : ∀ suffix ∈ chain, suffix.nesting ≤ maxNesting - depth := fun suffix hs => by
    have fits := others suffix hs
    omega
  have nesting := Grammar.Suffix.nesting_foldl_le first chain _ lhs each
  have height := Grammar.Suffix.height_foldl_le first chain
  have count : (operand.signs.map fun _ => 1).sum = operand.signs.length := by
    rw [List.map_const', List.sum_replicate_nat, Nat.mul_one]
  rw [count] at after
  rw [Operand.height, whole]
  exact ⟨by omega, after.fewer (by omega)⟩

theorem Pays.link {link : Link} (h : AllowsAfter depth tokens text)
    (reads : Reads (Grammar.link inner) text link rest) :
    depth + link.nesting ≤ maxNesting ∧ AllowsAfter depth (tokens + link.height) rest := by
  obtain ⟨mid, operator, operand⟩ := Grammar.link_some reads
  exact pays.operand advances (h.operator operator) operand

theorem Pays.row : Pays (Grammar.row inner) := by
  intro depth tokens text term rest h reads
  obtain ⟨first, links, mid, rfl, operand, others⟩ := Grammar.row_some advances reads
  obtain ⟨nested, after⟩ := pays.operand advances h operand
  obtain ⟨fits, after⟩ := others.pays (pays.link advances) after
  have lhs : first.term.nesting ≤ maxNesting - depth := by omega
  have each : ∀ link ∈ links, link.nesting ≤ maxNesting - depth := fun link hl => by
    have fits := fits link hl
    omega
  have nesting := Precedence.nesting_group_le first links _ lhs each
  have height := Precedence.height_group_le first links
  rw [rowHeight] at height
  exact ⟨by omega, after.fewer (by omega)⟩

end

theorem pays_expr (depth : Nat) : Pays (Grammar.expr depth) := by
  induction depth with
  | zero => exact fun _ reads => by cases reads
  | succ depth ih => exact Pays.row ih (Grammar.takes_expr depth)

-- ---------------------------------------------------------------------------
-- Queries
-- ---------------------------------------------------------------------------

/-- What passes the size check and is read has bounded height, and its groups and argument lists
are nested to a bounded depth. -/
theorem parse_bounded (parsed : parse text = .ok e) :
    e.height ≤ maxTokens ∧
      ∃ term, Grammar.parse text = .ok term ∧ term.resolve = .ok e ∧
        term.nesting ≤ maxNesting := by
  obtain ⟨_, checked, parsed⟩ := bind_ok parsed
  obtain ⟨term, written, resolved⟩ := bind_ok parsed
  have reads := Grammar.parse_iff.mp written
  have begins : Allows 0 0 text.toList := ⟨Nat.zero_le _, Nat.zero_le _, 0, checked⟩
  obtain ⟨nested, after⟩ := pays_expr _ begins.dropGap.starts reads
  have height := Term.height_resolve_le term resolved
  have marks := after.tokens_le
  exact ⟨by omega, term, written, resolved, by omega⟩

def merged : Expr :=
  .and (.compare .lt (.length (.field .name)) (.literal (.number (.ofNat 9))))
    (.not (.text .contains (.field .name) (.literal (.string "(("))))

/-- The keyword behind the digit is no mark of its own, and the quoted parentheses are none. -/
theorem parse_bounded_merged :
    parse "name.length < 9and not (name contains '((')" = .ok merged ∧
      merged.height ≤ maxTokens ∧
      ∃ term, Grammar.parse "name.length < 9and not (name contains '((')" = .ok term ∧
        term.resolve = .ok merged ∧ term.nesting ≤ maxNesting := by
  have parsed : parse "name.length < 9and not (name contains '((')" = .ok merged := by
    decide +kernel
  exact ⟨parsed, parse_bounded parsed⟩

end RefViewer.Query
