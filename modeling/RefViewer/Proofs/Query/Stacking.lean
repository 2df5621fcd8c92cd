import RefViewer.Proofs.Query.Leaves
import RefViewer.Proofs.Query.Limits
import RefViewer.Proofs.Query.Written

/-!
# What the size check knows of nesting

The size check counts the signs that stand one behind the other, opening parentheses aside, and
forgets them at the next word, text or closing parenthesis, although groups may still be open that
they negate. So it bounds the groups around a leaf and the signs stacked on it: `parse_stacks`.
-/

namespace RefViewer.Query

open Reader
open Grammar (WritesSign SignEnds WordEnds isNameChar)

-- ---------------------------------------------------------------------------
-- Marks with their negations
-- ---------------------------------------------------------------------------

namespace Size

/-- The text keeps the limits behind `depth` open parentheses and `negations` stacked signs. -/
structure Bears (depth negations tokens : Nat) (text : List Char) : Prop where
  nesting_le : depth + negations ≤ maxNesting
  tokens_le : tokens ≤ maxTokens
  passes : checkFrom ⟨depth, negations, tokens⟩ (marksFrom .between text) = .ok ()

def Leads (depth negations tokens : Nat) (text : List Char) : Prop :=
  (∀ c ∈ text.head?, isWordChar c = true → isNameChar c = true) →
    Bears depth negations tokens text

section

variable {depth negations tokens : Nat} {text rest : List Char}

theorem checkFrom_forget {fewer : Nat} (le : fewer ≤ negations)
    (passes : checkFrom ⟨depth, negations, tokens⟩ later = .ok ()) :
    checkFrom ⟨depth, fewer, tokens⟩ later = .ok () := by
  induction later generalizing depth negations fewer tokens with
  | nil => rfl
  | cons mark later ih =>
    obtain ⟨deep, long, passes⟩ := checkFrom_cons.mp passes
    refine checkFrom_cons.mpr ?_
    cases mark with
    | opening => exact ⟨Nat.le_trans (Nat.add_le_add_left le _) deep, long, ih le passes⟩
    | negation =>
      have le := Nat.succ_le_succ le
      exact ⟨Nat.le_trans (Nat.add_le_add_left le _) deep, long, ih le passes⟩
    | closing | plain => exact ⟨deep, long, passes⟩

theorem Bears.allows (h : Bears depth negations tokens text) : Allows depth tokens text :=
  ⟨Nat.le_trans (Nat.le_add_right _ _) h.nesting_le, h.tokens_le, negations, h.passes⟩

theorem Allows.bears (h : Allows depth tokens text) : Bears depth 0 tokens text := by
  obtain ⟨negations, passes⟩ := h.passes
  exact ⟨h.depth_le, h.tokens_le, checkFrom_forget (Nat.zero_le _) passes⟩

theorem Leads.starts (h : Leads depth negations tokens text) : Starts depth tokens text :=
  fun letters => (h letters).allows

theorem Starts.leads (h : Starts depth tokens text) : Leads depth 0 tokens text :=
  fun letters => (h letters).bears

theorem marksFrom_dropGap (text : List Char) :
    marksFrom .between (text.dropWhile isGap) = marksFrom .between text := by
  induction text with
  | nil => rfl
  | cons c rest ih =>
    by_cases gap : isGap c = true
    · rw [List.dropWhile_cons_of_pos gap, ih, marksFrom_cons (start_of_isGap gap),
        List.nil_append]
    · rw [List.dropWhile_cons_of_neg gap]

theorem Bears.dropGap (h : Bears depth negations tokens text) :
    Bears depth negations tokens (text.dropWhile isGap) :=
  ⟨h.nesting_le, h.tokens_le, by rw [marksFrom_dropGap]; exact h.passes⟩

theorem Bears.opening (h : Bears depth negations tokens ('(' :: rest)) :
    Bears (depth + 1) negations (tokens + 1) rest := by
  have start : Scan.start '(' = ([.opening], .between) := rfl
  have passes := h.passes
  rw [marksFrom_cons start, List.singleton_append, checkFrom_cons] at passes
  exact ⟨passes.1, passes.2.1, passes.2.2⟩

theorem Bears.negation (h : Bears depth negations tokens text)
    (marked : marksFrom .between text = .negation :: marksFrom .between rest) :
    Bears depth (negations + 1) (tokens + 1) rest := by
  have passes := h.passes
  rw [marked, checkFrom_cons] at passes
  exact ⟨passes.1, passes.2.1, passes.2.2⟩

theorem marksFrom_bang (ahead : rest.head? ≠ some '=') :
    marksFrom .between ('!' :: rest) = .negation :: marksFrom .between rest := by
  have start : Scan.start '!' = ([], .exclamation) := rfl
  rw [marksFrom_cons start, List.nil_append]
  cases rest with
  | nil => rfl
  | cons c rest =>
    have differs : c ≠ '=' := fun same => ahead (congrArg some same)
    rw [marksFrom, Scan.step, if_neg differs]
    rfl

theorem marksFrom_wordMark {word : List Char} (letters : ∀ c ∈ word, isWordChar c = true)
    (ends : rest.head?.any isWordChar = false) (reversed : List Char) :
    marksFrom (.word reversed) (word ++ rest) =
      wordMark (word.reverse ++ reversed) :: marksFrom .between rest := by
  induction word generalizing reversed with
  | nil =>
    cases rest with
    | nil => rfl
    | cons c rest =>
      rw [List.head?_cons, Option.any_some] at ends
      rw [List.nil_append, marksFrom, Scan.step, if_neg (by rw [ends]; decide)]
      rfl
  | cons c word ih =>
    obtain ⟨first, others⟩ := List.forall_mem_cons.mp letters
    rw [List.cons_append, marksFrom, Scan.step, if_pos first, List.reverse_cons,
      List.append_assoc]
    exact ih others (c :: reversed)

theorem marksFrom_not {word : List Char} (same : word.map Char.toLower = "not".toList)
    (ends : rest.head?.any isWordChar = false) :
    marksFrom .between (word ++ rest) = .negation :: marksFrom .between rest := by
  have letters := Grammar.keyword_chars rfl same
  obtain ⟨c, more, rfl⟩ := Grammar.keyword_cons same (by decide)
  obtain ⟨first, others⟩ := List.forall_mem_cons.mp letters
  have mark : wordMark (more.reverse ++ [c]) = .negation := by
    rw [wordMark, if_pos]
    rw [List.reverse_append, List.reverse_reverse]
    exact same
  rw [List.cons_append, marksFrom_cons (start_of_isNameChar first), List.nil_append,
    marksFrom_wordMark (fun d hd => isWordChar_of_isNameChar (others d hd)) ends, mark]

theorem letters_cons {c : Char} (plain : isWordChar c = true → isNameChar c = true)
    (more : List Char) :
    ∀ d ∈ (c :: more).head?, isWordChar d = true → isNameChar d = true := by
  intro d hd
  rwa [← Option.mem_some_iff.mp hd]

/-- Behind a keyword an operand begins apart from it, unless with a letter of no name. -/
theorem Leads.sign (h : Leads depth negations tokens text)
    (reads : Reads Grammar.sign text s rest) : Leads depth (negations + 1) (tokens + 1) rest := by
  obtain ⟨word, left, written, rfl, ends, rfl⟩ := Grammar.sign_written reads
  intro letters
  cases written with
  | bang =>
    have begins := letters_cons (c := '!') (by decide) left
    exact ((h begins).negation (marksFrom_bang ends)).dropGap
  | not same =>
    have chars := Grammar.keyword_chars rfl same
    have apart : left.head?.any isWordChar = false := by
      cases left with
      | nil => rfl
      | cons c left =>
        rw [List.head?_cons, Option.any_some]
        refine Bool.eq_false_iff.mpr fun letter => ?_
        have noGap : ¬ isGap c = true := fun gap => by
          rw [isWordChar_of_isGap gap] at letter
          cases letter
        rw [List.dropWhile_cons_of_neg noGap] at letters
        have name := letters c rfl letter
        rw [SignEnds, Grammar.wordEnds_iff, List.head?_cons, Option.any_some, name] at ends
        cases ends
    have begins : ∀ c ∈ (word ++ left).head?, isWordChar c = true → isNameChar c = true := by
      obtain ⟨c, more, rfl⟩ := Grammar.keyword_cons same (by decide)
      exact letters_cons (fun _ => chars c List.mem_cons_self) (more ++ left)
    exact ((h begins).negation (marksFrom_not same apart)).dropGap

theorem Leads.signs (signs : Repeats Grammar.sign text given rest) :
    ∀ {negations tokens}, Leads depth negations tokens text →
      ∃ tokens, Leads depth (negations + given.length) tokens rest := by
  induction signs with
  | stop _ => exact fun h => ⟨_, h⟩
  | item first _ _ ih =>
    intro negations tokens h
    obtain ⟨tokens, last⟩ := ih (h.sign first)
    rw [Nat.add_right_comm, Nat.add_assoc] at last
    exact ⟨tokens, last⟩

end

end Size

-- ---------------------------------------------------------------------------
-- Operands
-- ---------------------------------------------------------------------------

open Size (Allows AllowsAfter Starts Leads maxNesting)

theorem Grammar.TakesValue.begins (taken : Grammar.TakesValue text term left) :
    ∀ c ∈ text.head?, Size.isWordChar c = true → isNameChar c = true := by
  have word {text left : List Char} (taken : Grammar.TakesWord text left) :
      ∀ c ∈ text.head?, Size.isWordChar c = true → isNameChar c = true := by
    intro c hc _
    have head := taken.head
    rwa [Option.mem_def.mp hc, Option.any_some] at head
  cases taken with
  | number token =>
    cases token with
    | plain unsigned =>
      obtain ⟨c, more, rfl, digit⟩ := unsigned.head
      exact Size.letters_cons (fun _ => Size.isNameChar_of_isDigit digit) _
    | negative _ => exact Size.letters_cons (by decide) _
  | @string quote _ _ _ => exact Size.letters_cons (by cases quote <;> decide) _
  | boolean _ taken | null taken | name _ taken => exact word taken

def Bounds (inner : Reader Term) : Prop :=
  ∀ {depth negations tokens text term rest}, Leads depth negations tokens text →
    Reads inner text term rest → Holds maxNesting depth negations term.leaves

section

variable {inner : Reader Term} (bounds : Bounds inner) {depth negations tokens : Nat}
  {text rest : List Char}
include bounds

theorem Bounds.comma (h : AllowsAfter depth tokens text)
    (reads : Reads (do symbol ","; inner) text term rest) :
    ∀ leaf ∈ term.leaves, depth + leaf.held ≤ maxNesting := by
  obtain ⟨_, mid, comma, reads⟩ := Reads.of_bind reads
  obtain ⟨left, rfl, rfl⟩ := Grammar.symbol_some comma
  exact (bounds ((h.here rfl).cons rfl).dropGap.starts.leads reads).all

theorem Bounds.grouped (h : Leads depth negations tokens text)
    (reads : Reads (Grammar.grouped inner) text term rest) :
    Holds maxNesting depth negations term.leaves := by
  obtain ⟨within, begun, ended, rfl, opening, inside, -⟩ := Grammar.grouped_some reads
  obtain ⟨left, rfl, rfl⟩ := Grammar.symbol_some opening
  have begins := Size.letters_cons (c := '(') (by decide) left
  have holds := bounds (fun _ => (h begins).opening.dropGap) inside
  exact holds.grouped

theorem Bounds.primary (h : Leads depth negations tokens text)
    (reads : Reads (Grammar.primary inner) text term rest) :
    Holds maxNesting depth negations term.leaves := by
  rcases Grammar.primary_some reads with grouped | ⟨left, value, -⟩
  · exact bounds.grouped h grouped
  · have fits := (h value.begins).nesting_le
    cases value <;> exact Holds.bare fits

variable (pays : Pays inner) (advances : Takes 1 inner)
include pays advances

theorem Bounds.arguments (h : Allows depth tokens text)
    (reads : Reads (Grammar.arguments inner) text given rest) :
    ∀ leaf ∈ Term.leavesAll given, depth + leaf.held ≤ maxNesting := by
  rcases Grammar.arguments_some advances reads with
    ⟨rfl, rfl⟩ | ⟨first, more, mid, rfl, firstRead, commas⟩
  · exact nofun
  · have one := (bounds h.starts.leads firstRead).all
    obtain ⟨-, after⟩ := pays h.starts firstRead
    have comma {tokens text term rest} (h : AllowsAfter depth tokens text)
        (reads : Reads (do symbol ","; inner) text term rest) :
        (∀ leaf ∈ term.leaves, depth + leaf.held ≤ maxNesting) ∧
          AllowsAfter depth (tokens + term.height) rest :=
      ⟨bounds.comma h reads, (pays.comma h reads).2⟩
    obtain ⟨others, -⟩ := commas.pays comma after
    exact List.forall_mem_append.mpr ⟨one, Term.leavesAll_le others⟩

theorem Bounds.suffix (h : AllowsAfter depth tokens text)
    (reads : Reads (suffix inner) text s rest) :
    ∀ leaf ∈ s.leaves, depth + leaf.held ≤ maxNesting := by
  rcases Reads.of_or reads with call | ⟨-, property⟩
  · obtain ⟨method, given, named, opened, argued, closed, rfl, point, ident, opening, arguments,
      -⟩ := Grammar.call_some call
    obtain ⟨left, rfl, rfl⟩ := Grammar.symbol_some point
    obtain ⟨left, word, rfl⟩ := Grammar.ident_some ident
    have behind := (((h.here rfl).cons rfl).dropGap.starts.word word).dropGap
    obtain ⟨left, same, rfl⟩ := Grammar.symbol_some opening
    rw [same] at behind
    have inside := ((behind.here rfl).cons rfl).dropGap
    exact held_grouped (bounds.arguments pays advances inside arguments)
  · obtain ⟨wanted, named, rfl, -⟩ := Grammar.property_some property
    exact nofun

theorem Bounds.operand {operand : Operand} (h : Leads depth negations tokens text)
    (reads : Reads (Grammar.operandWithSigns inner) text operand rest) :
    Holds maxNesting depth (negations + operand.signs.length) operand.term.leaves := by
  obtain ⟨first, chain, begun, followed, whole, signs, primary, suffixes⟩ :=
    Grammar.operand_some advances reads
  obtain ⟨tokens, begins⟩ := Size.Leads.signs signs h
  have holds := bounds.primary begins primary
  obtain ⟨-, after⟩ := pays.primary begins.starts primary
  have kept {tokens text s rest} (h : AllowsAfter depth tokens text)
      (reads : Reads (Query.suffix inner) text s rest) :
      (∀ leaf ∈ s.leaves, depth + leaf.held ≤ maxNesting) ∧
        AllowsAfter depth (tokens + s.height) rest :=
    ⟨bounds.suffix pays advances h reads, (pays.suffix advances h reads).2⟩
  obtain ⟨others, -⟩ := suffixes.pays kept after
  rw [whole]
  exact Grammar.Suffix.holds_foldl first chain holds others

theorem Bounds.link {link : Link} (h : AllowsAfter depth tokens text)
    (reads : Reads (Grammar.link inner) text link rest) :
    link.operand.Holds maxNesting depth := by
  obtain ⟨mid, operator, operand⟩ := Grammar.link_some reads
  have holds := bounds.operand pays advances (h.operator operator).leads operand
  rwa [Nat.zero_add] at holds

theorem Bounds.row : Bounds (Grammar.row inner) := by
  intro depth negations tokens text term rest h reads
  obtain ⟨first, links, mid, rfl, operand, others⟩ := Grammar.row_some advances reads
  have holds := bounds.operand pays advances h operand
  obtain ⟨-, after⟩ := pays.operand advances h.starts operand
  have link {tokens text link rest} (h : AllowsAfter depth tokens text)
      (reads : Reads (Grammar.link inner) text link rest) :
      link.operand.Holds maxNesting depth ∧ AllowsAfter depth (tokens + link.height) rest :=
    ⟨bounds.link pays advances h reads, (pays.link advances h reads).2⟩
  obtain ⟨later, -⟩ := others.pays link after
  exact Precedence.holds_group holds later

end

theorem bounds_expr (depth : Nat) : Bounds (Grammar.expr depth) := by
  induction depth with
  | zero => exact fun _ reads => by cases reads
  | succ depth ih => exact ih.row (pays_expr depth) (Grammar.takes_expr depth)

-- ---------------------------------------------------------------------------
-- Queries
-- ---------------------------------------------------------------------------

/-- For every leaf of what is parsed, the groups and argument lists around it and the negations
stacked on it keep the limit. So the limit also holds for all negations that it is under, unless
something else than signs and opening parentheses parts some of them from it. -/
theorem parse_stacks (parsed : parse text = .ok e) :
    ∃ term, Grammar.parse text = .ok term ∧ term.resolve = .ok e ∧
      e.negations.Sublist (term.leaves.map Leaf.negations) ∧
      ∀ leaf ∈ term.leaves, leaf.groups + leaf.stacked ≤ maxNesting ∧
        leaf.groups + leaf.negations ≤ maxNesting + leaf.parted := by
  obtain ⟨_, checked, parsed⟩ := bind_ok parsed
  obtain ⟨term, written, resolved⟩ := bind_ok parsed
  have reads := Grammar.parse_iff.mp written
  have begins : Allows 0 0 text.toList := ⟨Nat.zero_le _, Nat.zero_le _, 0, checked⟩
  have holds := bounds_expr _ begins.dropGap.starts.leads reads
  refine ⟨term, written, resolved, term.negations_resolve resolved, fun leaf hl => ?_⟩
  have fits := holds.all leaf hl
  simp only [Leaf.held, Leaf.negations] at fits ⊢
  omega

def underSigns : Nat → Expr → Expr
  | 0, e => e
  | n + 1, e => .not (underSigns n e)

/-- The signs in front of the group are forgotten at the first name, where it is still open. -/
def recounted : String :=
  "!!!!!!!!!!!!!!!!!!!!!!!!!!!!!!!!(hidden&&!!!!!!!!!!!!!!!!!!!!!!!!!!!!!!!!hidden)"

def recountedTree : Expr := underSigns 32 (.and (.field .hidden) (underSigns 32 (.field .hidden)))

theorem parse_recounted : parse recounted = .ok recountedTree := by decide +kernel

theorem parse_stacks_recounted :
    parse recounted = .ok recountedTree ∧
      ∃ term, Grammar.parse recounted = .ok term ∧ term.resolve = .ok recountedTree ∧
        recountedTree.negations.Sublist (term.leaves.map Leaf.negations) ∧
        ∀ leaf ∈ term.leaves, leaf.groups + leaf.stacked ≤ maxNesting ∧
          leaf.groups + leaf.negations ≤ maxNesting + leaf.parted :=
  ⟨parse_recounted, parse_stacks parse_recounted⟩

/-- The second name is in a group and under as many negations as the limit lets alone. -/
theorem negations_beyond_limit :
    parse recounted = .ok recountedTree ∧ recountedTree.negations = [32, 64] ∧
      ∃ term, Grammar.parse recounted = .ok term ∧ term.resolve = .ok recountedTree ∧
        ∃ leaf ∈ term.leaves, leaf.groups = 1 ∧ leaf.negations = 64 ∧
          maxNesting < leaf.groups + leaf.negations := by
  have leaves : (Grammar.parse recounted).map Term.leaves = .ok [⟨1, 32, 0⟩, ⟨1, 32, 32⟩] := by
    decide +kernel
  obtain ⟨_, -, made⟩ := bind_ok parse_recounted
  obtain ⟨term, written, resolved⟩ := bind_ok made
  rw [written] at leaves
  have split : term.leaves = [⟨1, 32, 0⟩, ⟨1, 32, 32⟩] := Except.ok.inj leaves
  refine ⟨parse_recounted, rfl, term, written, resolved, ⟨1, 32, 32⟩, ?_, rfl, rfl, by decide⟩
  rw [split]
  exact List.mem_cons_of_mem _ List.mem_cons_self

end RefViewer.Query
