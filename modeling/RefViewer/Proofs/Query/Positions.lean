import RefViewer.Proofs.Query.Completion
import RefViewer.Query.Compiled

/-!
# Positions of syntax errors

A syntax error is reported at a line and a column. They denote one place of the text, and the text
before that place could still have become a query: what is wrong does not stand further left.
-/

namespace RefViewer.Query

open Reader
open Grammar (Closing)

-- ---------------------------------------------------------------------------
-- Lines and columns
-- ---------------------------------------------------------------------------

/-- The position is that of the place behind `before`: line feeds end lines, and columns count the
characters of a line. -/
structure Denotes (text : String) (position : Position) (before : List Char) : Prop where
  within : before <+: text.toList
  line : position.line = before.count '\n' + 1
  column : position.column = (before.reverse.takeWhile (· ≠ '\n')).length + 1

def Position.Before (p q : Position) : Prop :=
  p.line < q.line ∨ (p.line = q.line ∧ p.column < q.column)

theorem Position.Before.trans {o p q : Position} (first : o.Before p) (second : p.Before q) :
    o.Before q := by
  unfold Before at *
  omega

def Position.next (position : Position) (c : Char) : Position :=
  if c = '\n' then ⟨position.line + 1, 1⟩ else ⟨position.line, position.column + 1⟩

theorem Position.before_next (position : Position) (c : Char) :
    position.Before (position.next c) := by
  unfold Before next
  split
  · exact .inl (Nat.lt_succ_self _)
  · exact .inr ⟨rfl, Nat.lt_succ_self _⟩

theorem positionAfter_concat (before : List Char) (c : Char) :
    Grammar.positionAfter (before ++ [c]) = (Grammar.positionAfter before).next c :=
  List.foldl_append

theorem before_positionAfter (before : List Char) (given : more ≠ []) :
    (Grammar.positionAfter before).Before (Grammar.positionAfter (before ++ more)) := by
  induction more generalizing before with
  | nil => exact absurd rfl given
  | cons c more ih =>
    have step := Position.before_next (Grammar.positionAfter before) c
    rw [← positionAfter_concat] at step
    by_cases last : more = []
    · rw [last]
      exact step
    · have later := ih (before ++ [c]) last
      rw [List.append_assoc] at later
      exact step.trans later

theorem positionAfter_reverse (before : List Char) :
    Grammar.positionAfter before.reverse =
      ⟨before.count '\n' + 1, (before.takeWhile (· ≠ '\n')).length + 1⟩ := by
  induction before with
  | nil => rfl
  | cons c before ih =>
    rw [List.reverse_cons, positionAfter_concat, ih, Position.next]
    by_cases feed : c = '\n'
    · subst feed
      simp
    · simp [feed]

theorem denotes_iff {text : String} :
    Denotes text position before ↔
      before <+: text.toList ∧ position = Grammar.positionAfter before := by
  have place := positionAfter_reverse before.reverse
  rw [List.reverse_reverse, List.count_reverse] at place
  constructor
  · intro denotes
    refine ⟨denotes.within, ?_⟩
    rw [place, ← denotes.line, ← denotes.column]
  · rintro ⟨within, rfl⟩
    rw [place]
    exact ⟨within, rfl, rfl⟩

theorem Denotes.unique (here : Denotes text position before)
    (there : Denotes text position other) : other = before := by
  obtain ⟨within, same⟩ := denotes_iff.mp here
  obtain ⟨withinOther, sameOther⟩ := denotes_iff.mp there
  have noMore {front more : List Char} (same : Grammar.positionAfter front =
      Grammar.positionAfter (front ++ more)) : more = [] := by
    refine Decidable.byContradiction fun given => ?_
    have step := before_positionAfter front given
    rw [← same] at step
    unfold Position.Before at step
    omega
  rcases List.prefix_or_prefix_of_prefix within withinOther with ⟨more, rfl⟩ | ⟨more, rfl⟩
  · rw [noMore (same.symm.trans sameOther), List.append_nil]
  · rw [noMore (sameOther.symm.trans same), List.append_nil]

-- ---------------------------------------------------------------------------
-- Queries
-- ---------------------------------------------------------------------------

/-- Some text that begins like this is in the grammar. -/
def Viable (front : List Char) : Prop :=
  ∃ more term, Grammar.parse (.ofList (front ++ more)) = .ok term

theorem Viable.take (viable : Viable (front ++ behind)) : Viable front := by
  obtain ⟨more, term, parsed⟩ := viable
  rw [List.append_assoc] at parsed
  exact ⟨behind ++ more, term, parsed⟩

def whole (depth : Nat) : Reader Term := do
  let term ← Grammar.expr depth
  Grammar.endOfInput
  pure term

theorem completable_whole (depth : Nat) : Completable (· = []) (whole depth) (whole depth) := by
  have stop : Reads Grammar.endOfInput [] () [] := rfl
  have steady := (resumes_expr (Nat.le_refl depth)).steady
  have ending : Completable (· = []) Grammar.endOfInput Grammar.endOfInput := by
    refine .named .endOfInput ⟨fun _ missed => absurd rfl missed.1⟩ (completes_nil [] ?_)
    intro tail ended
    rw [List.nil_append, ended]
    exact ⟨(), stop⟩
  refine .bind steady ((completable_expr (Nat.le_refl depth)).imp fun completes =>
    completes.bind [] fun tail ended => ?_)
    (fun term => ending.mapped (fun _ => term) (fun _ => term)) ?_
  · rw [List.nil_append, ended]
    exact ⟨.stop, fun term => ⟨term, stop.bind (reads_pure term [])⟩⟩
  · intro term text _ rest reads _
    obtain ⟨_, mid, stopped, -⟩ := Reads.of_bind reads
    rw [Grammar.endOfInput_some stopped]
    exact .stop

theorem tells_whole (depth : Nat) : Tells (whole (depth + 1)) :=
  (tells_named .expr _).bind fun _ => (tells_named .endOfInput _).bind fun _ => tells_pure _

theorem query_whole (text : List Char) :
    Grammar.query text = (do skipGap; whole (text.length + 1) : Reader Term) text :=
  Grammar.query_eq text

theorem dropGap_blanks (count : Nat) : (List.replicate count ' ').dropWhile isGap = [] := by
  induction count with
  | zero => rfl
  | succ count ih => rwa [List.replicate_succ, List.dropWhile_cons_of_pos rfl]

/-- Blanks behind an expression make room for the depth that its reader allows. -/
theorem viable_of_whole {gap u w : List Char} (gaps : ∀ c ∈ gap, isGap c = true)
    (reads : Reads (whole depth) (resume u w) term []) : Viable (gap ++ u) := by
  obtain ⟨read, rest, expr, reads⟩ := Reads.of_bind reads
  obtain ⟨_, _, stopped, -⟩ := Reads.of_bind reads
  obtain rfl := Grammar.endOfInput_some stopped
  have blanks := dropGap_blanks (depth + 1)
  refine ⟨w ++ List.replicate (depth + 1) ' ', read, ?_⟩
  have start : (gap ++ u ++ (w ++ List.replicate (depth + 1) ' ')).dropWhile isGap =
      resume (resume u w) (List.replicate (depth + 1) ' ') := by
    rw [List.append_assoc, List.dropWhile_append_of_pos gaps, resume.eq_def u w, resume_dropGap,
      resume, List.append_assoc]
  have room : depth ≤ (gap ++ u ++ (w ++ List.replicate (depth + 1) ' ')).length + 1 := by
    simp only [List.length_append, List.length_replicate]
    omega
  have closing : Closing ((List.replicate (depth + 1) ' ').dropWhile isGap) := by
    rw [blanks]
    exact .stop
  have again := reads_whole room .blank closing (solid_dropGap _) expr
  rw [Grammar.parse_iff, String.toList_ofList, start]
  rwa [← List.replicate_succ, blanks] at again

/-- The furthest miss of a text that is no query has a viable text before it. -/
theorem viable_of_refuses (refuses : Refuses Grammar.query text) :
    ∃ before behind, before ++ behind = text ∧
      behind.length = (Grammar.query text).misses.left ∧ Viable before := by
  rw [Refuses, query_whole] at refuses
  rw [query_whole]
  have rules := (tells_skipGap.bind fun _ => tells_whole text.length).missed refuses
  rcases MissesAt.of_bind ⟨rules, rfl⟩ with missed | ⟨_, begun, gap, missed⟩
  · exact absurd missed silent_skipGap.never
  · cases gap
    obtain ⟨u, behind, front, length, -, w, reads⟩ :=
      (completable_whole (text.length + 1)).complete (solid_dropGap text) missed
    obtain ⟨term, read⟩ := reads [] rfl
    rw [List.append_nil] at read
    refine ⟨text.takeWhile isGap ++ u, behind, ?_, length, ?_⟩
    · rw [List.append_assoc, front, List.takeWhile_append_dropWhile]
    · exact viable_of_whole (fun c hc => List.mem_takeWhile_imp hc) read

theorem parse_refused (refuses : Refuses Grammar.query text.toList) :
    Grammar.parse text =
      .error (Grammar.syntaxError text.toList (Grammar.query text.toList).misses) := by
  unfold Grammar.parse
  rcases query : Grammar.query text.toList with ⟨outcome, misses⟩
  rw [Refuses, query] at refuses
  subst refuses
  rfl

/-- A text that is no query is reported at a place of it, and the text before could still have
become a query. So what cannot be continued in any way goes on behind that place. -/
theorem syntax_error_viable (fits : Size.check text = .ok ())
    (foreign : ∀ term, Grammar.parse text ≠ .ok term) :
    ∃ position expected before,
      parse text = .error (.syntaxAt position expected) ∧ Denotes text position before ∧
      (∀ other, Denotes text position other → other = before) ∧ Viable before ∧
      ∀ wrong, wrong <+: text.toList → ¬ Viable wrong → before.length < wrong.length := by
  have refuses : Refuses Grammar.query text.toList := by
    rcases reads_or_refuses Grammar.query text.toList with ⟨term, rest, reads⟩ | none
    · exact absurd (Grammar.parse_iff.mpr (Grammar.query_iff.mp reads).1) (foreign term)
    · exact none
  obtain ⟨before, behind, front, length, viable⟩ := viable_of_refuses refuses
  have error := parse_refused refuses
  have place : text.toList.take (text.toList.length - (Grammar.query text.toList).misses.left) =
      before := by
    rw [← length, ← front, List.length_append, Nat.add_sub_cancel, List.take_left]
  rw [Grammar.syntaxError, place] at error
  have denotes : Denotes text (Grammar.positionAfter before) before :=
    denotes_iff.mpr ⟨⟨behind, front⟩, rfl⟩
  have reported : parse text = .error (.syntaxAt (Grammar.positionAfter before)
      (Rule.sorted (Grammar.query text.toList).misses.rules)) := by
    rw [parse, fits, error]
    rfl
  refine ⟨_, _, before, reported, denotes, fun _ => denotes.unique, viable, ?_⟩
  intro wrong within hopeless
  refine Nat.lt_of_not_le fun le => ?_
  obtain ⟨more, rfl⟩ := List.prefix_of_prefix_length_le within ⟨behind, front⟩ le
  exact hopeless viable.take

/-- What is wrong with an open parenthesis shows behind the end of the text. -/
theorem syntax_error_viable_unclosed :
    Size.check "(deprecated && hidden" = .ok () ∧
      (∀ term, Grammar.parse "(deprecated && hidden" ≠ .ok term) ∧
      parse "(deprecated && hidden" = .error (.syntaxAt ⟨1, 22⟩ [.or, .and, .eq, .ne,
        .le, .ge, .lt, .gt, .contains, .startsWith, .endsWith, .matches, .call, .property]) ∧
      ∃ before, Denotes "(deprecated && hidden" ⟨1, 22⟩ before ∧ Viable before := by
  have fits : Size.check "(deprecated && hidden" = .ok () := by decide +kernel
  have foreign : ∀ term, Grammar.parse "(deprecated && hidden" ≠ .ok term := by
    have failed : (Grammar.parse "(deprecated && hidden").toOption.isNone = true := by
      decide +kernel
    intro term same
    rw [same] at failed
    cases failed
  obtain ⟨position, expected, before, reported, denotes, -, viable, -⟩ :=
    syntax_error_viable fits foreign
  have computed : parse "(deprecated && hidden" = .error (.syntaxAt ⟨1, 22⟩ [.or, .and, .eq, .ne,
      .le, .ge, .lt, .gt, .contains, .startsWith, .endsWith, .matches, .call, .property]) := by
    decide +kernel
  cases reported.symm.trans computed
  exact ⟨fits, foreign, computed, before, denotes, viable⟩

end RefViewer.Query
