import RefViewer.Proofs.Query.Cuts
import RefViewer.Proofs.Query.Rows

/-!
# Reading expressions on behind a cut

The readers of the grammar read in front of a cut what they read there before. An operand must not
be continued behind the cut, and a row must be closed; then a reader of greater depth does the same.
-/

namespace RefViewer.Query

open Reader
open Grammar (Closing)

namespace Grammar

-- ---------------------------------------------------------------------------
-- Single tokens
-- ---------------------------------------------------------------------------

theorem steady_token {take : List Char → Option (α × List Char)} (rule : Rule) (h : Settled take) :
    Steady E (token rule take) (token rule take) :=
  h.lexeme.named rule

theorem steady_symbol (expected : String) (given : expected.toList ≠ []) :
    Steady E (symbol expected) (symbol expected) :=
  (settled_text given).lexeme

theorem steady_ident : Steady E ident ident := steady_token .ident byWord_name.settled

theorem steady_notBefore (c : Char) :
    Steady (fun rest => rest.head? ≠ some c) (notBefore c) (notBefore c) where
  forward solid reads := by
    obtain ⟨-, rfl⟩ := Reads.of_notBefore reads
    exact ⟨List.suffix_refl _, solid⟩
  reads _ _ _ reads ended := by
    obtain ⟨-, same⟩ := Reads.of_notBefore reads
    rw [List.append_cancel_right same]
    exact reads_notBefore ended

theorem steady_sign : Steady E sign sign := by
  have bang := steady_token (E := E) .bang settled_bang
  have not := steady_token (E := E) .not (byWord_keyword "not" rfl (by decide)).settled
  refine .or (bang.map fun _ => Sign.bang) (not.map fun _ => Sign.not) fun reads _ => ?_
  obtain ⟨_, read, -⟩ := Reads.of_map reads
  obtain ⟨left, taken, -⟩ := token_some read
  have letter := ((byWord_keyword "not" rfl (by decide)).takesWord taken).head
  refine (refuses_token .bang (takeBang_none fun bang => ?_)).map _
  rw [bang] at letter
  cases letter

theorem steady_signs : Steady (Refuses sign) (many sign) (many sign) :=
  (steady_sign (E := Anywhere)).many takes_sign takes_sign (fun _ => trivial)
    fun refused => ⟨refused, trivial⟩

theorem resume_signs (steps : Steps sign (u ++ v) given (left ++ v)) (solid : Solid (u ++ v))
    (behind : Solid v) (breaks : Breaks r) (refuses : Refuses sign (resume left r)) :
    Reads (many sign) (resume u r) given (resume left r) := by
  obtain ⟨again, -⟩ := (steady_sign (E := Anywhere)).steps takes_sign (fun _ => trivial)
    behind breaks trivial steps rfl rfl solid
  have repeats := again.repeats (.stop refuses)
  rw [List.append_nil] at repeats
  exact repeats.many

-- ---------------------------------------------------------------------------
-- One of several words
-- ---------------------------------------------------------------------------

/-- A reader that also refuses what it refused, where no word goes across the cut. -/
structure Keeps (E : List Char → Prop) (p : Reader α) : Prop extends Steady E p p where
  refuses : ∀ {c u v r}, Breaks r → Solid (c :: u ++ v) → WordKept (c :: u) v →
    Refuses p (c :: u ++ v) → Refuses p (resume (c :: u) r)

theorem keeps_token {take : List Char → Option (α × List Char)} (rule : Rule)
    (kept : Kept take) : Keeps E (token rule take) where
  toSteady := steady_token rule kept.toSettled
  refuses {c u v r} breaks solid word refuses := by
    have refused : take (c :: u ++ v) = none := by
      have none := (named_outcome rule (lexeme take) _).symm.trans refuses
      simpa only [lexeme, Option.map_eq_none_iff] using none
    rw [resume_cons solid]
    exact refuses_token rule (kept.refuse breaks word refused)

theorem Keeps.map {p : Reader α} (f : α → β) (h : Keeps E p) : Keeps E (f <$> p) where
  toSteady := h.toSteady.map f
  refuses {c u v r} breaks solid word refuses := by
    refine (h.refuses breaks solid word ?_).map f
    rcases reads_or_refuses p (c :: u ++ v) with ⟨a, rest, reads⟩ | none
    · exact absurd refuses (reads.map f).not_refuses
    · exact none

theorem keeps_firstOf {readers : List (Reader α)} (each : ∀ p ∈ readers, Keeps E p)
    (word : ∀ {u v a left}, Solid v → Reads (firstOf readers) (u ++ v) a (left ++ v) →
      u ≠ [] ∧ WordKept u v) : Steady E (firstOf readers) (firstOf readers) where
  forward solid reads := by
    obtain ⟨p, hp, reads⟩ := Reads.of_firstOf reads
    exact (each p hp).forward solid reads
  reads {u v a left r} breaks solid behind reads ended := by
    obtain ⟨given, kept⟩ := word behind reads
    obtain ⟨c, u, rfl⟩ := List.exists_cons_of_ne_nil given
    refine reads.firstOf_of fun p hp => ⟨(each p hp).refuses breaks solid kept, fun a reads => ?_⟩
    exact (each p hp).reads breaks solid behind reads ended

theorem TakesWord.across (solid : Solid v) (taken : TakesWord (u ++ v) after)
    (gap : after.dropWhile isGap = left ++ v) : u ≠ [] ∧ WordKept u v := by
  obtain ⟨l, rfl, -⟩ := cut_dropGap solid gap
  refine ⟨?_, taken.cut.1⟩
  rintro rfl
  have shorter := taken.shorter
  simp only [List.nil_append, List.length_append] at shorter
  omega

theorem leadingWord_symbol (known : written ∈ symbols) (rest : List Char) :
    leadingWord (written.toList ++ rest) = [] := by
  have first : ∀ written ∈ symbols, written.toList.head?.any (!isNameChar ·) = true := by decide
  have other := first written known
  cases text : written.toList with
  | nil =>
    rw [text] at other
    cases other
  | cons c more =>
    rw [text, List.head?_cons, Option.any_some, Bool.not_eq_true'] at other
    exact List.takeWhile_cons_of_neg (by rw [other]; decide)

theorem operator_across (solid : Solid v) (reads : Reads operator (u ++ v) op (left ++ v)) :
    u ≠ [] ∧ WordKept u v := by
  obtain ⟨after, word | ⟨written, known, whole⟩, gap⟩ := operator_some reads
  · exact word.across solid gap
  · obtain ⟨l, rfl, -⟩ := cut_dropGap solid gap
    rw [← List.append_assoc] at whole
    obtain rfl := List.append_cancel_right whole
    have given : ∀ written ∈ symbols, written.toList ≠ [] := by decide
    refine ⟨List.append_ne_nil_of_left_ne_nil (given written known) l, ?_⟩
    rw [WordKept, List.append_assoc, leadingWord_symbol known, leadingWord_symbol known]

theorem OperatorTake.kept (way : OperatorTake op take) : Kept take := by
  have given : ∀ written ∈ symbols, written.toList ≠ [] := by decide
  have apart {written : String} (known : written ∈ symbols) : Apart written.toList := by
    have blank : ∀ written ∈ symbols, ' ' ∉ written.toList := by decide
    have parenthesis : ∀ written ∈ symbols, ')' ∉ written.toList := by decide
    exact ⟨blank written known, parenthesis written known⟩
  induction way with
  | symbol _ known => exact kept_text (given _ known) (apart known)
  | word _ letters given => exact (byWord_keyword _ letters given).kept
  | symbolOr _ known _ ih => exact kept_textOr (given _ known) (apart known) ih

theorem steady_operator : Steady E operator operator := by
  obtain ⟨readers, eq, each⟩ := operator_readers
  rw [eq]
  refine keeps_firstOf (fun p hp => ?_) fun solid reads => ?_
  · obtain ⟨op, rule, take, rfl, way⟩ := each p hp
    exact (keeps_token rule way.kept).map fun _ => op
  · rw [← eq] at reads
    exact operator_across solid reads

-- ---------------------------------------------------------------------------
-- Words as operands
-- ---------------------------------------------------------------------------

theorem head_ne_of_test {test : Char → Bool} {text : List Char} {c : Char}
    (head : text.head?.any test = true) (other : test c = false) : text.head? ≠ some c := by
  intro same
  rw [same, Option.any_some, other] at head
  cases head

theorem head_digit_of_start {text : List Char} (start : text.head?.any isNameStart = true) :
    text.head?.any Char.isDigit = false := by
  cases text with
  | nil => rfl
  | cons c text => exact isDigit_of_isNameStart start

theorem steady_word : Steady E word word := by
  have null := (byWord_word "null" rfl (by decide)).kept
  refine keeps_firstOf (fun p hp => ?_) fun {u v a left} solid reads => ?_
  · simp only [List.mem_cons, List.not_mem_nil, or_false] at hp
    rcases hp with rfl | rfl | rfl
    · exact keeps_token .boolean byWord_boolean.kept
    · exact (keeps_token .null null).map fun _ => Term.null
    · exact (keeps_token .ident byWord_name.kept).map Term.name
  · obtain ⟨after, taken, gap, -⟩ := word_some reads
    exact taken.across solid gap

end Grammar

-- ---------------------------------------------------------------------------
-- Where arguments and operands end
-- ---------------------------------------------------------------------------

theorem Grammar.head_symbol {expected : String} (reads : Reads (symbol expected) text u rest)
    (first : expected.toList.head? = some c) : text.head? = some c := by
  obtain ⟨left, rfl, -⟩ := Grammar.symbol_some reads
  rw [List.head?_append, first, Option.some_or]

theorem Grammar.Closing.of_head (head : text.head? = some ')') : Closing text := by
  obtain ⟨left, rfl⟩ := List.head?_eq_some_iff.mp head
  exact .parenthesis

theorem refuses_comma (p : Reader α) (head : text.head? = some ')') :
    Refuses (do symbol ","; p) text := by
  obtain ⟨left, rfl⟩ := List.head?_eq_some_iff.mp head
  exact Refuses.bind _ rfl

theorem closing_of_comma {p : Reader α} (reads : Reads (do symbol ","; p) text a rest) :
    Closing text := by
  obtain ⟨_, mid, comma, -⟩ := Reads.of_bind reads
  obtain ⟨left, rfl⟩ := List.head?_eq_some_iff.mp (Grammar.head_symbol comma rfl)
  exact .comma

structure Over (text : List Char) : Prop where
  noPoint : text.head? ≠ some '.'
  noOpening : text.head? ≠ some '('

theorem over_of_closing (closing : Closing text) : Over text := by
  cases closing <;> exact ⟨by simp, by simp⟩

theorem noArguments_of_suffix {inner : Reader Term} (reads : Reads (suffix inner) text x rest) :
    text.head? ≠ some '(' := by
  intro opening
  obtain ⟨left, rfl⟩ := List.head?_eq_some_iff.mp opening
  exact Reads.not_refuses reads rfl

theorem over_of_operator (reads : Reads Grammar.operator text op rest) : Over text := by
  refine ⟨fun point => ?_, fun opening => ?_⟩
  · obtain ⟨left, rfl⟩ := List.head?_eq_some_iff.mp point
    exact Reads.not_refuses reads rfl
  · obtain ⟨left, rfl⟩ := List.head?_eq_some_iff.mp opening
    exact Reads.not_refuses reads rfl

theorem over_of_link {inner : Reader Term} (reads : Reads (Grammar.link inner) text x rest) :
    Over text := by
  obtain ⟨mid, operator, -⟩ := Grammar.link_some reads
  exact over_of_operator operator

-- ---------------------------------------------------------------------------
-- Operands
-- ---------------------------------------------------------------------------

/-- In front of a cut `deeper` reads the expressions that `inner` read there, provided that they are
closed behind it. Neither reads an expression out of nothing. -/
structure Resumes (inner deeper : Reader Term) : Prop where
  steady : Steady Closing inner deeper
  refuses : ∀ rest, Refuses deeper (')' :: rest)
  before : Takes 1 inner
  after : Takes 1 deeper

theorem Grammar.TakesValue.word_or_begins (taken : Grammar.TakesValue text term left) :
    Grammar.TakesWord text left ∨
      ∃ c, text.head? = some c ∧ ∀ more, Begins (c :: more) := by
  cases taken with
  | number token =>
    right
    cases token with
    | plain unsigned =>
      obtain ⟨c, rest, rfl, digit⟩ := unsigned.head
      exact ⟨c, rfl, Begins.digit digit⟩
    | negative _ => exact ⟨'-', rfl, Begins.plain (by decide)⟩
  | @string quote _ _ _ =>
    right
    cases quote
    · exact ⟨'"', rfl, Begins.plain (by decide)⟩
    · exact ⟨'\'', rfl, Begins.plain (by decide)⟩
  | boolean _ word | null word | name _ word => exact .inl word

section

variable {inner deeper : Reader Term} (resumes : Resumes inner deeper)
include resumes

theorem Resumes.grouped : Steady E (Grammar.grouped inner) (Grammar.grouped deeper) := by
  have opening := Grammar.steady_symbol (E := Anywhere) "(" (by decide)
  have closing := Grammar.steady_symbol (E := E) ")" (by decide)
  refine opening.andThen fun _ => resumes.steady.bind (fun term =>
    closing.map fun _ => Term.group term) fun reads _ => ?_
  obtain ⟨_, closed, -⟩ := Reads.of_map reads
  exact .of_head (Grammar.head_symbol closed rfl)

theorem Resumes.primary : Steady E (Grammar.primary inner) (Grammar.primary deeper) := by
  have number := (Grammar.steady_token (E := E) .number Grammar.settled_number).map Term.number
  have string := (Grammar.steady_token (E := E) .string Grammar.settled_string).map Term.string
  refine resumes.grouped.or (number.or (string.or Grammar.steady_word ?_) ?_) ?_
  · intro text term rest reads _
    obtain ⟨_, -, -, start⟩ := Grammar.word_some reads
    have noString := Grammar.takeString_none (Grammar.head_ne_of_test start rfl)
      (Grammar.head_ne_of_test start rfl)
    exact (Grammar.refuses_token .string noString).map _
  · intro text term rest reads _
    have noNumber : Grammar.takeNumber text = none := by
      rcases Reads.of_or reads with string | ⟨-, word⟩
      · obtain ⟨_, read, -⟩ := Reads.of_map string
        obtain ⟨left, taken, -⟩ := Grammar.token_some read
        obtain ⟨quote, -, rfl⟩ := Grammar.takeString_some taken
        cases quote <;> rfl
      · obtain ⟨_, -, -, start⟩ := Grammar.word_some word
        exact Grammar.takeNumber_none (Grammar.head_digit_of_start start)
          (Grammar.head_ne_of_test start rfl)
    exact (Grammar.refuses_token .number noNumber).map _
  · intro text term rest reads _
    refine refuses_grouped deeper fun opening => ?_
    obtain ⟨left, rfl⟩ := List.head?_eq_some_iff.mp opening
    exact Reads.not_refuses reads rfl

/-- Where the value stands that was read, there is no sign: a value that is no word does not begin
like one, and a word is still the same. -/
theorem Resumes.refuses_sign (breaks : Breaks r) (solid : Solid (u ++ v)) (behind : Solid v)
    (refused : Refuses Grammar.sign (u ++ v))
    (reads : Reads (Grammar.primary inner) (u ++ v) term (left ++ v)) :
    Refuses Grammar.sign (resume u r) := by
  have shorter := (Grammar.takes_primary resumes.before).length_le reads
  cases u with
  | nil =>
    simp only [List.nil_append, List.length_append] at shorter
    omega
  | cons c u =>
    rw [resume_cons solid]
    rcases Grammar.primary_some reads with grouped | ⟨after, taken, gap⟩
    · obtain ⟨_, _, _, -, opening, -⟩ := Grammar.grouped_some grouped
      obtain rfl := Option.some.inj (Grammar.head_symbol opening rfl)
      exact (Begins.plain (by decide) _).noSign
    · rcases taken.word_or_begins with word | ⟨d, head, begins⟩
      · have kept := (word.across behind gap).2
        have letter := word.head
        refine Grammar.refuses_sign (Grammar.head_ne_of_test letter rfl) ?_
        rw [← List.cons_append, Grammar.leadingWord_breaks breaks, ← kept]
        exact Grammar.refuses_sign_word refused
      · obtain rfl := Option.some.inj head
        exact (begins _).noSign

-- ---------------------------------------------------------------------------
-- Calls and properties
-- ---------------------------------------------------------------------------

theorem Resumes.comma :
    Steady Closing (do symbol ","; inner) (do symbol ","; deeper) := by
  have comma := Grammar.steady_symbol (E := Anywhere) "," (by decide)
  exact comma.andThen fun _ => resumes.steady

theorem Resumes.commas :
    Steady (·.head? = some ')') (many do symbol ","; inner) (many do symbol ","; deeper) := by
  refine resumes.comma.many (Grammar.takes_comma resumes.before)
    (Grammar.takes_comma resumes.after) closing_of_comma fun ended => ?_
  exact ⟨refuses_comma deeper ended, .of_head ended⟩

theorem Resumes.arguments :
    Steady (·.head? = some ')') (Grammar.arguments inner) (Grammar.arguments deeper) := by
  refine .or (resumes.steady.bind (fun first => resumes.commas.map (first :: ·))
    fun reads ended => ?_) (steady_pure []) fun reads ended => ?_
  · obtain ⟨terms, reads, -⟩ := Reads.of_map reads
    exact ((Grammar.takes_comma resumes.after).of_many reads).begins closing_of_comma
      (.of_head ended)
  · obtain ⟨-, rfl⟩ := Reads.of_pure reads
    obtain ⟨left, rfl⟩ := List.head?_eq_some_iff.mp ended
    exact (resumes.refuses left).bind _

theorem Resumes.call : Steady E (Grammar.call inner) (Grammar.call deeper) := by
  have point := Grammar.steady_symbol (E := Anywhere) "." (by decide)
  have opening := Grammar.steady_symbol (E := Anywhere) "(" (by decide)
  have closing := Grammar.steady_symbol (E := E) ")" (by decide)
  refine .named .call (point.andThen fun _ => Grammar.steady_ident.andThen fun method =>
    opening.andThen fun _ => resumes.arguments.bind (fun given =>
      closing.map fun _ => Grammar.Suffix.call method given) fun reads _ => ?_)
  obtain ⟨_, closed, -⟩ := Reads.of_map reads
  exact Grammar.head_symbol closed rfl

theorem Resumes.suffix :
    Steady (·.head? ≠ some '(') (suffix inner) (Query.suffix deeper) := by
  have point := Grammar.steady_symbol (E := Anywhere) "." (by decide)
  have property : Steady (·.head? ≠ some '(') Grammar.property Grammar.property :=
    .named .property (point.andThen fun _ => Grammar.steady_ident.andThen fun name =>
      (Grammar.steady_notBefore '(').map fun _ => Grammar.Suffix.property name)
  refine resumes.call.or property ?_
  intro text x rest reads ended
  obtain ⟨wanted, named, -, point, ident, -⟩ := Grammar.property_some reads
  have noOpening : Refuses (symbol "(") rest := refuses_lexeme (takeText_none '(' ended)
  exact .named .call (point.bind_refuses (ident.bind_refuses (noOpening.bind _)))

-- ---------------------------------------------------------------------------
-- Operands and rows
-- ---------------------------------------------------------------------------

theorem Resumes.suffixes :
    Steady Over (many (Query.suffix inner)) (many (Query.suffix deeper)) := by
  refine resumes.suffix.many (Grammar.takes_suffix resumes.before)
    (Grammar.takes_suffix resumes.after) noArguments_of_suffix fun ended => ?_
  exact ⟨refuses_suffix deeper ended.noPoint, ended.noOpening⟩

theorem Resumes.operand :
    Steady Over (Grammar.operandWithSigns inner) (Grammar.operandWithSigns deeper) := by
  have chain (given : List Sign) (first : Term) :=
    resumes.suffixes.map fun chain => Operand.mk given (chain.foldl Grammar.Suffix.apply first)
  refine Grammar.steady_signs.bindOf (fun given => resumes.primary.andThen (chain given)) ?_
  intro text given u v operand left r breaks solid behind before after _ _
  obtain ⟨first, followed, primary, others⟩ := Reads.of_bind after
  obtain ⟨-, solidMid⟩ := (resumes.primary (E := Anywhere)).forward solid primary
  obtain ⟨⟨more, rfl⟩, -⟩ := (chain given first).forward solidMid others
  rw [← List.append_assoc] at primary
  obtain ⟨-, refused⟩ := (Grammar.takes_sign.of_many before).steps
  exact resumes.refuses_sign breaks solid behind refused primary

theorem Resumes.link : Steady Over (Grammar.link inner) (Grammar.link deeper) :=
  Grammar.steady_operator.andThen fun op => resumes.operand.map (Link.mk op)

theorem Resumes.links :
    Steady Closing (many (Grammar.link inner)) (many (Grammar.link deeper)) :=
  resumes.link.many (Grammar.takes_link resumes.before) (Grammar.takes_link resumes.after)
    over_of_link fun closing => ⟨closing.refuses_operator.bind _, over_of_closing closing⟩

theorem Resumes.row : Steady Closing (Grammar.row inner) (Grammar.row deeper) := by
  refine .named .expr (resumes.operand.bind (fun first =>
    resumes.links.map (Precedence.group first)) fun reads closing => ?_)
  obtain ⟨links, reads, -⟩ := Reads.of_map reads
  exact ((Grammar.takes_link resumes.after).of_many reads).begins over_of_link
    (over_of_closing closing)

end

theorem resumes_expr (le : depth ≤ deeper) :
    Resumes (Grammar.expr depth) (Grammar.expr deeper) := by
  refine ⟨?_, refuses_expr deeper, Grammar.takes_expr depth, Grammar.takes_expr deeper⟩
  induction depth generalizing deeper with
  | zero => exact ⟨fun _ reads => (by cases reads), fun _ _ _ reads _ => (by cases reads)⟩
  | succ depth ih =>
    obtain ⟨deeper, rfl⟩ : ∃ n, deeper = n + 1 := ⟨deeper - 1, by omega⟩
    exact Resumes.row ⟨ih (Nat.le_of_succ_le_succ le), refuses_expr deeper,
      Grammar.takes_expr depth, Grammar.takes_expr deeper⟩

/-- What is an expression by itself is read in front of what ends it. -/
theorem reads_whole (le : depth ≤ deeper) (breaks : Breaks r) (closing : Closing (r.dropWhile isGap))
    (solid : Solid text) (reads : Reads (Grammar.expr depth) text term []) :
    Reads (Grammar.expr deeper) (resume text r) term (r.dropWhile isGap) := by
  have front : Reads (Grammar.expr depth) (text ++ []) term ([] ++ []) := by
    rwa [List.append_nil]
  rw [← List.append_nil text] at solid
  exact (resumes_expr le).steady.reads breaks solid rfl front closing

end RefViewer.Query
