import RefViewer.Proofs.Query.Resumed

/-!
# What could still have been completed

Where a reader misses, the text before that place can be gone on with so that the reader takes it.
A missing operand is an empty string, a missing name is any name, and each open parenthesis gets
closed. What was read before the place is read again.
-/

namespace RefViewer.Query

open Reader
open Grammar (Closing)

namespace Reader

variable {α β γ : Type}

-- ---------------------------------------------------------------------------
-- Completions
-- ---------------------------------------------------------------------------

/-- The text `u` goes on behind a blank so that it is taken whole, up to an end. -/
def Completes (ends : List Char → Prop) (p : Reader α) (u : List Char) : Prop :=
  ∃ w : List Char, ∀ tail : List Char, ends (tail.dropWhile isGap) →
    ∃ a, Reads p (resume u (' ' :: (w ++ tail))) a (tail.dropWhile isGap)

theorem completes_nil {p : Reader α} (w : List Char)
    (reads : ∀ tail : List Char, ends (tail.dropWhile isGap) →
      ∃ a, Reads p ((w ++ tail).dropWhile isGap) a (tail.dropWhile isGap)) :
    Completes ends p [] := by
  refine ⟨w, fun tail ended => ?_⟩
  rw [resume_nil, List.dropWhile_cons_of_pos rfl]
  exact reads tail ended

theorem Completes.imp {p : Reader α} {q : Reader β} (h : Completes E p u)
    (more : ∀ {text a rest}, Reads p text a rest → F rest → ∃ b, Reads q text b rest)
    (ends : ∀ {rest}, F rest → E rest) : Completes F q u := by
  obtain ⟨w, reads⟩ := h
  refine ⟨w, fun tail ended => ?_⟩
  obtain ⟨a, read⟩ := reads tail (ends ended)
  exact more read ended

/-- The text goes on with `w` where the first reader is done. -/
theorem Completes.bind {p : Reader α} {next : α → Reader β} (first : Completes E p u)
    (w : List Char)
    (second : ∀ tail : List Char, F (tail.dropWhile isGap) →
      E ((w ++ tail).dropWhile isGap) ∧
        ∀ a, ∃ b, Reads (next a) ((w ++ tail).dropWhile isGap) b (tail.dropWhile isGap)) :
    Completes F (p >>= next) u := by
  obtain ⟨begun, reads⟩ := first
  refine ⟨begun ++ w, fun tail ended => ?_⟩
  obtain ⟨between, later⟩ := second tail ended
  obtain ⟨a, read⟩ := reads (w ++ tail) between
  obtain ⟨b, others⟩ := later a
  rw [List.append_assoc]
  exact ⟨b, read.bind others⟩

theorem Completes.once {p : Reader α} (h : Completes E p u) (advances : Takes 1 p)
    (stops : ∀ {rest}, F rest → Refuses p rest) (ends : ∀ {rest}, F rest → E rest) :
    Completes F (many p) u :=
  h.imp (fun reads ended =>
    ⟨_, (Repeats.item reads (advances.length_le reads) (.stop (stops ended))).many⟩) ends

-- ---------------------------------------------------------------------------
-- Misses that can be completed
-- ---------------------------------------------------------------------------

/-- The text before the last `k` characters can be completed; no gap comes first among these. -/
def CompletesAt (ends : List Char → Prop) (q : Reader β) (text : List Char) (k : Nat) : Prop :=
  ∃ u v, u ++ v = text ∧ v.length = k ∧ Solid v ∧ Completes ends q u

/-- Where `p` misses, the text before can be completed to what `q` reads. -/
structure Completable (ends : List Char → Prop) (p : Reader α) (q : Reader β) : Prop where
  complete : ∀ {text k}, Solid text → MissesAt p text k → CompletesAt ends q text k

theorem Silent.completable {p : Reader α} (silent : Silent p) (q : Reader β) :
    Completable E p q :=
  ⟨fun _ missed => absurd missed silent.never⟩

theorem Completable.imp {p : Reader α} {q : Reader β} {q' : Reader γ} (h : Completable E p q)
    (more : ∀ {u}, Completes E q u → Completes F q' u) : Completable F p q' where
  complete solid missed := by
    obtain ⟨u, v, whole, length, behind, completes⟩ := h.complete solid missed
    exact ⟨u, v, whole, length, behind, more completes⟩

theorem Completable.or {p p' : Reader α} {q : Reader β} (first : Completable E p q)
    (second : Completable E p' q) : Completable E (p.or p') q where
  complete solid missed := by
    rcases MissesAt.of_or missed with missed | missed
    · exact first.complete solid missed
    · exact second.complete solid missed

theorem completable_firstOf {readers : List (Reader α)} {q : Reader β}
    (each : ∀ p ∈ readers, Completable E p q) : Completable E (firstOf readers) q where
  complete solid missed := by
    obtain ⟨p, hp, missed⟩ := MissesAt.of_firstOf missed
    exact (each p hp).complete solid missed

theorem Completable.named {p : Reader α} {q : Reader β} (rule : Rule) (h : Completable E p q)
    (empty : Completes E q []) : Completable E (Reader.named rule p) q where
  complete {text k} solid missed := by
    rcases MissesAt.of_named missed with rfl | missed
    · exact ⟨[], text, rfl, rfl, solid, empty⟩
    · exact h.complete solid missed

theorem Completable.map {p : Reader α} {q : Reader γ} (f : α → β) (h : Completable E p q) :
    Completable E (f <$> p) q where
  complete solid missed := by
    rcases MissesAt.of_bind missed with found | ⟨a, mid, -, last⟩
    · exact h.complete solid found
    · exact absurd last (silent_pure (f a)).never

theorem Completable.or_left {p : Reader α} {q : Reader β} (h : Completable E p q) (q' : Reader β) :
    Completable E p (q.or q') :=
  h.imp fun completes => completes.imp (fun reads _ => ⟨_, reads.or_left q'⟩) id

theorem Completable.mapped {p : Reader α} {q : Reader β} (h : Completable E p q) (f : α → γ)
    (g : β → γ) : Completable E (f <$> p) (g <$> q) :=
  (h.map f).imp fun completes => completes.imp (fun reads _ => ⟨_, reads.map g⟩) id

/-- What the first reader has read is read again before the completion of the second one. -/
theorem Completable.bind {p p' : Reader α} {next : α → Reader β} {next' : α → Reader γ}
    (steady : Steady E p p') (first : Completable F p (p' >>= next'))
    (second : ∀ a, Completable F (next a) (next' a))
    (meets : ∀ {a text b rest}, Reads (next' a) text b rest → F rest → E text) :
    Completable F (p >>= next) (p' >>= next') where
  complete solid missed := by
    rcases MissesAt.of_bind missed with missed | ⟨a, mid, read, found⟩
    · exact first.complete solid missed
    · obtain ⟨⟨front, rfl⟩, solidMid⟩ := steady.forward solid read
      obtain ⟨u, v, rfl, length, behind, w, reads⟩ := (second a).complete solidMid found
      rw [← List.append_assoc] at read solid ⊢
      refine ⟨front ++ u, v, rfl, length, behind, w, fun tail ended => ?_⟩
      obtain ⟨b, later⟩ := reads tail ended
      exact ⟨b, (steady.reads .blank solid behind read (meets later ended)).bind later⟩

theorem Completable.andThen {p p' : Reader α} {next : α → Reader β} {next' : α → Reader γ}
    (steady : Steady Anywhere p p') (first : Completable F p (p' >>= next'))
    (second : ∀ a, Completable F (next a) (next' a)) :
    Completable F (p >>= next) (p' >>= next') :=
  .bind steady first second fun _ _ => trivial

theorem Completable.many {p q : Reader α} (h : Completable F p (many q)) (steady : Steady E p q)
    (before : Takes 1 p) (after : Takes 1 q)
    (meets : ∀ {text a rest}, Reads q text a rest → E text)
    (ends : ∀ {rest}, F rest → E rest) : Completable F (Reader.many p) (Reader.many q) where
  complete solid missed := by
    obtain ⟨items, mid, steps, found⟩ := MissesAt.of_many before missed
    obtain ⟨⟨front, rfl⟩, solidMid⟩ := steady.steps_forward steps solid
    obtain ⟨u, v, rfl, length, behind, w, reads⟩ := h.complete solidMid found
    refine ⟨front ++ u, v, List.append_assoc front u v, length, behind, w, fun tail ended => ?_⟩
    obtain ⟨others, later⟩ := reads tail ended
    have repeats := after.of_many later
    have follows := repeats.begins meets (ends ended)
    obtain ⟨again, -⟩ := steady.steps after meets behind .blank follows steps
      (List.append_assoc front u v).symm rfl solid
    exact ⟨items ++ others, (again.repeats repeats).many⟩

end Reader

-- ---------------------------------------------------------------------------
-- Tokens
-- ---------------------------------------------------------------------------

namespace Grammar

theorem completable_token {take : List Char → Option (α × List Char)} {q : Reader β} (rule : Rule)
    (empty : Completes E q []) : Completable E (token rule take) q :=
  ((silent_lexeme take).completable q).named rule empty

/-- What can stand where an operand is missing: a group or a string. -/
def filler (inner : Reader Term) : Reader Term :=
  .or (grouped inner) (Term.string <$> token .string takeString)

theorem filler_some {inner : Reader Term} (reads : Reads (filler inner) text term rest) :
    Refuses sign text ∧ Reads (primary inner) text term rest := by
  rcases Reads.of_or reads with group | ⟨noGroup, string⟩
  · obtain ⟨_, _, _, -, opening, -⟩ := grouped_some group
    obtain ⟨left, rfl⟩ := List.head?_eq_some_iff.mp (head_symbol opening rfl)
    exact ⟨(Begins.plain (by decide) left).noSign, group.or_left _⟩
  · obtain ⟨quoted, read, -⟩ := Reads.of_map string
    obtain ⟨left, taken, -⟩ := token_some read
    obtain ⟨quote, -, rfl⟩ := takeString_some taken
    have noNumber : Refuses (Term.number <$> token .number takeNumber)
        (quote.char :: (quoted ++ quote.char :: left)) := by
      cases quote <;> rfl
    refine ⟨?_, .or_right noGroup (.or_right noNumber (string.or_left _))⟩
    cases quote <;> exact (Begins.plain (by decide) _).noSign

theorem reads_filler (inner : Reader Term) (rest : List Char) :
    Reads (filler inner) ('"' :: '"' :: rest) (.string []) (rest.dropWhile isGap) := by
  have noGroup : Refuses (grouped inner) ('"' :: '"' :: rest) := rfl
  have string : Reads (token .string takeString) ('"' :: '"' :: rest) [] (rest.dropWhile isGap) :=
    reads_token .string rfl
  exact .or_right noGroup (string.map Term.string)

theorem completes_filler (inner : Reader Term) : Completes E (filler inner) [] :=
  completes_nil ['"', '"'] fun tail _ => ⟨_, reads_filler inner tail⟩

theorem completable_sign (inner : Reader Term) : Completable E sign (filler inner) := by
  have token {take : List Char → Option (Unit × List Char)} (rule : Rule) :
      Completable E (token rule take) (filler inner) :=
    completable_token rule (completes_filler inner)
  exact ((token .bang).map fun _ => Sign.bang).or ((token .not).map fun _ => Sign.not)

theorem completable_operator {q : Reader β} (empty : Completes E q []) :
    Completable E operator q := by
  obtain ⟨readers, eq, each⟩ := operator_readers
  rw [eq]
  refine completable_firstOf fun p hp => ?_
  obtain ⟨op, rule, take, rfl, -⟩ := each p hp
  exact (completable_token rule empty).map fun _ => op

def invocation (inner : Reader Term) : Reader Suffix := do
  let method ← ident
  symbol "("
  let given ← arguments inner
  symbol ")"
  pure (.call method given)

end Grammar

-- ---------------------------------------------------------------------------
-- Operands
-- ---------------------------------------------------------------------------

theorem completes_signed (solid : Solid text) (steps : Steps Grammar.sign text given begun)
    (fills : CompletesAt Anywhere (Grammar.filler deeper) begun k) :
    CompletesAt Closing (Grammar.operandWithSigns deeper) text k := by
  obtain ⟨⟨front, rfl⟩, -⟩ := (Grammar.steady_sign (E := Anywhere)).steps_forward steps solid
  obtain ⟨u, v, rfl, length, behind, w, reads⟩ := fills
  rw [← List.append_assoc] at solid steps ⊢
  refine ⟨front ++ u, v, rfl, length, behind, w, fun tail closing => ?_⟩
  obtain ⟨term, filled⟩ := reads tail trivial
  obtain ⟨noSign, primary⟩ := Grammar.filler_some filled
  have signed := Grammar.resume_signs steps solid behind .blank noSign
  have noSuffix := refuses_suffix deeper (over_of_closing closing).noPoint
  exact ⟨_, signed.bind (primary.bind ((Repeats.stop noSuffix).many.bind (reads_pure _ _)))⟩

theorem reads_empty_string (deeper : Reader Term) (closing : Closing (rest.dropWhile isGap)) :
    Reads (Grammar.operandWithSigns deeper) ('"' :: '"' :: rest) ⟨[], .string []⟩
      (rest.dropWhile isGap) := by
  obtain ⟨noSign, primary⟩ := Grammar.filler_some (Grammar.reads_filler deeper rest)
  have noSuffix := refuses_suffix deeper (over_of_closing closing).noPoint
  exact (Repeats.stop noSign).many.bind (primary.bind
    ((Repeats.stop noSuffix).many.bind (reads_pure _ _)))

theorem completes_operand (deeper : Reader Term) :
    Completes Closing (Grammar.operandWithSigns deeper) [] :=
  completes_nil ['"', '"'] fun _ closing => ⟨_, reads_empty_string deeper closing⟩

theorem completes_link (deeper : Reader Term) : Completes Closing (Grammar.link deeper) [] := by
  refine completes_nil ['=', '=', ' ', '"', '"'] fun tail closing => ⟨⟨.eq, [], .string []⟩, ?_⟩
  have operator : Reads Grammar.operator ('=' :: '=' :: ' ' :: '"' :: '"' :: tail) .eq
      ('"' :: '"' :: tail) := Grammar.Spells.eq.reads ('"' :: '"' :: tail)
  exact operator.bind ((reads_empty_string deeper closing).bind (reads_pure _ _))

section

variable {inner deeper : Reader Term} (resumes : Resumes inner deeper)
include resumes

theorem Resumes.completes_invocation : Completes E (Grammar.invocation deeper) [] := by
  refine completes_nil ['a', '(', ')'] fun tail _ => ⟨.call "a" [], ?_⟩
  have valid : Grammar.isName "a".toList = true := rfl
  have ends : Grammar.WordEnds ('(' :: ')' :: tail) := rfl
  have name : Reads Grammar.ident ('a' :: '(' :: ')' :: tail) "a" ('(' :: ')' :: tail) :=
    reads_ident valid ends
  have opened : Reads (symbol "(") ('(' :: ')' :: tail) () (')' :: tail) := rfl
  have none : Reads (Grammar.arguments deeper) (')' :: tail) [] (')' :: tail) :=
    .or_right ((resumes.refuses tail).bind _) (reads_pure [] _)
  have closed : Reads (symbol ")") (')' :: tail) () (tail.dropWhile isGap) := reads_lexeme rfl
  exact name.bind (opened.bind (none.bind (closed.bind (reads_pure _ _))))

theorem Resumes.completes_chain (solid : Solid text)
    (signs : Reads (many Grammar.sign) text given begun)
    (value : Reads (Grammar.primary inner) begun first followed)
    (chain : CompletesAt Closing (many (Query.suffix deeper)) followed k) :
    CompletesAt Closing (Grammar.operandWithSigns deeper) text k := by
  have values := resumes.primary (E := Anywhere)
  obtain ⟨⟨front, rfl⟩, solidMid⟩ := Grammar.steady_signs.forward solid signs
  obtain ⟨⟨mid, rfl⟩, -⟩ := values.forward solidMid value
  obtain ⟨u, v, rfl, length, behind, w, reads⟩ := chain
  rw [← List.append_assoc mid] at signs value solidMid
  rw [← List.append_assoc mid, ← List.append_assoc front] at solid ⊢
  rw [← List.append_assoc front] at signs
  refine ⟨front ++ (mid ++ u), v, rfl, length, behind, w, fun tail closing => ?_⟩
  obtain ⟨suffixes, chained⟩ := reads tail closing
  obtain ⟨-, refused⟩ := (Grammar.takes_sign.of_many signs).steps
  have breaks : Breaks (' ' :: (w ++ tail)) := .blank
  have noSign := resumes.refuses_sign breaks solidMid behind refused value
  have signed := Grammar.steady_signs.reads breaks solid behind signs noSign
  have again := values.reads breaks solidMid behind value trivial
  exact ⟨_, signed.bind (again.bind (chained.bind (reads_pure _ _)))⟩

variable (completable : Completable Closing inner deeper)
include completable

theorem Resumes.completable_grouped :
    Completable E (Grammar.grouped inner) (Grammar.grouped deeper) := by
  have opening := Grammar.steady_symbol (E := Anywhere) "(" (by decide)
  refine .andThen opening ((silent_lexeme _).completable _) fun _ => .bind resumes.steady
    (completable.imp fun completes => completes.bind [')'] fun tail _ => ?_) (fun term => ?_) ?_
  · have closed : Reads (symbol ")") (')' :: tail) () (tail.dropWhile isGap) := reads_lexeme rfl
    exact ⟨.parenthesis, fun term => ⟨_, closed.bind (reads_pure (Term.group term) _)⟩⟩
  · exact ((silent_lexeme _).bind fun _ => silent_pure _).completable _
  · intro term text _ rest reads _
    obtain ⟨_, mid, closed, -⟩ := Reads.of_bind reads
    exact .of_head (Grammar.head_symbol closed rfl)

/-- A value that is missing is filled in; one that misses something is a group. -/
theorem Resumes.completable_primary :
    Completable E (Grammar.primary inner) (Grammar.filler deeper) := by
  have token {α : Type} {take : List Char → Option (α × List Char)} (rule : Rule) :
      Completable E (Grammar.token rule take) (Grammar.filler deeper) :=
    Grammar.completable_token rule (Grammar.completes_filler deeper)
  have grouped : Completable E (Grammar.grouped inner) (Grammar.filler deeper) :=
    (resumes.completable_grouped completable).imp fun completes =>
      completes.imp (fun reads _ => ⟨_, reads.or_left _⟩) id
  have word : Completable E Grammar.word (Grammar.filler deeper) := by
    refine completable_firstOf fun p hp => ?_
    simp only [List.mem_cons, List.not_mem_nil, or_false] at hp
    rcases hp with rfl | rfl | rfl
    · exact token .boolean
    · exact (token .null).map fun _ => Term.null
    · exact (token .ident).map Term.name
  rw [Grammar.primary_eq]
  exact grouped.or (((token .number).map _).or (((token .string).map _).or word))

-- ---------------------------------------------------------------------------
-- Calls and properties
-- ---------------------------------------------------------------------------

theorem Resumes.completable_commas :
    Completable (·.head? = some ')') (many do symbol ","; inner)
      (many do symbol ","; deeper) := by
  have comma : Completable Closing (do symbol ","; inner) (do symbol ","; deeper) :=
    .andThen (Grammar.steady_symbol _ (by decide)) ((silent_lexeme _).completable _)
      fun _ => completable
  have before := Grammar.takes_comma resumes.before
  have after := Grammar.takes_comma resumes.after
  have once := comma.imp fun completes => completes.once after (refuses_comma deeper) .of_head
  exact .many once resumes.comma before after closing_of_comma .of_head

theorem Resumes.completable_arguments :
    Completable (·.head? = some ')') (Grammar.arguments inner) (Grammar.arguments deeper) := by
  have commas := resumes.completable_commas completable
  refine .or (.or_left (.bind resumes.steady (completable.imp fun completes =>
    completes.bind [] fun tail ended => ⟨.of_head ended, fun first => ?_⟩)
    (fun first => commas.mapped (first :: ·) (first :: ·)) ?_) _)
    ((silent_pure []).completable _)
  · have none := (Repeats.stop (refuses_comma deeper ended)).many
    exact ⟨_, none.bind (reads_pure [first] _)⟩
  · intro _ text _ rest reads ended
    obtain ⟨terms, reads, -⟩ := Reads.of_map reads
    exact ((Grammar.takes_comma resumes.after).of_many reads).begins closing_of_comma
      (.of_head ended)

theorem Resumes.completable_invocation :
    Completable E (Grammar.invocation inner) (Grammar.invocation deeper) := by
  have name : Completable E Grammar.ident (Grammar.invocation deeper) :=
    Grammar.completable_token .ident resumes.completes_invocation
  have opening := Grammar.steady_symbol (E := Anywhere) "(" (by decide)
  have arguments := resumes.completable_arguments completable
  refine .andThen Grammar.steady_ident name fun method => .andThen opening
    ((silent_lexeme _).completable _) fun _ => .bind resumes.arguments
      (arguments.imp fun completes => completes.bind [')'] fun tail _ => ⟨rfl, fun given => ?_⟩)
      (fun given => ((silent_lexeme _).bind fun _ => silent_pure _).completable _) ?_
  · have closed : Reads (symbol ")") (')' :: tail) () (tail.dropWhile isGap) := reads_lexeme rfl
    exact ⟨_, closed.bind (reads_pure (Grammar.Suffix.call method given) _)⟩
  · intro given text _ rest reads _
    obtain ⟨_, mid, closed, -⟩ := Reads.of_bind reads
    exact Grammar.head_symbol closed rfl

theorem Resumes.completable_suffix :
    Completable Closing (Query.suffix inner) (many (Query.suffix deeper)) := by
  have stops {rest : List Char} (closing : Closing rest) : Refuses (Query.suffix deeper) rest :=
    refuses_suffix deeper (over_of_closing closing).noPoint
  have empty : Completes Closing (many (Query.suffix deeper)) [] :=
    completes_nil [] fun _ closing => ⟨[], (Repeats.stop (stops closing)).many⟩
  have behind {p : Reader Grammar.Suffix} (h : Completable Closing p (Grammar.invocation deeper)) :
      Completable Closing (do symbol "."; p) (many (Query.suffix deeper)) := by
    have call : Completable Closing (do symbol "."; p) (do symbol "."; Grammar.invocation deeper) :=
      .andThen (Grammar.steady_symbol _ (by decide)) ((silent_lexeme _).completable _) fun _ => h
    refine call.imp fun completes => Completes.once ?_ (Grammar.takes_suffix resumes.after) stops id
    exact completes.imp (fun reads _ => ⟨_, (reads.named .call).or_left _⟩) id
  have property : Completable Closing
      (do let name ← Grammar.ident; notBefore '('; pure (Grammar.Suffix.property name))
      (Grammar.invocation deeper) :=
    .andThen Grammar.steady_ident
      (Grammar.completable_token .ident resumes.completes_invocation) fun _ =>
        ((silent_notBefore _).bind fun _ => silent_pure _).completable _
  exact .or ((behind (resumes.completable_invocation completable)).named .call empty)
    ((behind property).named .property empty)

theorem Resumes.completable_suffixes :
    Completable Closing (many (Query.suffix inner)) (many (Query.suffix deeper)) :=
  (resumes.completable_suffix completable).many resumes.suffix
    (Grammar.takes_suffix resumes.before) (Grammar.takes_suffix resumes.after)
    noArguments_of_suffix fun closing => (over_of_closing closing).noOpening

-- ---------------------------------------------------------------------------
-- Operands
-- ---------------------------------------------------------------------------

theorem Resumes.completable_operand :
    Completable Closing (Grammar.operandWithSigns inner) (Grammar.operandWithSigns deeper) where
  complete solid missed := by
    have signSteady := Grammar.steady_sign (E := Anywhere)
    rcases MissesAt.of_bind missed with missed | ⟨given, begun, signs, missed⟩
    · obtain ⟨given, begun, steps, missed⟩ := MissesAt.of_many Grammar.takes_sign missed
      obtain ⟨-, solidBegun⟩ := signSteady.steps_forward steps solid
      exact completes_signed solid steps
        ((Grammar.completable_sign deeper).complete solidBegun missed)
    obtain ⟨steps, -⟩ := (Grammar.takes_sign.of_many signs).steps
    obtain ⟨-, solidBegun⟩ := signSteady.steps_forward steps solid
    rcases MissesAt.of_bind missed with missed | ⟨first, followed, value, missed⟩
    · exact completes_signed solid steps
        ((resumes.completable_primary completable).complete solidBegun missed)
    obtain ⟨-, solidFollowed⟩ := (resumes.primary (E := Anywhere)).forward solidBegun value
    rcases MissesAt.of_bind missed with missed | ⟨chain, rest, -, last⟩
    · exact resumes.completes_chain solid signs value
        ((resumes.completable_suffixes completable).complete solidFollowed missed)
    · exact absurd last (silent_pure _).never

-- ---------------------------------------------------------------------------
-- Rows
-- ---------------------------------------------------------------------------

theorem Resumes.completable_links :
    Completable Closing (many (Grammar.link inner)) (many (Grammar.link deeper)) := by
  have operand := resumes.completable_operand completable
  have link : Completable Closing (Grammar.link inner) (Grammar.link deeper) :=
    .andThen Grammar.steady_operator (Grammar.completable_operator (completes_link deeper))
      fun op => operand.mapped (Link.mk op) (Link.mk op)
  have after := Grammar.takes_link resumes.after
  have once := link.imp fun completes =>
    completes.once after (fun closing => closing.refuses_operator.bind _) id
  exact once.many resumes.link (Grammar.takes_link resumes.before) after over_of_link
    over_of_closing

theorem Resumes.completable_row :
    Completable Closing (Grammar.row inner) (Grammar.row deeper) := by
  have operand := resumes.completable_operand completable
  have links := resumes.completable_links completable
  -- An operand that is completed is a row of its own.
  have alone {u : List Char} (completes : Completes Closing (Grammar.operandWithSigns deeper) u) :
      Completes Closing (do
        let first ← Grammar.operandWithSigns deeper
        let links ← many (Grammar.link deeper)
        pure (Precedence.group first links)) u := by
    refine completes.bind [] fun tail closing => ⟨closing, fun first => ?_⟩
    have noLink : Refuses (Grammar.link deeper) (tail.dropWhile isGap) :=
      closing.refuses_operator.bind _
    exact ⟨_, (Repeats.stop noLink).many.bind (reads_pure (Precedence.group first []) _)⟩
  have named {u : List Char} {p : Reader Term} (completes : Completes Closing p u) :
      Completes Closing (Reader.named .expr p) u :=
    completes.imp (fun reads _ => ⟨_, reads.named .expr⟩) id
  refine .named .expr (.imp (.bind resumes.operand (operand.imp alone)
    (fun first => links.mapped (Precedence.group first) (Precedence.group first)) ?_) named)
    (named (alone (completes_operand deeper)))
  intro _ text _ rest reads closing
  obtain ⟨links, reads, -⟩ := Reads.of_map reads
  exact ((Grammar.takes_link resumes.after).of_many reads).begins over_of_link
    (over_of_closing closing)

end

theorem completable_expr (le : depth ≤ deeper) :
    Completable Closing (Grammar.expr depth) (Grammar.expr deeper) := by
  induction depth generalizing deeper with
  | zero => exact ⟨fun _ missed => absurd rfl missed.1⟩
  | succ depth ih =>
    obtain ⟨deeper, rfl⟩ : ∃ n, deeper = n + 1 := ⟨deeper - 1, by omega⟩
    have le := Nat.le_of_succ_le_succ le
    exact (resumes_expr le).completable_row (ih le)

end RefViewer.Query
