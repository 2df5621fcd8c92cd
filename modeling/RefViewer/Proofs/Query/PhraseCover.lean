import RefViewer.Proofs.Query.PhraseReading

/-!
# Phrases of what is read

Every query that the grammar reads is the text of a phrase that is apart, and the term that is read
is its reading: `Phrase.exists_of_parse`.
-/

namespace RefViewer.Query

open Reader
open Grammar (WordEnds WritesValue WritesSign WritesOperator SignEnds isName isNameChar)

-- ---------------------------------------------------------------------------
-- Texts that begin with a phrase
-- ---------------------------------------------------------------------------

theorem split_gap (gap : left.dropWhile isGap = rest) :
    left = (Gap.leading left).chars ++ rest := by
  rw [← gap, Gap.leading_append]

/-- A phrase that is apart stands at the front of the text, also from what stands behind it. -/
structure Phrase.Spans (p : Phrase g) (after : Gap) (text rest : List Char) : Prop where
  apart : p.Apart
  split : text = p.chars ++ (after.chars ++ rest)
  ends : p.endsInWord = true → WordEnds (after.chars ++ rest)

theorem Phrase.Spans.selector {receiver : Phrase .core} {before : Gap} {name : String}
    {text : List Char} (spans : receiver.Spans before text ('.' :: pointed))
    (toName : pointed.dropWhile isGap = name.toList ++ left) (valid : isName name.toList = true) :
    text = receiver.chars ++
      ((Selector.mk before (Gap.leading pointed) name valid).chars ++ left) := by
  have behind := split_gap toName
  rw [spans.split, Selector.chars]
  simp only [List.append_assoc, List.cons_append]
  rw [← behind]

theorem Phrase.Spans.property {receiver : Phrase .core} {before : Gap} {text : List Char}
    (spans : receiver.Spans before text ('.' :: pointed))
    (ident : Reads Grammar.ident (pointed.dropWhile isGap) wanted rest) :
    ∃ (core : Phrase .core) (after : Gap), core.Spans after text rest ∧
      core.reading = .property receiver.reading wanted := by
  obtain ⟨left, valid, toName, ends, gap⟩ := Grammar.ident_written ident
  refine ⟨.property receiver ⟨before, Gap.leading pointed, wanted, valid⟩, Gap.leading left,
    ⟨spans.apart, ?_, fun _ => ?_⟩, rfl⟩
  · rw [spans.selector toName valid, Phrase.chars, ← split_gap gap, List.append_assoc]
  · rwa [← split_gap gap]

def Covers (inner : Reader Term) : Prop :=
  ∀ {text term rest}, Reads inner text term rest → ∃ (row : Phrase .row) (after : Gap),
    row.Spans after text rest ∧ Precedence.group row.reading.1 row.reading.2 = term

section

variable {inner : Reader Term} (covers : Covers inner)
include covers

theorem Covers.enclosed (reads : Reads inner (text.dropWhile isGap) term rest) :
    ∃ p : Phrase .enclosed, p.Apart ∧ p.reading = term ∧ text = p.chars ++ rest := by
  obtain ⟨row, after, spans, reading⟩ := covers reads
  refine ⟨.enclosed (Gap.leading text) row after, spans.apart, reading, ?_⟩
  rw [Phrase.chars, List.append_assoc, List.append_assoc, ← spans.split]
  exact split_gap rfl

theorem Covers.arguments (commas : Repeats (do symbol ","; inner) mid more rest) :
    ∀ {text first}, Reads inner (text.dropWhile isGap) first mid →
      ∃ p : Phrase .arguments, p.Apart ∧ p.reading = first :: more ∧ text = p.chars ++ rest := by
  induction commas with
  | stop _ =>
    intro text first reads
    obtain ⟨argument, apart, rfl, split⟩ := covers.enclosed reads
    exact ⟨.last argument, apart, rfl, split⟩
  | item comma _ _ ih =>
    intro text first reads
    obtain ⟨argument, apart, rfl, split⟩ := covers.enclosed reads
    obtain ⟨_, begun, point, next⟩ := Reads.of_bind comma
    obtain ⟨left, rfl, rfl⟩ := Grammar.symbol_some point
    obtain ⟨others, apartOthers, reading, rfl⟩ := ih next
    refine ⟨.more argument others, ⟨apart, apartOthers⟩, congrArg _ reading, ?_⟩
    rw [split, Phrase.chars, List.append_assoc]
    rfl

-- ---------------------------------------------------------------------------
-- Cores
-- ---------------------------------------------------------------------------

theorem Covers.primary (noSign : Refuses Grammar.sign text)
    (reads : Reads (Grammar.primary inner) text term rest) :
    ∃ (core : Phrase .core) (after : Gap), core.Spans after text rest ∧ core.reading = term := by
  rcases Grammar.value_written noSign reads with grouped | ⟨written, left, writes, split, ends, gap⟩
  · obtain ⟨within, begun, ended, rfl, opening, inside, closing⟩ := Grammar.grouped_some grouped
    obtain ⟨left, rfl, rfl⟩ := Grammar.symbol_some opening
    obtain ⟨behind, rfl, gap⟩ := Grammar.symbol_some closing
    obtain ⟨p, apart, rfl, rfl⟩ := covers.enclosed inside
    refine ⟨.group p, Gap.leading behind, ⟨apart, ?_, nofun⟩, rfl⟩
    rw [← split_gap gap, Phrase.chars, List.cons_append, List.append_assoc]
    rfl
  · refine ⟨.value writes, Gap.leading left, ⟨trivial, ?_, ?_⟩, rfl⟩
    · rw [← split_gap gap]
      exact split
    · rw [← split_gap gap]
      exact ends

theorem Covers.call (advances : Takes 1 inner) {receiver : Phrase .core} {before : Gap}
    (spans : receiver.Spans before text ('.' :: pointed))
    (ident : Reads Grammar.ident (pointed.dropWhile isGap) method ('(' :: inside))
    (arguments : Reads (Grammar.arguments inner) (inside.dropWhile isGap) given (')' :: last)) :
    ∃ (core : Phrase .core) (after : Gap), core.Spans after text (last.dropWhile isGap) ∧
      core.reading = .call receiver.reading method given := by
  obtain ⟨left, valid, toName, -, toGroup⟩ := Grammar.ident_written ident
  have front := spans.selector toName valid
  rw [split_gap toGroup] at front
  have noWord {p : Prop} : false = true → p := fun ended => absurd ended Bool.false_ne_true
  have behind : last = (Gap.leading last).chars ++ last.dropWhile isGap := split_gap rfl
  rcases Grammar.arguments_some advances arguments with
    ⟨rfl, none⟩ | ⟨first, more, mid, rfl, one, commas⟩
  · refine ⟨.bareCall receiver ⟨before, Gap.leading pointed, method, valid⟩ (Gap.leading left)
      (Gap.leading inside), Gap.leading last, ⟨spans.apart, ?_, noWord⟩, rfl⟩
    rw [front, Phrase.chars, ← behind]
    simp only [List.append_assoc, List.cons_append, List.nil_append]
    rw [← split_gap none.symm]
  · obtain ⟨p, apart, reading, whole⟩ := covers.arguments commas one
    refine ⟨.call receiver ⟨before, Gap.leading pointed, method, valid⟩ (Gap.leading left) p,
      Gap.leading last, ⟨⟨spans.apart, apart⟩, ?_, noWord⟩, congrArg _ reading⟩
    rw [front, whole, Phrase.chars, ← behind]
    simp only [List.append_assoc, List.cons_append, List.nil_append]

theorem Covers.suffix (advances : Takes 1 inner) {receiver : Phrase .core} {before : Gap}
    (spans : receiver.Spans before text mid) (reads : Reads (suffix inner) mid s rest) :
    ∃ (core : Phrase .core) (after : Gap), core.Spans after text rest ∧
      core.reading = s.apply receiver.reading := by
  rcases Reads.of_or reads with call | ⟨-, property⟩
  · obtain ⟨method, given, named, opened, argued, closed, rfl, point, ident, opening, arguments,
      closing⟩ := Grammar.call_some call
    obtain ⟨pointed, rfl, rfl⟩ := Grammar.symbol_some point
    obtain ⟨inside, rfl, rfl⟩ := Grammar.symbol_some opening
    obtain ⟨last, rfl, rfl⟩ := Grammar.symbol_some closing
    exact covers.call advances spans ident arguments
  · obtain ⟨wanted, named, rfl, point, ident, -⟩ := Grammar.property_some property
    obtain ⟨pointed, rfl, rfl⟩ := Grammar.symbol_some point
    exact spans.property ident

theorem Covers.suffixes (advances : Takes 1 inner)
    (chain : Repeats (Query.suffix inner) mid given rest) :
    ∀ {receiver : Phrase .core} {before : Gap}, receiver.Spans before text mid →
      ∃ (core : Phrase .core) (after : Gap), core.Spans after text rest ∧
        core.reading = given.foldl Grammar.Suffix.apply receiver.reading := by
  induction chain with
  | stop _ => exact fun spans => ⟨_, _, spans, rfl⟩
  | item first _ _ ih =>
    intro receiver before spans
    obtain ⟨next, between, spans, reading⟩ := covers.suffix advances spans first
    obtain ⟨core, after, spans, whole⟩ := ih spans
    rw [reading] at whole
    exact ⟨core, after, spans, whole⟩

end

-- ---------------------------------------------------------------------------
-- Operands
-- ---------------------------------------------------------------------------

/-- A word ends before a phrase that follows at once, unless that begins with a word. -/
theorem Phrase.startsWord_of_ends {p : Phrase g} {gap : Gap}
    (opens : Solid p.chars ∧ p.startsWord = p.chars.head?.any isNameChar)
    (none : gap.chars = []) (ends : WordEnds (gap.chars ++ (p.chars ++ rest))) :
    p.startsWord = false := by
  rw [none, List.nil_append, Grammar.wordEnds_iff] at ends
  exact (Phrase.opens_append opens rest).2.trans ends

theorem signs_cover (signs : Repeats Grammar.sign text given begun) {core : Phrase .core}
    {after : Gap} (spans : core.Spans after begun rest) :
    ∃ operand : Phrase .operand, operand.Spans after text rest ∧
      operand.reading = ⟨given, core.reading⟩ := by
  induction signs with
  | stop _ => exact ⟨.bare core, ⟨spans.apart, spans.split, spans.ends⟩, rfl⟩
  | item first _ _ ih =>
    obtain ⟨operand, inner, reading⟩ := ih spans
    obtain ⟨written, left, writes, rfl, ends, gap⟩ := Grammar.sign_written first
    have split := split_gap gap
    rw [inner.split] at split
    refine ⟨.signed writes (Gap.leading left) operand, ⟨⟨?_, inner.apart⟩, ?_, inner.ends⟩, ?_⟩
    · rintro rfl none
      rw [split] at ends
      exact Phrase.startsWord_of_ends operand.opens none ends
    · rw [Phrase.chars, List.append_assoc, List.append_assoc, ← split]
    · rw [Phrase.reading, reading]

theorem Covers.operand {inner : Reader Term} (covers : Covers inner) (advances : Takes 1 inner)
    {o : Operand} (reads : Reads (Grammar.operandWithSigns inner) text o rest) :
    ∃ (operand : Phrase .operand) (after : Gap), operand.Spans after text rest ∧
      operand.reading = o := by
  obtain ⟨first, chain, begun, followed, whole, signs, primary, suffixes⟩ :=
    Grammar.operand_some advances reads
  obtain ⟨value, before, spans, rfl⟩ := covers.primary signs.refuses primary
  obtain ⟨core, after, spans, reading⟩ := covers.suffixes advances suffixes spans
  obtain ⟨operand, spans, total⟩ := signs_cover signs spans
  refine ⟨operand, after, spans, ?_⟩
  rw [total, reading, ← whole]

-- ---------------------------------------------------------------------------
-- Rows
-- ---------------------------------------------------------------------------

theorem Grammar.WordEnds.not_word {written : List Char} (ends : WordEnds (written ++ left)) :
    ¬ written.head?.any isNameChar = true := by
  intro word
  rw [wordEnds_iff] at ends
  cases written with
  | nil => cases word
  | cons c more => exact Bool.false_ne_true (ends.symm.trans word)

theorem Covers.links {inner : Reader Term} (covers : Covers inner) (advances : Takes 1 inner)
    (links : Repeats (Grammar.link inner) mid given rest) :
    ∀ {text} {operand : Phrase .operand} {before : Gap}, operand.Spans before text mid →
      ∃ (row : Phrase .row) (after : Gap), row.Spans after text rest ∧
        row.reading = (operand.reading, given) := by
  induction links with
  | stop _ =>
    exact fun {_ operand before} spans =>
      ⟨.single operand, before, ⟨spans.apart, spans.split, nofun⟩, rfl⟩
  | @item mid link next _ _ first _ _ ih =>
    intro text operand before spans
    obtain ⟨begun, operator, linked⟩ := Grammar.link_some first
    obtain ⟨written, left, writes, split, ends, gap⟩ := Grammar.operator_written operator
    obtain ⟨second, between, spansSecond, reading⟩ := covers.operand advances linked
    obtain ⟨others, after, spansOthers, whole⟩ := ih spansSecond
    have behind := split_gap gap
    rw [spansOthers.split] at behind
    let joint : Joint := ⟨before, link.operator, written, writes, Gap.leading left⟩
    have apart : joint.Apart operand.endsInWord others.startsWord := by
      intro word
      constructor
      · intro none
        have apart := spans.ends
        rw [none, List.nil_append, split] at apart
        exact Bool.eq_false_iff.mpr fun ended => (apart ended).not_word word
      · intro none
        have ends := ends word
        rw [behind] at ends
        exact Phrase.startsWord_of_ends others.opens none ends
    refine ⟨.joined operand joint others, after, ⟨⟨spans.apart, apart, spansOthers.apart⟩, ?_,
      nofun⟩, ?_⟩
    · rw [spans.split, split, behind, Phrase.chars]
      simp only [joint, Joint.chars, List.append_assoc]
    · rw [Phrase.reading, whole, reading]

theorem Covers.row {inner : Reader Term} (covers : Covers inner) (advances : Takes 1 inner) :
    Covers (Grammar.row inner) := by
  intro text term rest reads
  obtain ⟨first, links, mid, rfl, operand, others⟩ := Grammar.row_some advances reads
  obtain ⟨_, before, spans, rfl⟩ := covers.operand advances operand
  obtain ⟨row, after, spans, reading⟩ := covers.links advances others spans
  exact ⟨row, after, spans, by rw [reading]⟩

theorem covers_expr (depth : Nat) : Covers (Grammar.expr depth) := by
  induction depth with
  | zero => exact fun reads => by cases reads
  | succ depth ih => exact ih.row (Grammar.takes_expr depth)

/-- What is parsed is the text of a phrase. -/
theorem Phrase.exists_of_parse {text : String} (parsed : Grammar.parse text = .ok term) :
    ∃ p : Phrase .enclosed, p.Apart ∧ p.text = text ∧ p.reading = term := by
  obtain ⟨p, apart, reading, split⟩ := Covers.enclosed (covers_expr _) (Grammar.parse_iff.mp parsed)
  refine ⟨p, apart, ?_, reading⟩
  rw [List.append_nil] at split
  rw [Phrase.text, ← split, String.ofList_toList]

end RefViewer.Query
