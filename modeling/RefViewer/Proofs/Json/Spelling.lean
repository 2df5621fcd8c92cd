import RefViewer.Proofs.Json.Portable

/-!
# Spellings

The grammar of documents, as a relation between texts and the nodes they spell: `Spells`. What
a number or a string stands for is left to the reader; the grammar tells where they end. A text
that spells a node is read as the node, `Spells.document`.
-/

namespace RefViewer.Json

open Unicode (GappedText)

-- ---------------------------------------------------------------------------
-- The grammar
-- ---------------------------------------------------------------------------

namespace Spelling

structure Digits (run : List Char) : Prop where
  nonempty : run ≠ []
  digits : ∀ c ∈ run, c.isDigit = true

inductive Whole : List Char → Prop where
  | zero : Whole ['0']
  | of (digits : Digits (first :: rest)) (nonzero : first ≠ '0') : Whole (first :: rest)

inductive Fraction : List Char → Prop where
  | none : Fraction []
  | of (digits : Digits run) : Fraction ('.' :: run)

inductive Exponent : List Char → Prop where
  | none : Exponent []
  | of (mark : c = 'e' ∨ c = 'E') (signed : sign ∈ [[], ['+'], ['-']]) (digits : Digits run) :
    Exponent (c :: (sign ++ run))

inductive Unsigned : List Char → Prop where
  | of (whole : Whole front) (fraction : Fraction middle) (exponent : Exponent back) :
    Unsigned (front ++ (middle ++ back))

inductive Quotable : List Char → Prop where
  | empty : Quotable []
  | plain (hq : c ≠ '"') (hb : c ≠ '\\') (hc : 0x20 ≤ c.toNat) (more : Quotable rest) :
    Quotable (c :: rest)
  | escape (letter : (Reader.simpleEscape? c).isSome) (more : Quotable rest) :
    Quotable ('\\' :: c :: rest)
  | unit (ha : (Reader.hexDigit? (some a)).isSome) (hb : (Reader.hexDigit? (some b)).isSome)
    (hc : (Reader.hexDigit? (some c)).isSome) (hd : (Reader.hexDigit? (some d)).isSome)
    (more : Quotable rest) : Quotable ('\\' :: 'u' :: a :: b :: c :: d :: rest)

def quoted (body : List Char) : Quoted :=
  (Reader.string (body.length + 1) .start (body.map some ++ [some '"'])).1

structure Keyed (entry : EntryText) : Prop where
  before : Gap entry.before
  key : Quotable entry.key
  quoted : entry.quoted = quoted entry.key
  after : Gap entry.after

end Spelling

open Spelling

/-- The text is one that the grammar has for the node. -/
inductive Spells : List Char → Node → Prop where
  | null : Spells ['n', 'u', 'l', 'l'] .null
  | trueWord : Spells ['t', 'r', 'u', 'e'] (.bool true)
  | falseWord : Spells ['f', 'a', 'l', 's', 'e'] (.bool false)
  | number (h : Unsigned run) : Spells run (.number (Reader.number false (run.map some)))
  | negative (h : Unsigned run) :
    Spells ('-' :: run) (.number (Reader.number true (run.map some)))
  | string (h : Quotable body) : Spells ('"' :: (body ++ ['"'])) (.string (quoted body))
  | emptyArray (hg : Gap gap) : Spells ('[' :: (gap ++ [']'])) (.array [] .closed)
  | array {row : List (List Char × Node)} (hne : row ≠ [])
    (items : ∀ item ∈ row, Spells item.1 item.2) :
    Spells ('[' :: ([','].intercalate (row.map Prod.fst) ++ [']']))
      (.array (row.map Prod.snd) .closed)
  | emptyObject (hg : Gap gap) : Spells ('\x7b' :: (gap ++ ['\x7d'])) (.object [] .closed)
  | object {row : List EntryText} (hne : row ≠ []) (keys : ∀ entry ∈ row, Keyed entry)
    (values : ∀ entry ∈ row, Spells entry.value entry.node) :
    Spells ('\x7b' :: ([','].intercalate (row.map EntryText.chars) ++ ['\x7d']))
      (.object (row.map EntryText.entry) .closed)
  | padded (before : Gap front) (h : Spells value node) (after : Gap back) :
    Spells (front ++ (value ++ back)) node

-- ---------------------------------------------------------------------------
-- Numbers
-- ---------------------------------------------------------------------------

namespace Spelling

open Reader

theorem Digits.head {run : List Char} (h : Digits run) (tail : GappedText) :
    (run.map some ++ tail).head?.any isDigit = true := by
  obtain ⟨c, rest, rfl⟩ := List.exists_cons_of_ne_nil h.nonempty
  exact isDigit_some (h.digits c List.mem_cons_self)

theorem Digits.dropSign (h : Digits run) (hs : sign ∈ [[], ['+'], ['-']]) :
    dropSign ((sign ++ run).map some) = run.map some := by
  obtain ⟨c, rest, rfl⟩ := List.exists_cons_of_ne_nil h.nonempty
  have hc : c.isDigit = true := h.digits c List.mem_cons_self
  have hplus : c ≠ '+' := by
    rintro rfl
    cases hc
  have hminus : c ≠ '-' := by
    rintro rfl
    cases hc
  simp only [List.mem_cons, List.not_mem_nil, or_false] at hs
  rcases hs with rfl | rfl | rfl <;> simp [Reader.dropSign, hplus, hminus]

theorem Exponent.passExponent (h : Exponent back) : passExponent (back.map some) = some [] := by
  cases h with
  | none => rfl
  | @of c sign run mark hsign digits =>
    have hmark : isExponentMark (some c) = true := by rcases mark with rfl | rfl <;> rfl
    have hhead : (run.map some).head?.any isDigit = true := by simpa using digits.head []
    rw [List.map_cons, passExponent_mark hmark, digits.dropSign hsign, if_pos hhead,
      dropWhile_digits digits.digits]

theorem Exponent.head (h : Exponent back) :
    (back.map some).head?.any isDigit = false ∧ ∀ rest, back.map some ≠ some '.' :: rest := by
  cases h with
  | none => exact ⟨rfl, nofun⟩
  | of mark => rcases mark with rfl | rfl <;> exact ⟨rfl, nofun⟩

theorem Fraction.passFraction (h : Fraction middle) (exponent : Exponent back) :
    passFraction ((middle ++ back).map some) = some [] := by
  cases h with
  | none => rw [List.nil_append, passFraction.eq_2 _ exponent.head.2, exponent.passExponent]
  | of digits =>
    rw [List.cons_append, List.map_cons, List.map_append, Reader.passFraction,
      if_pos (digits.head _), dropWhile_digits_append digits.digits exponent.head.1,
      exponent.passExponent]

theorem Fraction.head (h : Fraction middle) (exponent : Exponent back) :
    ((middle ++ back).map some).head?.any isDigit = false := by
  cases h with
  | none => exact exponent.head.1
  | of => rfl

theorem Whole.digits (h : Whole front) : Digits front := by
  cases h with
  | zero => exact ⟨List.cons_ne_nil _ _, List.forall_mem_singleton.mpr rfl⟩
  | of digits => exact digits

theorem Unsigned.passNumber (h : Unsigned run) : passNumber (run.map some) = some [] := by
  obtain ⟨whole, fraction, exponent⟩ := h
  have hdigits := whole.digits.digits
  have hstops := fraction.head exponent
  cases whole with
  | zero =>
    rw [List.singleton_append, List.map_cons, passNumber_digits rfl,
      if_neg (by rw [hstops]; decide), dropWhile_stops hstops, fraction.passFraction exponent]
  | of digits nonzero =>
    obtain ⟨hfirst, hrest⟩ := List.forall_mem_cons.mp hdigits
    rw [List.cons_append, List.map_cons, passNumber_digits (isDigit_some hfirst),
      if_neg (by simp [nonzero]), List.map_append, dropWhile_digits_append hrest hstops,
      fraction.passFraction exponent]

theorem Unsigned.digit (h : Unsigned run) :
    ∃ c more, run = c :: more ∧ c.isDigit = true := by
  obtain ⟨whole, fraction, exponent⟩ := h
  obtain ⟨c, more, rfl⟩ := List.exists_cons_of_ne_nil whole.digits.nonempty
  exact ⟨c, _, rfl, whole.digits.digits c List.mem_cons_self⟩

theorem Unsigned.numberNode (h : Unsigned run) (negative : Bool) (ends : Ends tail) :
    Reader.numberNode negative (run.map some ++ tail) =
      (.number (Reader.number negative (run.map some)), some tail) := by
  rw [ends.numberNode h.passNumber, List.nil_append]

theorem Unsigned.reads (h : Unsigned run) :
    Reads run (.number (Reader.number false (run.map some))) := by
  obtain ⟨c, more, rfl, hc⟩ := h.digit
  obtain ⟨hblank, hend⟩ := isBlank_of_begins (.inr hc)
  refine reads_of_value hblank hend fun fuel tail ends _ => ?_
  rw [value_digit hc, ← h.numberNode false ends]
  rfl

theorem Unsigned.reads_negative (h : Unsigned run) :
    Reads ('-' :: run) (.number (Reader.number true (run.map some))) :=
  reads_of_value rfl (by decide) fun fuel tail ends _ => by
    rw [value_minus, h.numberNode true ends]

-- ---------------------------------------------------------------------------
-- Strings
-- ---------------------------------------------------------------------------

theorem hexUnit_digits (ha : (hexDigit? a).isSome) (hb : (hexDigit? b).isSome)
    (hc : (hexDigit? c).isSome) (hd : (hexDigit? d).isSome) :
    ∃ n, ∀ rest, hexUnit? (a :: b :: c :: d :: rest) = .ok (n, rest) := by
  obtain ⟨na, ha⟩ := Option.isSome_iff_exists.mp ha
  obtain ⟨nb, hb⟩ := Option.isSome_iff_exists.mp hb
  obtain ⟨nc, hc⟩ := Option.isSome_iff_exists.mp hc
  obtain ⟨nd, hd⟩ := Option.isSome_iff_exists.mp hd
  exact ⟨na * 4096 + nb * 256 + nc * 16 + nd, fun rest => by simp only [hexUnit?, ha, hb, hc, hd]⟩

/-- Where the string ends, and what is in it, depends on nothing behind the quote. -/
theorem Quotable.scanned (h : Quotable body) (scan : Scan) :
    ∃ last : Scan, ∀ fuel tail, body.length < fuel →
      Reader.string fuel scan (body.map some ++ some '"' :: tail) = last.close tail := by
  induction h generalizing scan with
  | empty =>
    refine ⟨scan, fun fuel tail hfuel => ?_⟩
    obtain ⟨fuel, rfl⟩ : ∃ less, fuel = less + 1 := ⟨fuel - 1, by omega⟩
    rfl
  | @plain c rest hq hb hc _ ih =>
    obtain ⟨last, hlast⟩ := ih (scan.closeLead.push c)
    refine ⟨last, fun fuel tail hfuel => ?_⟩
    rw [List.length_cons] at hfuel
    obtain ⟨fuel, rfl⟩ : ∃ less, fuel = less + 1 := ⟨fuel - 1, by omega⟩
    rw [List.map_cons, List.cons_append, string_char hq hb (by omega)]
    exact hlast fuel tail (by omega)
  | @escape letter rest hletter _ ih =>
    obtain ⟨c, hc⟩ := Option.isSome_iff_exists.mp hletter
    obtain ⟨last, hlast⟩ := ih (scan.closeLead.push c)
    refine ⟨last, fun fuel tail hfuel => ?_⟩
    simp only [List.length_cons] at hfuel
    obtain ⟨fuel, rfl⟩ : ∃ less, fuel = less + 1 := ⟨fuel - 1, by omega⟩
    simp only [List.map_cons, List.cons_append, string_escape hc]
    exact hlast fuel tail (by omega)
  | @unit a b c d rest ha hb hc hd _ ih =>
    obtain ⟨n, hunit⟩ := hexUnit_digits ha hb hc hd
    obtain ⟨last, hlast⟩ := ih (scan.unit n)
    refine ⟨last, fun fuel tail hfuel => ?_⟩
    simp only [List.length_cons] at hfuel
    obtain ⟨fuel, rfl⟩ : ∃ less, fuel = less + 1 := ⟨fuel - 1, by omega⟩
    simp only [List.map_cons, List.cons_append, string_unit (hunit _)]
    exact hlast fuel tail (by omega)

theorem Quotable.readsString (h : Quotable body) : ReadsString body (quoted body) := by
  obtain ⟨last, hlast⟩ := h.scanned .start
  intro fuel tail hfuel
  rw [hlast fuel tail hfuel, quoted, hlast _ [] (Nat.lt_succ_self _)]
  rfl

end Spelling

-- ---------------------------------------------------------------------------
-- Documents
-- ---------------------------------------------------------------------------

theorem Spells.reads (h : Spells spelled node) : Reader.Reads spelled node := by
  induction h with
  | null => exact Reader.reads_null
  | trueWord => exact Reader.reads_true
  | falseWord => exact Reader.reads_false
  | number h => exact h.reads
  | negative h => exact h.reads_negative
  | string h => exact h.readsString.reads
  | emptyArray hg => exact Reader.reads_emptyArray hg
  | array hne _ ih => exact Reader.reads_array ih hne
  | emptyObject hg => exact Reader.reads_emptyObject hg
  | object hne keys _ ih =>
    refine Reader.reads_object (fun entry hentry => ?_) hne
    obtain ⟨before, key, quoted, after⟩ := keys entry hentry
    exact ⟨before, quoted ▸ key.readsString, after, ih entry hentry⟩
  | padded before _ after ih => exact ih.padded before after

/-- A text of the grammar is read as what it spells, and nothing is left of it. -/
theorem Spells.document (h : Spells spelled node) :
    Document.ofText (spelled.map some) = ⟨node, false⟩ := h.reads.document

-- ---------------------------------------------------------------------------
-- Written documents
-- ---------------------------------------------------------------------------

namespace Spelling

open Writer

theorem Quotable.escapeChar (c : Char) (more : Quotable rest) :
    Quotable (escapeChar c ++ rest) := by
  unfold Writer.escapeChar
  split
  case h_8 hq hb _ _ _ _ _ =>
    split
    · next hc =>
      have hhex : ∀ n < 16, (Reader.hexDigit? (some (hexDigit n))).isSome := by decide
      exact .unit rfl rfl (hhex _ (by omega)) (hhex _ (by omega)) more
    · next hc => exact .plain hq hb (by omega) more
  all_goals exact .escape rfl more

theorem quotable_escaped (s : List Char) : Quotable (s.flatMap Writer.escapeChar) := by
  induction s with
  | nil => exact .empty
  | cons c rest ih => exact ih.escapeChar c

theorem quoted_escaped (name : String) :
    quoted (name.toList.flatMap Writer.escapeChar) = ⟨.ok name, none⟩ :=
  congrArg Prod.fst (Reader.readsString_escaped name _ [] (Nat.lt_succ_self _))

theorem keyed_writtenEntry (entry : String × Json) : Keyed (Reader.writtenEntry entry) :=
  ⟨gap_nil, quotable_escaped _, (quoted_escaped entry.1).symm, gap_nil⟩

theorem spells_writtenString (s : String) : Spells (chars (.string s)) (.ofJson (.string s)) := by
  have h := Spells.string (quotable_escaped s.toList)
  rwa [quoted_escaped] at h

theorem spells_writtenArray {items : List Json}
    (h : ∀ item ∈ items, Spells (chars item) (.ofJson item)) :
    Spells (chars (.array items)) (.ofJson (.array items)) := by
  rw [chars, Node.ofJson, List.cons_append, Reader.itemChars_eq, Reader.ofItems_eq]
  cases items with
  | nil => exact .emptyArray gap_nil
  | cons item rest => exact .array (List.cons_ne_nil _ _) (List.forall_mem_map.mpr h)

theorem spells_writtenObject {entries : List (String × Json)}
    (h : ∀ entry ∈ entries, Spells (chars entry.2) (.ofJson entry.2)) :
    Spells (chars (.object entries)) (.ofJson (.object entries)) := by
  rw [chars, Node.ofJson, List.cons_append, Reader.entryChars_eq, Reader.ofEntries_eq]
  cases entries with
  | nil => exact .emptyObject gap_nil
  | cons entry rest =>
    exact .object (List.cons_ne_nil _ _)
      (List.forall_mem_map.mpr fun entry _ => keyed_writtenEntry entry)
      (List.forall_mem_map.mpr h)

end Spelling

/-- Without numbers. -/
inductive Worded : Json → Prop where
  | null : Worded .null
  | bool (b : Bool) : Worded (.bool b)
  | string (s : String) : Worded (.string s)
  | array (h : ∀ item ∈ items, Worded item) : Worded (.array items)
  | object (h : ∀ entry ∈ entries, Worded entry.2) : Worded (.object entries)

theorem Worded.spells (h : Worded json) : Spells json.text.toList (.ofJson json) := by
  rw [text, String.toList_ofList]
  induction h with
  | null => exact .null
  | bool b =>
    cases b with
    | false => exact .falseWord
    | true => exact .trueWord
  | string s => exact spells_writtenString s
  | array _ ih => exact spells_writtenArray ih
  | object _ ih => exact spells_writtenObject ih

end RefViewer.Json
