import RefViewer.Proofs.Json.Rows

/-!
# Reading documents back

The text of a document is read as the nodes of the document, `Portable.ofText`, if the
numerals in it are read back and its lists and objects are not nested too deep to be taken.
-/

namespace RefViewer.Json

open Unicode (GappedText)

-- ---------------------------------------------------------------------------
-- Strings
-- ---------------------------------------------------------------------------

namespace Reader

open Writer

def Scan.plain (reversed : List Char) : Scan := ⟨reversed, none, none, false⟩

theorem hexUnit_control (hn : n < 256) (rest : GappedText) :
    hexUnit?
        (some '0' :: some '0' :: some (hexDigit (n / 16)) :: some (hexDigit (n % 16)) :: rest) =
      .ok (n, rest) := by
  have hread : ∀ n < 16, hexDigit? (some (hexDigit n)) = some n := by decide
  have hzero : hexDigit? (some '0') = some 0 := by decide
  have hsum : 0 * 4096 + 0 * 256 + n / 16 * 16 + n % 16 = n := by omega
  simp only [hexUnit?, hzero, hread (n / 16) (by omega), hread (n % 16) (by omega), hsum]

theorem unit_plain (hn : n < 0xd800) (reversed : List Char) :
    (Scan.plain reversed).unit n = .plain (.ofNat n :: reversed) := by
  have hlow : (0xdc00 ≤ n && n ≤ 0xdfff) = false := by simp; omega
  have hlead : (0xd800 ≤ n && n ≤ 0xdbff) = false := by simp; omega
  simp only [Scan.unit, Scan.plain, hlow, hlead]
  rfl

theorem string_escapeChar (fuel : Nat) (reversed : List Char) (c : Char) (rest : GappedText) :
    string (fuel + 1) (.plain reversed) ((escapeChar c).map some ++ rest) =
      string fuel (.plain (c :: reversed)) rest := by
  unfold escapeChar
  split
  case h_8 hq hb _ _ _ _ _ =>
    split
    · next hc =>
      have hunit := hexUnit_control (show c.toNat < 256 by omega) rest
      have hplain := unit_plain (show c.toNat < 0xd800 by omega) reversed
      rw [Char.ofNat_toNat] at hplain
      rw [← hplain]
      exact string_unit hunit fuel (.plain reversed)
    · next hc => exact string_char hq hb hc fuel (.plain reversed) rest
  all_goals rfl

/-- What a quote writes is read up to its end. -/
theorem string_escaped (hfuel : s.length < fuel) (reversed : List Char) (tail : GappedText) :
    string fuel (.plain reversed) ((s.flatMap escapeChar).map some ++ some '"' :: tail) =
      (⟨.ok (.ofList (reversed.reverse ++ s)), none⟩, some tail) := by
  induction s generalizing fuel reversed with
  | nil =>
    obtain ⟨fuel, rfl⟩ := Nat.exists_eq_add_of_lt hfuel
    simp [string, Scan.close, Scan.closeLead, Scan.plain]
  | cons c rest ih =>
    obtain ⟨fuel, rfl⟩ : ∃ more, fuel = more + 1 := ⟨fuel - 1, by simp at hfuel; omega⟩
    have hmore : rest.length < fuel := by simpa using hfuel
    rw [List.flatMap_cons, List.map_append, List.append_assoc, string_escapeChar, ih hmore]
    simp

theorem length_le_escaped (s : List Char) : s.length ≤ (s.flatMap escapeChar).length := by
  have hpos (c : Char) : 0 < (escapeChar c).length := by
    unfold escapeChar
    split
    case h_8 => split <;> exact Nat.succ_pos _
    all_goals exact Nat.succ_pos _
  induction s with
  | nil => exact Nat.le_refl 0
  | cons c rest ih =>
    have := hpos c
    rw [List.flatMap_cons, List.length_append, List.length_cons]
    omega

end Reader

-- ---------------------------------------------------------------------------
-- Documents
-- ---------------------------------------------------------------------------

/-- Numerals in it are read back, and no more lists and objects than this lie in one another. -/
inductive Portable : Nat → Json → Prop where
  | null : Portable levels .null
  | bool (b : Bool) : Portable levels (.bool b)
  | number (h : numeral.Rereads) : Portable levels (.number numeral)
  | string (s : String) : Portable levels (.string s)
  | array (h : ∀ item ∈ items, Portable levels item) : Portable (levels + 1) (.array items)
  | object (h : ∀ entry ∈ entries, Portable levels entry.2) :
    Portable (levels + 1) (.object entries)

namespace Node

theorem takeItems_ofItems {items : List Json}
    (h : ∀ item ∈ items, (ofJson item).take depth = .ok item) :
    takeItems depth (ofItems items) = .ok items := by
  induction items with
  | nil => rfl
  | cons item rest ih =>
    obtain ⟨hfirst, hrest⟩ := List.forall_mem_cons.mp h
    rw [ofItems, takeItems, hfirst, ih hrest]
    rfl

theorem takeEntries_ofEntries {entries : List (String × Json)}
    (h : ∀ entry ∈ entries, (ofJson entry.2).take depth = .ok entry.2) :
    takeEntries depth (ofEntries entries) = .ok entries := by
  induction entries with
  | nil => rfl
  | cons entry rest ih =>
    obtain ⟨hfirst, hrest⟩ := List.forall_mem_cons.mp h
    simp only [ofEntries, takeEntries, hfirst, ih hrest]
    rfl

end Node

/-- Taking a document again keeps it, up to the deepest nesting. -/
theorem Portable.take (h : Portable levels json) (hd : depth + levels ≤ Node.maxDepth) :
    (Node.ofJson json).take depth = .ok json := by
  induction h generalizing depth with
  | null | bool | number | string => rfl
  | @array items levels _ ih =>
    have hdepth : ¬ Node.maxDepth ≤ depth := by omega
    have hitems := Node.takeItems_ofItems fun item hitem => @ih item hitem (depth + 1) (by omega)
    simp only [Node.ofJson, Node.take, if_neg hdepth, hitems]
    rfl
  | @object entries levels _ ih =>
    have hdepth : ¬ Node.maxDepth ≤ depth := by omega
    have hentries := Node.takeEntries_ofEntries fun entry hentry =>
      @ih entry hentry (depth + 1) (by omega)
    simp only [Node.ofJson, Node.take, if_neg hdepth, hentries]
    rfl

-- ---------------------------------------------------------------------------
-- Written documents
-- ---------------------------------------------------------------------------

namespace Reader

open Writer

theorem readsString_escaped (name : String) :
    ReadsString (name.toList.flatMap escapeChar) ⟨.ok name, none⟩ := by
  intro fuel tail hfuel
  have hlength := length_le_escaped name.toList
  have hread := string_escaped (show name.toList.length < fuel by omega) [] tail
  rwa [List.reverse_nil, List.nil_append, String.ofList_toList] at hread

theorem reads_writtenNumber (h : Numeral.Rereads n) :
    Reads (chars (.number n)) (.ofJson (.number n)) where
  opens tail := by
    obtain ⟨c, more, hc, hbegins⟩ := h.begins
    refine ⟨c, more.map some ++ tail, ?_, (isBlank_of_begins hbegins).2⟩
    rw [chars, hc]
    simp [skipBlanks, (isBlank_of_begins hbegins).1]
  value fuel tail ends hfuel := by
    obtain ⟨c, more, hc, -⟩ := h.begins
    have hpos : 0 < (chars (.number n)).length := by
      rw [chars, hc]
      exact Nat.succ_pos _
    obtain ⟨fuel, rfl⟩ : ∃ less, fuel = less + 1 := ⟨fuel - 1, by omega⟩
    exact h.value ends fuel

def writtenItem (item : Json) : List Char × Node := (chars item, .ofJson item)

theorem itemChars_eq (items : List Json) :
    itemChars items = [','].intercalate ((items.map writtenItem).map Prod.fst) := by
  induction items with
  | nil => rfl
  | cons item rest ih =>
    cases rest with
    | nil => simp [itemChars, writtenItem]
    | cons => simp [itemChars, ih, writtenItem, List.intercalate_cons_cons]

theorem ofItems_eq (items : List Json) :
    Node.ofItems items = (items.map writtenItem).map Prod.snd := by
  induction items with
  | nil => rfl
  | cons item rest ih =>
    rw [Node.ofItems, ih]
    rfl

theorem reads_writtenArray {items : List Json}
    (h : ∀ item ∈ items, Reads (chars item) (.ofJson item)) :
    Reads (chars (.array items)) (.ofJson (.array items)) := by
  rw [chars, Node.ofJson, List.cons_append, itemChars_eq, ofItems_eq]
  cases items with
  | nil => exact reads_emptyArray gap_nil
  | cons item rest => exact reads_array (List.forall_mem_map.mpr h) (List.cons_ne_nil _ _)

def writtenEntry (entry : String × Json) : EntryText :=
  ⟨[], entry.1.toList.flatMap escapeChar, ⟨.ok entry.1, none⟩, [], chars entry.2, .ofJson entry.2⟩

theorem readable_writtenEntry {entry : String × Json}
    (h : Reads (chars entry.2) (.ofJson entry.2)) : (writtenEntry entry).Readable :=
  ⟨gap_nil, readsString_escaped entry.1, gap_nil, h⟩

theorem entryChars_eq (entries : List (String × Json)) :
    entryChars entries = [','].intercalate ((entries.map writtenEntry).map EntryText.chars) := by
  have hchars (name : String) (json : Json) : (writtenEntry (name, json)).chars =
      quote name ++ ':' :: chars json := by
    simp [EntryText.chars, EntryText.body, writtenEntry, quote]
  induction entries with
  | nil => rfl
  | cons entry rest ih =>
    cases rest with
    | nil => simp [entryChars, hchars]
    | cons => simp [entryChars, ih, hchars, List.intercalate_cons_cons]

theorem ofEntries_eq (entries : List (String × Json)) :
    Node.ofEntries entries = (entries.map writtenEntry).map EntryText.entry := by
  induction entries with
  | nil => rfl
  | cons entry rest ih =>
    rw [Node.ofEntries, ih]
    rfl

theorem reads_writtenObject {entries : List (String × Json)}
    (h : ∀ entry ∈ entries, Reads (chars entry.2) (.ofJson entry.2)) :
    Reads (chars (.object entries)) (.ofJson (.object entries)) := by
  rw [chars, Node.ofJson, List.cons_append, entryChars_eq, ofEntries_eq]
  cases entries with
  | nil => exact reads_emptyObject gap_nil
  | cons entry rest =>
    exact reads_object (List.forall_mem_map.mpr fun entry hentry =>
      readable_writtenEntry (h entry hentry)) (List.cons_ne_nil _ _)

end Reader

/-- The text of a document is read as the document, whatever follows. -/
theorem Portable.reads (h : Portable levels json) :
    Reader.Reads (Writer.chars json) (.ofJson json) := by
  induction h with
  | null => exact Reader.reads_null
  | bool b =>
    cases b with
    | false => exact Reader.reads_false
    | true => exact Reader.reads_true
  | number h => exact Reader.reads_writtenNumber h
  | string s => exact (Reader.readsString_escaped s).reads
  | array _ ih => exact Reader.reads_writtenArray ih
  | object _ ih => exact Reader.reads_writtenObject ih

theorem Portable.ofText (h : Portable levels json) :
    Document.ofText (.ofString json.text) = ⟨.ofJson json, false⟩ := by
  rw [Unicode.GappedText.ofString, text, String.toList_ofList, h.reads.document]

end RefViewer.Json
