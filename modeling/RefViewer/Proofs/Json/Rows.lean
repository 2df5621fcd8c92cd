import Mathlib.Data.List.DropRight
import RefViewer.Proofs.Json.Numerals

/-!
# Rows

The items of a list and the entries of an object stand in a row, with commas between them and
blanks where one likes. Texts that read as nodes, whatever follows them, make a row that reads
as the row of the nodes: `reads_array` and `reads_object`.
-/

namespace RefViewer.Json

open Unicode (GappedText)

-- ---------------------------------------------------------------------------
-- Blanks
-- ---------------------------------------------------------------------------

def Gap (gap : List Char) : Prop := ∀ c ∈ gap, Reader.isBlank (some c) = true

theorem gap_nil : Gap [] := List.forall_mem_nil _

namespace Reader

theorem goesOn_of_isBlank (h : isBlank c = true) : goesOn c = false := by
  simp only [isBlank, Bool.or_eq_true, decide_eq_true_eq] at h
  rcases h with ((rfl | rfl) | rfl) | rfl <;> rfl

end Reader

theorem Gap.skipBlanks (h : Gap gap) (tail : GappedText) :
    Reader.skipBlanks (gap.map some ++ tail) = Reader.skipBlanks tail :=
  List.dropWhile_append_of_pos (List.forall_mem_map.mpr h)

theorem Gap.ends (h : Gap gap) (ends : Reader.Ends tail) : Reader.Ends (gap.map some ++ tail) := by
  cases gap with
  | nil => exact ends
  | cons c rest =>
    rintro _ ⟨⟩
    exact Reader.goesOn_of_isBlank (h c List.mem_cons_self)

namespace Reader

theorem skipBlanks_skipBlanks (text : GappedText) :
    skipBlanks (skipBlanks text) = skipBlanks text :=
  List.dropWhile_idempotent isBlank text

theorem value_skipBlanks (fuel : Nat) (text : GappedText) :
    value fuel (skipBlanks text) = value fuel text := by
  cases fuel with
  | zero => rfl
  | succ fuel => simp only [value, skipBlanks_skipBlanks]

theorem items_skipBlanks (fuel : Nat) (text : GappedText) :
    items fuel (skipBlanks text) = items fuel text := by
  cases fuel with
  | zero => rfl
  | succ fuel => rw [items, items, value_skipBlanks]

-- ---------------------------------------------------------------------------
-- Texts that read as nodes
-- ---------------------------------------------------------------------------

/-- The text reads as the node, whatever follows; it may have blanks around it. -/
structure Reads (text : List Char) (node : Node) : Prop where
  opens : ∀ tail, ∃ c more, skipBlanks (text.map some ++ tail) = some c :: more ∧ c ≠ ']'
  value : ∀ fuel tail, Ends tail → 3 * text.length ≤ fuel →
    ∃ rest, Reader.value fuel (text.map some ++ tail) = (node, some rest) ∧
      skipBlanks rest = skipBlanks tail

theorem Reads.padded {text : List Char} (h : Reads text node) (hb : Gap before) (ha : Gap after) :
    Reads (before ++ (text ++ after)) node where
  opens tail := by
    rw [List.map_append, List.append_assoc, hb.skipBlanks, List.map_append, List.append_assoc]
    exact h.opens _
  value fuel tail ends hfuel := by
    obtain ⟨rest, hread, hskip⟩ := h.value fuel _ (ha.ends ends) (by simp at hfuel; omega)
    refine ⟨rest, ?_, hskip.trans (ha.skipBlanks tail)⟩
    rw [← value_skipBlanks, List.map_append, List.append_assoc, hb.skipBlanks, value_skipBlanks,
      List.map_append, List.append_assoc, hread]

/-- What reads as a value up to its last character leaves what follows as it is. -/
theorem reads_of_value (hb : isBlank (some c) = false) (hc : c ≠ ']')
    (hv : ∀ fuel tail, Ends tail → 3 * more.length < fuel →
      value (fuel + 1) (some c :: (more.map some ++ tail)) = (node, some tail)) :
    Reads (c :: more) node where
  opens tail := ⟨c, more.map some ++ tail, by simp [skipBlanks, hb], hc⟩
  value fuel tail ends hfuel := by
    rw [List.length_cons] at hfuel
    obtain ⟨fuel, rfl⟩ : ∃ less, fuel = less + 1 := ⟨fuel - 1, by omega⟩
    exact ⟨tail, hv fuel tail ends (by omega), rfl⟩

-- ---------------------------------------------------------------------------
-- Words and strings
-- ---------------------------------------------------------------------------

theorem reads_null : Reads ['n', 'u', 'l', 'l'] .null :=
  reads_of_value rfl (by decide) fun _ _ _ _ => rfl

theorem reads_true : Reads ['t', 'r', 'u', 'e'] (.bool true) :=
  reads_of_value rfl (by decide) fun _ _ _ _ => rfl

theorem reads_false : Reads ['f', 'a', 'l', 's', 'e'] (.bool false) :=
  reads_of_value rfl (by decide) fun _ _ _ _ => rfl

theorem string_char (hq : c ≠ '"') (hb : c ≠ '\\') (hc : ¬ c.toNat < 0x20) (fuel : Nat)
    (scan : Scan) (rest : GappedText) :
    string (fuel + 1) scan (some c :: rest) = string fuel (scan.closeLead.push c) rest := by
  simp only [string.eq_def (fuel + 1), if_neg hq, if_neg hb, if_neg hc]

theorem string_escape (h : simpleEscape? letter = some c) (fuel : Nat) (scan : Scan)
    (rest : GappedText) :
    string (fuel + 1) scan (some '\\' :: some letter :: rest) =
      string fuel (scan.closeLead.push c) rest := by
  have hquote : '\\' ≠ '"' := by decide
  have hunit : letter ≠ 'u' := by
    rintro rfl
    cases h
  simp only [string.eq_def (fuel + 1), if_neg hquote, ↓reduceIte]
  split
  · next heq => cases heq
  · next heq =>
    cases heq
    exact absurd rfl hunit
  · next heq =>
    cases heq
    rw [Option.bind_some, h]

theorem string_unit (h : hexUnit? more = .ok (n, rest)) (fuel : Nat) (scan : Scan) :
    string (fuel + 1) scan (some '\\' :: some 'u' :: more) = string fuel (scan.unit n) rest := by
  have hquote : '\\' ≠ '"' := by decide
  simp only [string.eq_def (fuel + 1), if_neg hquote, ↓reduceIte, h]

def ReadsString (body : List Char) (quoted : Quoted) : Prop :=
  ∀ fuel tail, body.length < fuel →
    string fuel .start (body.map some ++ some '"' :: tail) = (quoted, some tail)

theorem value_quote (fuel : Nat) (more : GappedText) :
    value (fuel + 1) (some '"' :: more) =
      (.string (string (more.length + 1) .start more).1,
        (string (more.length + 1) .start more).2) := rfl

theorem ReadsString.reads (h : ReadsString body quoted) :
    Reads ('"' :: (body ++ ['"'])) (.string quoted) := by
  refine reads_of_value rfl (by decide) fun fuel tail _ _ => ?_
  have hlength : body.length < (body.map some ++ some '"' :: tail).length + 1 := by
    simp only [List.length_append, List.length_map, List.length_cons]
    omega
  have hread := h _ tail hlength
  simp only [List.map_cons, List.map_append, List.map_nil, List.cons_append, List.append_assoc,
    List.nil_append, value_quote, hread]

-- ---------------------------------------------------------------------------
-- Lists
-- ---------------------------------------------------------------------------

def rowTail : List (List Char) → List Char
  | [] => []
  | text :: rest => ',' :: [','].intercalate (text :: rest)

theorem intercalate_cons (text : List Char) (rest : List (List Char)) :
    [','].intercalate (text :: rest) = text ++ rowTail rest := by
  cases rest with
  | nil => simp [rowTail]
  | cons => simp [rowTail, List.intercalate_cons_cons]

theorem items_last (hv : value fuel source = (node, some rest))
    (hs : skipBlanks rest = some ']' :: tail) :
    items (fuel + 1) source = ([node], .closed, some tail) := by
  simp only [items, hv, hs]

theorem items_comma (hv : value fuel source = (node, some rest))
    (hs : skipBlanks rest = some ',' :: behind) (hb : skipBlanks behind = some c :: more)
    (hc : c ≠ ']') :
    items (fuel + 1) source = (node :: (items fuel behind).1, (items fuel behind).2) := by
  rw [← items_skipBlanks fuel behind, hb]
  simp only [items, hv, hs, hb]
  split <;> simp_all

theorem ends_comma (tail : GappedText) : Ends (some ',' :: tail) := ends_cons rfl tail

theorem opens_row {row : List (List Char × Node)} (h : ∀ item ∈ row, Reads item.1 item.2)
    (hne : row ≠ []) (tail : GappedText) :
    ∃ c more, skipBlanks (([','].intercalate (row.map Prod.fst)).map some ++ tail) =
      some c :: more ∧ c ≠ ']' := by
  obtain ⟨item, rest, rfl⟩ := List.exists_cons_of_ne_nil hne
  rw [List.map_cons, intercalate_cons, List.map_append, List.append_assoc]
  exact (h item List.mem_cons_self).opens _

theorem items_row {row : List (List Char × Node)} (h : ∀ item ∈ row, Reads item.1 item.2)
    (hne : row ≠ []) (hfuel : 3 * ([','].intercalate (row.map Prod.fst)).length < fuel)
    (tail : GappedText) :
    items fuel (([','].intercalate (row.map Prod.fst)).map some ++ some ']' :: tail) =
      (row.map Prod.snd, .closed, some tail) := by
  induction row generalizing fuel with
  | nil => exact absurd rfl hne
  | cons item rest ih =>
    obtain ⟨fuel, rfl⟩ : ∃ more, fuel = more + 1 := ⟨fuel - 1, by omega⟩
    obtain ⟨hitem, hrest⟩ := List.forall_mem_cons.mp h
    rw [List.map_cons, intercalate_cons, List.length_append] at hfuel
    rw [List.map_cons, intercalate_cons, List.map_append, List.append_assoc]
    cases rest with
    | nil =>
      obtain ⟨after, hvalue, hskip⟩ :=
        hitem.value fuel _ (ends_cons (c := some ']') rfl tail) (by omega)
      exact items_last hvalue hskip
    | cons second others =>
      obtain ⟨c, more, hopens, hend⟩ :=
        opens_row hrest (List.cons_ne_nil _ _) (some ']' :: tail)
      simp only [List.map_cons, rowTail, List.length_cons] at hfuel hopens ih ⊢
      have hmore : items fuel _ = _ := ih hrest (List.cons_ne_nil _ _) (by omega)
      obtain ⟨after, hvalue, hskip⟩ := hitem.value fuel _ (ends_comma _) (by omega)
      rw [List.cons_append, items_comma hvalue hskip hopens hend, hmore]

theorem list_opens (hs : skipBlanks source = some c :: more) (hc : c ≠ ']') (fuel : Nat) :
    list (fuel + 1) source = items fuel source := by
  rw [← items_skipBlanks fuel source, hs]
  simp only [list, hs]
  split <;> simp_all

theorem value_bracket (fuel : Nat) (more : GappedText) :
    value (fuel + 1) (some '[' :: more) =
      (.array (list fuel more).1 (list fuel more).2.1, (list fuel more).2.2) := rfl

theorem reads_emptyArray (hg : Gap gap) : Reads ('[' :: (gap ++ [']'])) (.array [] .closed) := by
  refine reads_of_value rfl (by decide) fun fuel tail _ hfuel => ?_
  obtain ⟨fuel, rfl⟩ : ∃ less, fuel = less + 1 := ⟨fuel - 1, by omega⟩
  have hskip : skipBlanks (gap.map some ++ some ']' :: tail) = some ']' :: tail :=
    hg.skipBlanks _
  simp only [List.map_cons, List.map_append, List.map_nil, List.cons_append, List.append_assoc,
    List.nil_append, value_bracket, list, hskip]

theorem reads_array {row : List (List Char × Node)}
    (h : ∀ item ∈ row, Reads item.1 item.2) (hne : row ≠ []) :
    Reads ('[' :: ([','].intercalate (row.map Prod.fst) ++ [']']))
      (.array (row.map Prod.snd) .closed) := by
  refine reads_of_value rfl (by decide) fun fuel tail _ hfuel => ?_
  rw [List.length_append, List.length_singleton] at hfuel
  obtain ⟨fuel, rfl⟩ : ∃ less, fuel = less + 1 := ⟨fuel - 1, by omega⟩
  obtain ⟨c, more, hopens, hend⟩ := opens_row h hne (some ']' :: tail)
  have hitems : items fuel _ = _ := items_row h hne (by omega) tail
  simp only [List.map_cons, List.map_append, List.map_nil, List.cons_append, List.append_assoc,
    List.nil_append, value_bracket, list_opens hopens hend, hitems]

-- ---------------------------------------------------------------------------
-- Objects
-- ---------------------------------------------------------------------------

end Reader

/-- An entry of an object as it is written, with what it stands for. The value has the blanks
around it. -/
structure EntryText where
  before : List Char
  key : List Char
  quoted : Quoted
  after : List Char
  value : List Char
  node : Node

namespace EntryText

def body (entry : EntryText) : List Char :=
  entry.key ++ '"' :: (entry.after ++ ':' :: entry.value)

def chars (entry : EntryText) : List Char := entry.before ++ '"' :: entry.body

def entry (entry : EntryText) : Quoted × Option Cause × Node := (entry.quoted, none, entry.node)

structure Readable (entry : EntryText) : Prop where
  before : Gap entry.before
  key : Reader.ReadsString entry.key entry.quoted
  after : Gap entry.after
  value : Reader.Reads entry.value entry.node

end EntryText

namespace Reader

variable {first : EntryText}

theorem entries_last (hkey : string (source.length + 1) .start source = (key, some after))
    (hcolon : skipBlanks after = some ':' :: behind)
    (hv : value fuel behind = (node, some rest)) (hs : skipBlanks rest = some '\x7d' :: tail) :
    entries (fuel + 1) source = ([(key, none, node)], .closed, some tail) := by
  simp only [entries, hkey, hcolon, hv, hs]

theorem entries_comma (hkey : string (source.length + 1) .start source = (key, some after))
    (hcolon : skipBlanks after = some ':' :: behind)
    (hv : value fuel behind = (node, some rest)) (hs : skipBlanks rest = some ',' :: next)
    (hquote : skipBlanks next = some '"' :: more) :
    entries (fuel + 1) source =
      ((key, none, node) :: (entries fuel more).1, (entries fuel more).2) := by
  simp only [entries, hkey, hcolon, hv, hs, hquote]

theorem entries_row {rest : List EntryText} (hfirst : first.Readable)
    (hrest : ∀ entry ∈ rest, entry.Readable)
    (hfuel : 3 * (first.body ++ rowTail (rest.map EntryText.chars)).length ≤ fuel)
    (tail : GappedText) :
    entries fuel ((first.body ++ rowTail (rest.map EntryText.chars)).map some ++
        some '\x7d' :: tail) =
      (first.entry :: rest.map EntryText.entry, .closed, some tail) := by
  induction rest generalizing first fuel with
  | nil =>
    simp only [List.map_nil, rowTail, List.append_nil, EntryText.body, List.length_append,
      List.length_cons] at hfuel
    obtain ⟨fuel, rfl⟩ : ∃ more, fuel = more + 1 := ⟨fuel - 1, by omega⟩
    obtain ⟨behind, hvalue, hskip⟩ :=
      hfirst.value.value fuel _ (ends_cons (c := some '\x7d') rfl tail) (by omega)
    simp only [List.map_nil, rowTail, List.append_nil, EntryText.body, List.map_append,
      List.map_cons, List.append_assoc, List.cons_append]
    refine entries_last (hfirst.key _ _ ?_) (hfirst.after.skipBlanks _) hvalue hskip
    simp only [List.length_append, List.length_map]
    omega
  | cons second others ih =>
    obtain ⟨hsecond, hothers⟩ := List.forall_mem_cons.mp hrest
    have htail : rowTail ((second :: others).map EntryText.chars) =
        ',' :: (second.before ++ '"' :: (second.body ++ rowTail (others.map EntryText.chars))) := by
      rw [List.map_cons, rowTail, intercalate_cons, EntryText.chars, List.append_assoc,
        List.cons_append]
    rw [htail] at hfuel ⊢
    simp only [EntryText.body, List.length_append, List.length_cons] at hfuel
    obtain ⟨fuel, rfl⟩ : ∃ more, fuel = more + 1 := ⟨fuel - 1, by omega⟩
    have hmore : entries fuel _ = _ := ih hsecond hothers
      (by simp only [EntryText.body, List.length_append, List.length_cons]; omega)
    simp only [EntryText.body, List.map_append, List.map_cons, List.append_assoc,
      List.cons_append] at hmore ⊢
    obtain ⟨behind, hvalue, hskip⟩ := hfirst.value.value fuel _ (ends_comma _) (by omega)
    rw [entries_comma (hfirst.key _ _ ?_) (hfirst.after.skipBlanks _) hvalue hskip
      (hsecond.before.skipBlanks _), hmore]
    · rfl
    · simp only [List.length_append, List.length_map]
      omega

theorem value_brace (hs : skipBlanks more = some '"' :: source) (fuel : Nat) :
    value (fuel + 1) (some '\x7b' :: more) =
      (.object (entries fuel source).1 (entries fuel source).2.1, (entries fuel source).2.2) := by
  have hopen : skipBlanks (some '\x7b' :: more) = some '\x7b' :: more := rfl
  rw [value.eq_def]
  simp only [hopen, hs]

theorem reads_emptyObject (hg : Gap gap) :
    Reads ('\x7b' :: (gap ++ ['\x7d'])) (.object [] .closed) := by
  refine reads_of_value rfl (by decide) fun fuel tail _ hfuel => ?_
  have hskip : skipBlanks (gap.map some ++ some '\x7d' :: tail) = some '\x7d' :: tail :=
    hg.skipBlanks _
  have hopen (more : GappedText) : skipBlanks (some '\x7b' :: more) = some '\x7b' :: more := rfl
  rw [value.eq_def]
  simp only [List.map_cons, List.map_append, List.map_nil, List.cons_append, List.append_assoc,
    List.nil_append, hopen, hskip]

theorem reads_object {row : List EntryText} (h : ∀ entry ∈ row, entry.Readable) (hne : row ≠ []) :
    Reads ('\x7b' :: ([','].intercalate (row.map EntryText.chars) ++ ['\x7d']))
      (.object (row.map EntryText.entry) .closed) := by
  refine reads_of_value rfl (by decide) fun fuel tail _ hfuel => ?_
  obtain ⟨first, rest, rfl⟩ := List.exists_cons_of_ne_nil hne
  obtain ⟨hfirst, hrest⟩ := List.forall_mem_cons.mp h
  simp only [List.map_cons, intercalate_cons, EntryText.chars, List.length_cons,
    List.length_append] at hfuel
  have hentries : entries fuel _ = _ :=
    entries_row hfirst hrest (by simp only [List.length_append]; omega) tail
  simp only [List.map_cons, intercalate_cons, EntryText.chars, List.map_append, List.map_nil,
    List.append_assoc, List.cons_append, List.nil_append] at hentries ⊢
  rw [value_brace (hfirst.before.skipBlanks _), hentries]

-- ---------------------------------------------------------------------------
-- Whole texts
-- ---------------------------------------------------------------------------

theorem Reads.document {text : List Char} (h : Reads text node) :
    Document.ofText (text.map some) = ⟨node, false⟩ := by
  obtain ⟨rest, hvalue, hskip⟩ :=
    h.value (3 * (text.map some).length + 3) [] ends_nil (by simp)
  rw [List.append_nil] at hvalue
  simp only [Document.ofText, hvalue, hskip]
  rfl

end Reader

end RefViewer.Json
