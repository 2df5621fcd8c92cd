import RefViewer.Card.Html

/-!
# Cutting markup

A reader of markup that knows nothing of how it was written: a tag runs from `<` to `>`, the
values of its attributes stand between double quotes, and all else is text. Written trees are
cut into the tags of their elements and their escaped texts: `Html.Tidy.cut_render`.
-/

namespace RefViewer

namespace Markup

inductive Tag where
  | opening (name : List Char) (attributes : List (List Char × List Char))
  | closing (name : List Char)
  deriving DecidableEq

/-- A tag with the text up to the next one. -/
structure Piece where
  tag : Tag
  text : List Char
  deriving DecidableEq

-- ---------------------------------------------------------------------------
-- The reader
-- ---------------------------------------------------------------------------

mutual

def cutText : List Char → Option (List Char × List Piece)
  | [] => some ([], [])
  | '<' :: '/' :: rest =>
    (cutClosing rest).map fun (name, text, pieces) => ([], ⟨.closing name, text⟩ :: pieces)
  | '<' :: rest =>
    (cutOpening rest).map fun (name, attributes, text, pieces) =>
      ([], ⟨.opening name attributes, text⟩ :: pieces)
  | c :: rest => (cutText rest).map fun (text, pieces) => (c :: text, pieces)

def cutClosing : List Char → Option (List Char × List Char × List Piece)
  | [] => none
  | '>' :: rest => (cutText rest).map fun cut => ([], cut)
  | c :: rest => (cutClosing rest).map fun (name, cut) => (c :: name, cut)

def cutOpening :
    List Char → Option (List Char × List (List Char × List Char) × List Char × List Piece)
  | [] => none
  | '>' :: rest => (cutText rest).map fun cut => ([], [], cut)
  | ' ' :: rest =>
    (cutKey rest).map fun (key, value, more, cut) => ([], (key, value) :: more, cut)
  | c :: rest => (cutOpening rest).map fun (name, cut) => (c :: name, cut)

def cutKey :
    List Char →
      Option (List Char × List Char × List (List Char × List Char) × List Char × List Piece)
  | [] => none
  | '=' :: '"' :: rest => (cutValue rest).map fun cut => ([], cut)
  | c :: rest => (cutKey rest).map fun (key, cut) => (c :: key, cut)

def cutValue :
    List Char → Option (List Char × List (List Char × List Char) × List Char × List Piece)
  | [] => none
  | '"' :: rest => (cutAttributes rest).map fun cut => ([], cut)
  | c :: rest => (cutValue rest).map fun (value, cut) => (c :: value, cut)

def cutAttributes :
    List Char → Option (List (List Char × List Char) × List Char × List Piece)
  | '>' :: rest => (cutText rest).map fun cut => ([], cut)
  | ' ' :: rest => (cutKey rest).map fun (key, value, more, cut) => ((key, value) :: more, cut)
  | _ => none

end

/-- The pieces of a markup that begins with a tag. -/
def cut (markup : String) : Option (List Piece) :=
  match cutText markup.toList with
  | some ([], pieces) => some pieces
  | _ => none

-- ---------------------------------------------------------------------------
-- Text
-- ---------------------------------------------------------------------------

def entities : List (List Char) :=
  ["&amp;", "&lt;", "&gt;", "&quot;", "&#39;"].map String.toList

/-- No character that means something to markup, but an ampersand in front of an entity. -/
def Clean : List Char → Prop
  | [] => True
  | c :: rest =>
    c ≠ '<' ∧ c ≠ '>' ∧ c ≠ '"' ∧ c ≠ '\'' ∧
      (c = '&' → ∃ entity ∈ entities, entity <+: c :: rest) ∧ Clean rest

instance decidableClean : (text : List Char) → Decidable (Clean text)
  | [] => isTrue trivial
  | c :: rest =>
    have := decidableClean rest
    inferInstanceAs (Decidable (c ≠ '<' ∧ c ≠ '>' ∧ c ≠ '"' ∧ c ≠ '\'' ∧
      (c = '&' → ∃ entity ∈ entities, entity <+: c :: rest) ∧ Clean rest))

def unescape : List Char → List Char
  | '&' :: 'a' :: 'm' :: 'p' :: ';' :: rest => '&' :: unescape rest
  | '&' :: 'l' :: 't' :: ';' :: rest => '<' :: unescape rest
  | '&' :: 'g' :: 't' :: ';' :: rest => '>' :: unescape rest
  | '&' :: 'q' :: 'u' :: 'o' :: 't' :: ';' :: rest => '"' :: unescape rest
  | '&' :: '#' :: '3' :: '9' :: ';' :: rest => '\'' :: unescape rest
  | c :: rest => c :: unescape rest
  | [] => []

-- ---------------------------------------------------------------------------
-- Escaped text
-- ---------------------------------------------------------------------------

theorem clean_nil : Clean [] := trivial

theorem clean_cons : Clean (c :: rest) ↔
    c ≠ '<' ∧ c ≠ '>' ∧ c ≠ '"' ∧ c ≠ '\'' ∧
      (c = '&' → ∃ entity ∈ entities, entity <+: c :: rest) ∧ Clean rest := Iff.rfl

-- Unfolding it on an escaped text would run the escaping.
attribute [irreducible] Clean

theorem Clean.mem {text : List Char} (h : Clean text) (hc : c ∈ text) :
    c ≠ '<' ∧ c ≠ '>' ∧ c ≠ '"' ∧ c ≠ '\'' := by
  induction text with
  | nil => cases hc
  | cons first rest ih =>
    obtain ⟨hl, hg, hq, ha, -, hr⟩ := clean_cons.mp h
    rcases List.mem_cons.mp hc with rfl | hc
    · exact ⟨hl, hg, hq, ha⟩
    · exact ih hr hc

theorem Clean.append (ha : Clean a) (hb : Clean b) : Clean (a ++ b) := by
  induction a with
  | nil => exact hb
  | cons first rest ih =>
    obtain ⟨hl, hg, hq, hap, hm, hr⟩ := clean_cons.mp ha
    refine clean_cons.mpr ⟨hl, hg, hq, hap, fun he => ?_, ih hr⟩
    obtain ⟨entity, hentity, hfront⟩ := hm he
    exact ⟨entity, hentity, hfront.trans (List.prefix_append _ b)⟩

theorem clean_singleton (h : Html.entity? c = none) : Clean [c] := by
  have hne : c ≠ '&' ∧ c ≠ '<' ∧ c ≠ '>' ∧ c ≠ '"' ∧ c ≠ '\'' := by
    refine ⟨?_, ?_, ?_, ?_, ?_⟩ <;>
      · rintro rfl
        simp [Html.entity?] at h
  obtain ⟨hm, hl, hg, hq, ha⟩ := hne
  exact clean_cons.mpr ⟨hl, hg, hq, ha, fun he => absurd he hm, clean_nil⟩

theorem clean_escapeChar (c : Char) : Clean (Html.escapeChar c) := by
  unfold Html.escapeChar
  split
  · next entity he =>
    unfold Html.entity? at he
    split at he <;> simp only [Option.some.injEq, reduceCtorEq] at he <;>
      · subst he
        decide
  · next hn => exact clean_singleton hn

theorem clean_escape (text : String) : Clean (Html.escape text).toList := by
  simp only [Html.escape, String.toList_ofList]
  induction text.toList with
  | nil => exact clean_nil
  | cons c rest ih => exact (clean_escapeChar c).append ih

theorem unescape_cons (hc : c ≠ '&') (rest : List Char) :
    unescape (c :: rest) = c :: unescape rest := by
  rw [unescape.eq_def (c :: rest)]
  split <;> simp_all

theorem unescape_escapeChar (c : Char) (rest : List Char) :
    unescape (Html.escapeChar c ++ rest) = c :: unescape rest := by
  cases he : Html.entity? c with
  | none =>
    have hc : c ≠ '&' := by
      rintro rfl
      simp [Html.entity?] at he
    simpa [Html.escapeChar, he] using unescape_cons hc rest
  | some entity =>
    unfold Html.entity? at he
    split at he <;> simp only [Option.some.injEq, reduceCtorEq] at he <;> rfl

theorem unescape_escape (text : String) :
    unescape (Html.escape text).toList = text.toList := by
  simp only [Html.escape, String.toList_ofList]
  induction text.toList with
  | nil => rfl
  | cons c rest ih => rw [List.flatMap_cons, unescape_escapeChar, ih]

-- ---------------------------------------------------------------------------
-- Parts of a tag
-- ---------------------------------------------------------------------------

def Letters (name : List Char) : Prop := ∀ c ∈ name, c.isAlpha = true

instance (name : List Char) : Decidable (Letters name) :=
  List.decidableBAll _ name

theorem Letters.cons (h : Letters (c :: rest)) : c.isAlpha = true ∧ Letters rest :=
  ⟨h c List.mem_cons_self, fun d hd => h d (List.mem_cons_of_mem c hd)⟩

theorem cutText_cons (hc : c ≠ '<') (rest : List Char) :
    cutText (c :: rest) = (cutText rest).map fun (text, pieces) => (c :: text, pieces) := by
  rw [cutText.eq_def]
  split <;> simp_all

theorem cutText_append (hs : ∀ c ∈ s, c ≠ '<') (rest : List Char) :
    cutText (s ++ rest) = (cutText rest).map fun (text, pieces) => (s ++ text, pieces) := by
  induction s with
  | nil => simp
  | cons c more ih =>
    have hc : c ≠ '<' := hs c List.mem_cons_self
    rw [List.cons_append, cutText_cons hc, ih fun d hd => hs d (List.mem_cons_of_mem c hd)]
    simp [Option.map_map, Function.comp_def]

theorem cutClosing_letters (hn : Letters name) (rest : List Char) :
    cutClosing (name ++ '>' :: rest) = (cutText rest).map fun cut => (name, cut) := by
  induction name with
  | nil => rfl
  | cons c more ih =>
    obtain ⟨hc, hm⟩ := hn.cons
    have hstep : cutClosing (c :: (more ++ '>' :: rest)) =
        (cutClosing (more ++ '>' :: rest)).map fun (name, cut) => (c :: name, cut) := by
      rw [cutClosing.eq_def]
      split <;> simp_all
    rw [List.cons_append, hstep, ih hm]
    simp [Option.map_map, Function.comp_def]

theorem cutOpening_letters (hn : Letters name) (rest : List Char) :
    cutOpening (name ++ rest) =
      (cutOpening rest).map fun (more, cut) => (name ++ more, cut) := by
  induction name with
  | nil => simp
  | cons c more ih =>
    obtain ⟨hc, hm⟩ := hn.cons
    have hstep : cutOpening (c :: (more ++ rest)) =
        (cutOpening (more ++ rest)).map fun (name, cut) => (c :: name, cut) := by
      rw [cutOpening.eq_def]
      split <;> simp_all
    rw [List.cons_append, hstep, ih hm]
    simp [Option.map_map, Function.comp_def]

theorem cutKey_letters (hk : Letters key) (rest : List Char) :
    cutKey (key ++ '=' :: '"' :: rest) = (cutValue rest).map fun cut => (key, cut) := by
  induction key with
  | nil => rfl
  | cons c more ih =>
    obtain ⟨hc, hm⟩ := hk.cons
    have hstep : cutKey (c :: (more ++ '=' :: '"' :: rest)) =
        (cutKey (more ++ '=' :: '"' :: rest)).map fun (key, cut) => (c :: key, cut) := by
      rw [cutKey.eq_def]
      split <;> simp_all
    rw [List.cons_append, hstep, ih hm]
    simp [Option.map_map, Function.comp_def]

theorem cutValue_append (hv : ∀ c ∈ value, c ≠ '"') (rest : List Char) :
    cutValue (value ++ '"' :: rest) = (cutAttributes rest).map fun cut => (value, cut) := by
  induction value with
  | nil => rfl
  | cons c more ih =>
    have hc : c ≠ '"' := hv c List.mem_cons_self
    have hstep : cutValue (c :: (more ++ '"' :: rest)) =
        (cutValue (more ++ '"' :: rest)).map fun (value, cut) => (c :: value, cut) := by
      rw [cutValue.eq_def]
      split <;> simp_all
    rw [List.cons_append, hstep, ih fun d hd => hv d (List.mem_cons_of_mem c hd)]
    simp [Option.map_map, Function.comp_def]

end Markup

end RefViewer
