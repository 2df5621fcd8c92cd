import RefViewer.Proofs.Card.Markup

/-!
# Trees and their pieces

A tidy tree has names of letters and clean attribute values, and an element of it holds
either one text or elements. Cutting its written form gives back its elements and its texts,
`Html.Tidy.cut_render` and `Html.Tidy.leafTexts_pieces`.
-/

namespace RefViewer

open Markup (Tag Piece Clean Letters)

namespace Markup

/-- What is left of a tag without the values of its attributes. -/
inductive Mark where
  | opening (name : String) (keys : List String)
  | closing (name : String)
  deriving DecidableEq, Repr

def Tag.mark : Tag → Mark
  | .opening name attributes => .opening (.ofList name) (attributes.map fun (key, _) => .ofList key)
  | .closing name => .closing (.ofList name)

def around (name : String) (keys : List String) (inside : List Mark) : List Mark :=
  .opening name keys :: (inside ++ [.closing name])

def Tag.values : Tag → List (List Char)
  | .opening _ attributes => attributes.map Prod.snd
  | .closing _ => []

def closes : List Piece → Bool
  | ⟨.closing _, _⟩ :: _ => true
  | _ => false

/-- The texts of elements without inner elements. -/
def leafTexts : List Piece → List (List Char)
  | [] => []
  | ⟨.opening _ _, text⟩ :: rest =>
    if closes rest then text :: leafTexts rest else leafTexts rest
  | ⟨.closing _, _⟩ :: rest => leafTexts rest

def looseTexts : List Piece → List (List Char)
  | [] => []
  | ⟨.opening _ _, text⟩ :: rest =>
    if closes rest then looseTexts rest else text :: looseTexts rest
  | ⟨.closing _, text⟩ :: rest => text :: looseTexts rest

end Markup

namespace Html

-- ---------------------------------------------------------------------------
-- Trees
-- ---------------------------------------------------------------------------

def ownText : List Html → String
  | [.text s] => s
  | _ => ""

def hasElement : List Html → Bool
  | [] => false
  | .text _ :: rest => hasElement rest
  | .element _ _ _ :: _ => true

def attributeChars (attributes : List (String × String)) : List (List Char × List Char) :=
  attributes.map fun (key, value) => (key.toList, value.toList)

mutual

def pieces : Html → List Piece
  | .text _ => []
  | .element name attributes children =>
    ⟨.opening name.toList (attributeChars attributes), (escape (ownText children)).toList⟩ ::
      (piecesAll children ++ [⟨.closing name.toList, []⟩])

def piecesAll : List Html → List Piece
  | [] => []
  | html :: rest => html.pieces ++ piecesAll rest

end

mutual

def leaves : Html → List String
  | .text _ => []
  | .element _ _ children =>
    if hasElement children then leavesAll children else [ownText children]

def leavesAll : List Html → List String
  | [] => []
  | html :: rest => html.leaves ++ leavesAll rest

end

def TidyAttributes (attributes : List (String × String)) : Prop :=
  ∀ a ∈ attributes, Letters a.1.toList ∧ Clean a.2.toList

/-- An element with names that need no care, values that can stand between quotes, and either
one text or only elements in it. -/
inductive Tidy : Html → Prop where
  | leaf (hn : Letters name.toList) (ha : TidyAttributes attributes) :
    Tidy (.element name attributes [.text s])
  | node (hn : Letters name.toList) (ha : TidyAttributes attributes)
    (hc : ∀ child ∈ children, Tidy child) : Tidy (.element name attributes children)

-- ---------------------------------------------------------------------------
-- Cutting a written tree
-- ---------------------------------------------------------------------------

def attributesChars (attributes : List (String × String)) : List Char :=
  attributes.flatMap fun (key, value) =>
    ' ' :: key.toList ++ '=' :: '"' :: value.toList ++ ['"']

open Markup

theorem cutAttributes_chars (ha : TidyAttributes attributes) (rest : List Char) :
    cutAttributes (attributesChars attributes ++ '>' :: rest) =
      (cutText rest).map fun cut => (attributeChars attributes, cut) := by
  induction attributes with
  | nil => rfl
  | cons a more ih =>
    obtain ⟨⟨hk, hv⟩, hm⟩ := List.forall_mem_cons.mp ha
    have hquote : ∀ c ∈ a.2.toList, c ≠ '"' := fun c hc => (hv.mem hc).2.2.1
    have hsplit : attributesChars (a :: more) ++ '>' :: rest =
        ' ' :: (a.1.toList ++ '=' :: '"' ::
          (a.2.toList ++ '"' :: (attributesChars more ++ '>' :: rest))) := by
      simp [attributesChars]
    rw [hsplit, cutAttributes, cutKey_letters hk, cutValue_append hquote, ih hm]
    simp [Option.map_map, Function.comp_def, attributeChars]

theorem cutOpening_chars (ha : TidyAttributes attributes) (rest : List Char) :
    cutOpening (attributesChars attributes ++ '>' :: rest) =
      (cutText rest).map fun cut => ([], attributeChars attributes, cut) := by
  -- Behind the name a tag goes on as behind a value.
  have hsame : cutOpening (attributesChars attributes ++ '>' :: rest) =
      (cutAttributes (attributesChars attributes ++ '>' :: rest)).map fun cut => ([], cut) := by
    cases attributes with
    | nil => simp [attributesChars, cutOpening, cutAttributes, Function.comp_def]
    | cons a more => simp [attributesChars, cutOpening, cutAttributes, Function.comp_def]
  rw [hsame, cutAttributes_chars ha]
  simp [Option.map_map, Function.comp_def]

theorem cutText_opening (hn : Letters name) (ha : TidyAttributes attributes) (rest : List Char) :
    cutText ('<' :: (name ++ (attributesChars attributes ++ '>' :: rest))) =
      (cutText rest).map fun (run, pieces) =>
        ([], ⟨.opening name (attributeChars attributes), run⟩ :: pieces) := by
  have hslash : ∀ more, name ++ (attributesChars attributes ++ '>' :: rest) ≠ '/' :: more := by
    intro more he
    cases name with
    | nil =>
      cases attributes with
      | nil => simp [attributesChars] at he
      | cons a others => simp [attributesChars] at he
    | cons c others =>
      obtain ⟨rfl, -⟩ : c = '/' ∧ _ := by simpa using he
      exact absurd hn.cons.1 (by decide)
  rw [cutText.eq_3 _ hslash, cutOpening_letters hn, cutOpening_chars ha]
  simp [Option.map_map, Function.comp_def]

theorem cutText_closing (hn : Letters name) (rest : List Char) :
    cutText ('<' :: '/' :: (name ++ '>' :: rest)) =
      (cutText rest).map fun (run, pieces) => ([], ⟨.closing name, run⟩ :: pieces) := by
  rw [cutText, cutClosing_letters hn]
  simp [Option.map_map, Function.comp_def]

theorem toList_render_element (name : String) (attributes : List (String × String))
    (children : List Html) (rest : List Char) :
    (render (.element name attributes children)).toList ++ rest =
      '<' :: (name.toList ++ (attributesChars attributes ++ '>' ::
        ((renderAll children).toList ++ '<' :: '/' :: (name.toList ++ '>' :: rest)))) := by
  simp [render, List.flatMap_map, attributeText, attributesChars]

theorem cutText_element (hn : Letters name.toList) (ha : TidyAttributes attributes)
    (hc : ∀ rest more, cutText rest = some ([], more) →
      cutText ((renderAll children).toList ++ rest) =
        some ((escape (ownText children)).toList, piecesAll children ++ more))
    (hr : cutText rest = some ([], more)) :
    cutText ((render (.element name attributes children)).toList ++ rest) =
      some ([], pieces (.element name attributes children) ++ more) := by
  have hclosing : cutText ('<' :: '/' :: (name.toList ++ '>' :: rest)) =
      some ([], ⟨.closing name.toList, []⟩ :: more) := by
    rw [cutText_closing hn, hr]
    rfl
  rw [toList_render_element, cutText_opening hn ha, hc _ _ hclosing]
  simp [pieces]

theorem Tidy.not_text : ¬ Tidy (.text s) := nofun

theorem Tidy.isElement (h : Tidy html) :
    ∃ name attributes children, html = .element name attributes children := by
  cases h with
  | leaf | node => exact ⟨_, _, _, rfl⟩

theorem ownText_of_tidy (hc : ∀ child ∈ children, Tidy child) : ownText children = "" := by
  unfold ownText
  split
  · exact absurd (hc _ List.mem_cons_self) Tidy.not_text
  · rfl

/-- What is behind a written element is cut as if it stood alone. -/
theorem Tidy.cutText_render (h : Tidy html) (hr : cutText rest = some ([], more)) :
    cutText (html.render.toList ++ rest) = some ([], html.pieces ++ more) := by
  induction h generalizing rest more with
  | @leaf _ _ s hn ha =>
    apply cutText_element hn ha _ hr
    intro rest more hr
    have hplain : ∀ c ∈ (escape s).toList, c ≠ '<' := fun c hc => ((clean_escape s).mem hc).1
    have hchars : (renderAll [.text s]).toList = (escape s).toList := by
      simp [renderAll, render]
    rw [hchars, cutText_append hplain, hr]
    simp [ownText, piecesAll, pieces]
  | @node _ children _ hn ha hc ih =>
    apply cutText_element hn ha _ hr
    intro rest more hr
    rw [ownText_of_tidy hc]
    clear hc
    induction children with
    | nil => simpa [renderAll, piecesAll, escape] using hr
    | cons child others ihc =>
      obtain ⟨hfirst, hrest⟩ := List.forall_mem_cons.mp ih
      have hothers := ihc hrest
      simp only [renderAll, String.toList_append, List.append_assoc, piecesAll]
      have hempty : (escape "").toList = [] := rfl
      rw [hempty] at hothers ⊢
      exact hfirst hothers

theorem Tidy.cut_render (h : Tidy html) : cut html.render = some html.pieces := by
  have hend : cutText [] = some ([], []) := rfl
  have hcut := h.cutText_render hend
  simp only [List.append_nil] at hcut
  rw [cut, hcut]

-- ---------------------------------------------------------------------------
-- Texts
-- ---------------------------------------------------------------------------

theorem hasElement_of_tidy (hc : ∀ child ∈ children, Tidy child) (hne : children ≠ []) :
    hasElement children = true := by
  cases children with
  | nil => exact absurd rfl hne
  | cons child others =>
    obtain ⟨name, attributes, inside, rfl⟩ := (hc child List.mem_cons_self).isElement
    rfl

/-- The pieces have the texts in their elements, escaped, and none beside them, whatever
follows. -/
def Keeps (pieces : List Piece) (texts : List String) : Prop :=
  ∀ more, leafTexts (pieces ++ more) =
      (texts.map fun s => (escape s).toList) ++ leafTexts more ∧
    ((∀ s ∈ looseTexts more, s = []) → ∀ s ∈ looseTexts (pieces ++ more), s = [])

theorem keeps_nil : Keeps [] [] := fun _ => ⟨rfl, id⟩

theorem Keeps.append (ha : Keeps a s) (hb : Keeps b t) : Keeps (a ++ b) (s ++ t) := by
  intro more
  obtain ⟨hal, hae⟩ := ha (b ++ more)
  obtain ⟨hbl, hbe⟩ := hb more
  rw [List.append_assoc]
  exact ⟨by rw [hal, hbl, List.map_append, List.append_assoc], fun hm => hae (hbe hm)⟩

theorem Keeps.around (h : Keeps inside texts) (hi : ∀ more, closes (inside ++ more) = false)
    (name : List Char) (attributes : List (List Char × List Char)) :
    Keeps (⟨.opening name attributes, []⟩ :: (inside ++ [⟨.closing name, []⟩])) texts := by
  intro more
  obtain ⟨hl, he⟩ := h (⟨.closing name, []⟩ :: more)
  have hopen := hi (⟨.closing name, []⟩ :: more)
  simp only [List.cons_append, List.append_assoc, List.nil_append, leafTexts, looseTexts, hopen,
    Bool.false_eq_true, ↓reduceIte]
  refine ⟨hl, fun hm s hs => ?_⟩
  rcases List.mem_cons.mp hs with rfl | hs
  · rfl
  · exact he (fun s hs => by
      rcases List.mem_cons.mp hs with rfl | hs
      · rfl
      · exact hm s hs) s hs

theorem keeps_leaf (name : List Char) (attributes : List (List Char × List Char)) (s : String) :
    Keeps [⟨.opening name attributes, (escape s).toList⟩, ⟨.closing name, []⟩] [s] := by
  intro more
  exact ⟨by simp [leafTexts, closes], fun hm => by simpa [looseTexts, closes] using hm⟩

/-- The elements without inner elements hold the texts of the tree. -/
theorem Tidy.keeps (h : Tidy html) : Keeps html.pieces html.leaves := by
  induction h with
  | leaf => exact keeps_leaf _ _ _
  | @node _ children _ hn ha hc ih =>
    by_cases hne : children = []
    · subst hne
      exact keeps_leaf _ _ ""
    · have hinner : Keeps (piecesAll children) (leavesAll children) := by
        clear hc hne
        induction children with
        | nil => exact keeps_nil
        | cons child others ihc =>
          obtain ⟨hfirst, hrest⟩ := List.forall_mem_cons.mp ih
          exact hfirst.append (ihc hrest)
      have hopen (more : List Piece) : closes (piecesAll children ++ more) = false := by
        cases children with
        | nil => exact absurd rfl hne
        | cons child others =>
          obtain ⟨_, _, _, rfl⟩ := (hc child List.mem_cons_self).isElement
          rfl
      have hleaves := hinner.around hopen
      rw [leaves, if_pos (hasElement_of_tidy hc hne), pieces, ownText_of_tidy hc]
      exact hleaves _ _

theorem Tidy.leafTexts_pieces (h : Tidy html) :
    leafTexts html.pieces = html.leaves.map fun s => (escape s).toList := by
  simpa [leafTexts] using (h.keeps []).1

theorem Tidy.looseTexts_pieces (h : Tidy html) : ∀ s ∈ looseTexts html.pieces, s = [] := by
  simpa using (h.keeps []).2 nofun

-- ---------------------------------------------------------------------------
-- Clean pieces
-- ---------------------------------------------------------------------------

/-- Neither the text nor a value can be taken for markup. -/
def Safe : Piece → Prop
  | ⟨tag, run⟩ => Clean run ∧ ∀ value ∈ tag.values, Clean value

theorem safe_element (ha : TidyAttributes attributes)
    (hc : ∀ piece ∈ piecesAll children, Safe piece) :
    ∀ piece ∈ pieces (.element name attributes children), Safe piece := by
  intro piece hp
  rw [pieces, List.mem_cons, List.mem_append, List.mem_singleton] at hp
  rcases hp with rfl | hp | rfl
  · refine ⟨clean_escape (ownText children), fun value hv => ?_⟩
    simp only [Tag.values, attributeChars, List.map_map, List.mem_map] at hv
    obtain ⟨a, hmem, rfl⟩ := hv
    exact (ha a hmem).2
  · exact hc piece hp
  · exact ⟨clean_nil, nofun⟩

theorem Tidy.safe (h : Tidy html) : ∀ piece ∈ html.pieces, Safe piece := by
  induction h with
  | leaf _ ha => exact safe_element ha (by simp [piecesAll, pieces])
  | @node _ children _ _ ha hc ih =>
    refine safe_element ha ?_
    clear hc
    induction children with
    | nil => exact nofun
    | cons child others ihc =>
      obtain ⟨hfirst, hrest⟩ := List.forall_mem_cons.mp ih
      rw [piecesAll]
      exact fun piece hp => (List.mem_append.mp hp).elim (hfirst piece) (ihc hrest piece)

-- ---------------------------------------------------------------------------
-- Marks
-- ---------------------------------------------------------------------------

def marks (html : Html) : List Mark := html.pieces.map (·.tag.mark)

theorem map_mark_piecesAll (list : List Html) :
    (piecesAll list).map (·.tag.mark) = list.flatMap marks := by
  induction list with
  | nil => rfl
  | cons html rest ih => rw [piecesAll, List.map_append, ih, List.flatMap_cons, marks]

@[simp] theorem marks_text (s : String) : marks (.text s) = [] := rfl

@[simp] theorem marks_element (name : String) (attributes : List (String × String))
    (children : List Html) :
    marks (.element name attributes children) =
      around name (attributes.map Prod.fst) (children.flatMap marks) := by
  rw [around, ← map_mark_piecesAll]
  simp [marks, pieces, Tag.mark, attributeChars, Function.comp_def]

-- ---------------------------------------------------------------------------
-- Leaves
-- ---------------------------------------------------------------------------

theorem leavesAll_eq (list : List Html) : leavesAll list = list.flatMap leaves := by
  induction list with
  | nil => rfl
  | cons html rest ih => rw [leavesAll, ih, List.flatMap_cons]

theorem leaves_element (h : hasElement children = true) (name : String)
    (attributes : List (String × String)) :
    leaves (.element name attributes children) = children.flatMap leaves := by
  rw [leaves, if_pos h, leavesAll_eq]

-- ---------------------------------------------------------------------------
-- Divisions and spans
-- ---------------------------------------------------------------------------

theorem tidyAttributes_class (hc : Clean cls.toList) : TidyAttributes [("class", cls)] := by
  simp only [TidyAttributes, List.forall_mem_singleton]
  exact ⟨by decide, hc⟩

theorem Tidy.div (hc : Clean cls.toList) (h : ∀ child ∈ children, Tidy child) :
    Tidy (.div cls children) :=
  .node (by decide) (tidyAttributes_class hc) h

theorem Tidy.pair (ha : Tidy a) (hb : Tidy b) : ∀ child ∈ [a, b], Tidy child :=
  List.forall_mem_cons.mpr ⟨ha, List.forall_mem_singleton.mpr hb⟩

theorem Tidy.textDiv (hc : Clean cls.toList) : Tidy (.div cls [.text s]) :=
  .leaf (by decide) (tidyAttributes_class hc)

theorem Tidy.span (hc : Clean cls.toList) : Tidy (.span cls s) :=
  .leaf (by decide) (tidyAttributes_class hc)

end Html

end RefViewer
