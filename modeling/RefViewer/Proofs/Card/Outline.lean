import RefViewer.Card.Basic
import RefViewer.Proofs.Card.Tree

/-!
# What a card can hold

`html_cut`: cutting the card of an entry gives the elements and attributes that the shape of
the entry fixes, no text or value of it can be taken for markup, and the texts say what the
entry holds. Names and security texts of any kind do not change that.
-/

namespace RefViewer

open Markup
open Html (Safe Tidy TidyAttributes escape hasElement leaves marks)

namespace Card

-- ---------------------------------------------------------------------------
-- Shapes
-- ---------------------------------------------------------------------------

structure ItemShape where
  deprecated : Bool
  hidden : Bool
  unscriptable : Bool
  secured : Bool
  deriving DecidableEq, Repr

/-- What of an entry shows in the elements of its card. -/
inductive Shape where
  | member (flags : Flags) (secured inherits : Bool)
  | enumType (items : List ItemShape)
  deriving DecidableEq, Repr

def itemShape (item : EnumItem) : ItemShape :=
  ⟨item.flags.deprecated, item.flags.hidden, item.flags.unscriptable, item.security.isSome⟩

def shape : Entry → Shape
  | .member m => .member m.flags m.security.isSome (!m.inheritance.isEmpty)
  | .enumType e => .enumType (e.items.map itemShape)

def divMarks (inner : List Mark) : List Mark := around "div" ["class"] inner

def spanMarks : List Mark := around "span" ["class"] []

def tagMarks (conditions : List Bool) : List Mark :=
  (conditions.filter id).flatMap fun _ => spanMarks

def titleMarks : List Mark := divMarks (around "a" ["href", "target", "rel", "class"] [])

def memberMarks (flags : Flags) (secured inherits : Bool) : List Mark :=
  let tags := tagMarks
    [true, flags.unreplicated, flags.deprecated, flags.hidden, flags.unscriptable, secured]
  divMarks <|
    divMarks
      (around "div" []
        (titleMarks ++ divMarks [] ++ if inherits then divMarks [] else []) ++
      divMarks tags) ++
    divMarks (divMarks (spanMarks ++ spanMarks))

def itemMarks (item : ItemShape) : List Mark :=
  let tags := tagMarks [item.deprecated, item.hidden, item.unscriptable, item.secured]
  divMarks (divMarks (spanMarks ++ spanMarks) ++ if tags = [] then [] else divMarks tags)

def enumMarks (items : List ItemShape) : List Mark :=
  divMarks <|
    divMarks (around "div" [] (titleMarks ++ divMarks []) ++ divMarks spanMarks) ++
    divMarks (items.flatMap itemMarks)

def outline : Shape → List Mark
  | .member flags secured inherits => memberMarks flags secured inherits
  | .enumType items => enumMarks items

-- ---------------------------------------------------------------------------
-- Contents
-- ---------------------------------------------------------------------------

def kindLabel : MemberType → String
  | .property => "Property"
  | .function => "Function"
  | .event => "Event"
  | .callback => "Callback"
  | .unknown => "Unknown"

def labelIf (on : Bool) (label : String) : List String := if on then [label] else []

def memberLabels (m : Member) : List String :=
  [kindLabel m.memberType] ++
    labelIf m.flags.unreplicated "Unreplicated" ++ labelIf m.flags.deprecated "Deprecated" ++
    labelIf m.flags.hidden "Hidden" ++ labelIf m.flags.unscriptable "Unscriptable" ++
    m.security.toList

def itemLabels (item : EnumItem) : List String :=
  labelIf item.flags.deprecated "Deprecated" ++ labelIf item.flags.hidden "Hidden" ++
    labelIf item.flags.unscriptable "Unscriptable" ++ item.security.toList

def valueText : EnumValue → String
  | .integer i => toString i.toInt
  | .float x => x.toText
  | .text text => text
  | .bool true => "true"
  | .bool false => "false"
  | .null => ""

def itemContents (item : EnumItem) : List String :=
  item.name :: valueText item.value :: itemLabels item

/-- What a card says, in its order. -/
def contents : Entry → List String
  | .member m =>
    m.name :: m.className ::
      ((if m.inheritance = [] then [] else ["Inherits: " ++ " → ".intercalate m.inheritance]) ++
        memberLabels m ++ ["Type:", m.valueType.getD "N/A"])
  | .enumType e =>
    e.name :: s!"Enum ({e.items.length} items)" :: "Enum" ::
      -- Without items their container is empty.
      if e.items = [] then [""] else e.items.flatMap itemContents

-- ---------------------------------------------------------------------------
-- Tags
-- ---------------------------------------------------------------------------

/-- The tags that are not given by an entry but by its kind and flags. -/
def labels : List String :=
  ["Property", "Function", "Event", "Callback", "Unknown",
   "Unreplicated", "Deprecated", "Hidden", "Unscriptable"]

theorem flagTags_cons (on : Bool) (label : String) (rest : List (Bool × String)) :
    flagTags ((on, label) :: rest) = labelIf on label ++ flagTags rest := by
  cases on <;> rfl

theorem flagTags_nil : flagTags [] = [] := rfl

theorem text_eq_kindLabel (kind : MemberType) : kind.text = kindLabel kind := by
  cases kind <;> rfl

theorem memberTags_eq (m : Member) : memberTags m = memberLabels m := by
  simp only [memberTags, memberLabels, text_eq_kindLabel, flagTags_cons, flagTags_nil,
    List.append_assoc, List.cons_append, List.nil_append]

theorem itemTags_eq (item : EnumItem) : itemTags item = itemLabels item := by
  simp only [itemTags, itemLabels, flagTags_cons, flagTags_nil, List.append_assoc,
    List.nil_append]

theorem display_eq (value : EnumValue) : value.display = valueText value := by
  cases value with
  | bool b => cases b <;> rfl
  | _ => rfl

theorem clean_lower_label : ∀ label ∈ labels, Clean (Unicode.lower label).toList := by
  decide +kernel

/-- A class is made of a label or is the one for security, never of the text of an entry. -/
theorem clean_tagClass (h : tag ∈ labels ∨ security = some tag) :
    Clean ("tag " ++ tagClass security tag).toList := by
  rw [String.toList_append]
  refine Clean.append (by decide) ?_
  unfold tagClass
  split
  · decide
  · next hne => exact clean_lower_label tag (h.resolve_right hne)

theorem memberType_text_mem_labels (kind : MemberType) : kind.text ∈ labels := by
  cases kind <;> decide

theorem mem_of_mem_flagTags (h : tag ∈ flagTags flags) : tag ∈ flags.map Prod.snd := by
  simp only [flagTags, List.mem_filterMap] at h
  obtain ⟨⟨on, label⟩, hmem, htag⟩ := h
  split at htag
  · obtain rfl : label = tag := by simpa using htag
    exact List.mem_map_of_mem hmem
  · cases htag

theorem mem_labels_of_mem_flagTags (h : tag ∈ flagTags flags)
    (hl : flags.map Prod.snd ⊆ labels) : tag ∈ labels :=
  hl (mem_of_mem_flagTags h)

theorem mem_memberTags (h : tag ∈ memberTags m) : tag ∈ labels ∨ m.security = some tag := by
  simp only [memberTags, List.cons_append, List.mem_cons, List.mem_append,
    Option.mem_toList] at h
  rcases h with rfl | hflag | hsecurity
  · exact .inl (memberType_text_mem_labels m.memberType)
  · exact .inl (mem_labels_of_mem_flagTags hflag (by simp [labels]))
  · exact .inr hsecurity

theorem mem_itemTags (h : tag ∈ itemTags item) : tag ∈ labels ∨ item.security = some tag := by
  simp only [itemTags, List.mem_append, Option.mem_toList] at h
  rcases h with hflag | hsecurity
  · exact .inl (mem_labels_of_mem_flagTags hflag (by simp [labels]))
  · exact .inr hsecurity

-- ---------------------------------------------------------------------------
-- Tidiness
-- ---------------------------------------------------------------------------

theorem tidy_tagHtml (h : tag ∈ labels ∨ security = some tag) : Tidy (tagHtml security tag) :=
  .span (clean_tagClass h)

theorem tidy_titleHtml (address name : String) : Tidy (titleHtml address name) := by
  refine .div (by decide) (List.forall_mem_singleton.mpr (.leaf (by decide) ?_))
  -- The address is the only value that an entry decides.
  simp only [TidyAttributes, List.forall_mem_cons]
  exact ⟨⟨by decide, clean_escape address⟩, by decide, by decide, by decide,
    List.forall_mem_nil _⟩

theorem tidy_names (address name cls : String) (ancestors : List Html)
    (h : ∀ child ∈ ancestors, Tidy child) :
    Tidy (.element "div" []
      ([titleHtml address name, .div "class-name" [.text cls]] ++ ancestors)) := by
  refine .node (by decide) nofun fun child hchild => ?_
  rcases List.mem_append.mp hchild with htitle | hancestor
  · exact Tidy.pair (tidy_titleHtml address name) (.textDiv (by decide)) child htitle
  · exact h child hancestor

theorem tidy_memberHtml (m : Member) : Tidy (memberHtml m) := by
  refine .div (by decide) (Tidy.pair
    (.div (by decide) (Tidy.pair (tidy_names _ _ _ _ ?ancestors) (.div (by decide) ?tags)))
    (.div (by decide) (List.forall_mem_singleton.mpr (.div (by decide) ?type))))
  case ancestors =>
    split
    · exact nofun
    · exact List.forall_mem_singleton.mpr (.textDiv (by decide))
  case tags =>
    exact List.forall_mem_map.mpr fun tag htag => tidy_tagHtml (mem_memberTags htag)
  case type => exact Tidy.pair (.span (by decide)) (.span (by decide))

theorem tidy_itemHtml (item : EnumItem) : Tidy (itemHtml item) := by
  refine .div (by decide) (List.forall_mem_cons.mpr ⟨.div (by decide) ?header, ?tags⟩)
  case header => exact Tidy.pair (.span (by decide)) (.span (by decide))
  case tags =>
    split
    · exact nofun
    · refine List.forall_mem_singleton.mpr (.div (by decide) ?_)
      exact List.forall_mem_map.mpr fun tag htag => tidy_tagHtml (mem_itemTags htag)

theorem tidy_enumHtml (e : EnumType) : Tidy (enumHtml e) := by
  refine .div (by decide) (Tidy.pair
    (.div (by decide) (Tidy.pair (tidy_names _ _ _ [] nofun) (.div (by decide) ?tags)))
    (.div (by decide) ?items))
  case tags => exact List.forall_mem_singleton.mpr (.span (by decide))
  case items => exact List.forall_mem_map.mpr fun item _ => tidy_itemHtml item

theorem tidy_tree (entry : Entry) : Tidy (tree entry) := by
  cases entry with
  | member m => exact tidy_memberHtml m
  | enumType e => exact tidy_enumHtml e

-- ---------------------------------------------------------------------------
-- Marks
-- ---------------------------------------------------------------------------

@[simp] theorem marks_div (cls : String) (children : List Html) :
    marks (.div cls children) = divMarks (children.flatMap marks) := by
  simp [Html.div, divMarks]

@[simp] theorem marks_span (cls s : String) : marks (.span cls s) = spanMarks := by
  simp [Html.span, spanMarks]

theorem marks_flagTags (flags : List (Bool × String)) :
    ((flagTags flags).flatMap fun _ => spanMarks) = tagMarks (flags.map Prod.fst) := by
  induction flags with
  | nil => rfl
  | cons flag rest ih =>
    obtain ⟨on, label⟩ := flag
    cases on <;> simpa [flagTags, tagMarks] using ih

theorem marks_security (security : Option String) :
    (security.toList.flatMap fun _ => spanMarks) = tagMarks [security.isSome] := by
  cases security <;> rfl

theorem tagMarks_append (a b : List Bool) : tagMarks (a ++ b) = tagMarks a ++ tagMarks b := by
  simp [tagMarks]

theorem marks_tagHtml (security : Option String) (tags : List String) :
    (tags.map (tagHtml security)).flatMap marks = tags.flatMap fun _ => spanMarks := by
  simp [tagHtml, List.flatMap_map]

theorem marks_memberTags (m : Member) :
    ((memberTags m).flatMap fun _ => spanMarks) =
      tagMarks [true, m.flags.unreplicated, m.flags.deprecated, m.flags.hidden,
        m.flags.unscriptable, m.security.isSome] := by
  have hkind : spanMarks = tagMarks [true] := rfl
  simp only [memberTags, List.flatMap_append, List.flatMap_cons, marks_flagTags, marks_security]
  rw [hkind, ← tagMarks_append, ← tagMarks_append]
  rfl

theorem marks_itemTags (item : EnumItem) :
    ((itemTags item).flatMap fun _ => spanMarks) =
      tagMarks [item.flags.deprecated, item.flags.hidden, item.flags.unscriptable,
        item.security.isSome] := by
  simp only [itemTags, List.flatMap_append, marks_flagTags, marks_security]
  rw [← tagMarks_append]
  rfl

theorem marks_titleHtml (address name : String) : marks (titleHtml address name) = titleMarks := by
  simp [titleHtml, titleMarks]

theorem marks_memberHtml (m : Member) :
    marks (memberHtml m) = outline (shape (.member m)) := by
  have hinheritance : (if m.inheritance = [] then [] else
      [Html.div "inheritance" [.text ("Inherits: " ++ ancestry m)]]).flatMap marks =
        if !m.inheritance.isEmpty then divMarks [] else [] := by
    by_cases hi : m.inheritance = [] <;> simp [hi]
  simp [memberHtml, outline, shape, memberMarks, marks_titleHtml, marks_tagHtml,
    marks_memberTags, hinheritance]

theorem marks_itemHtml (item : EnumItem) : marks (itemHtml item) = itemMarks (itemShape item) := by
  have hnone : itemTags item = [] ↔ ((itemTags item).flatMap fun _ => spanMarks) = [] := by
    cases itemTags item <;> simp [spanMarks, around]
  rw [marks_itemTags] at hnone
  rw [itemMarks]
  by_cases htags : itemTags item = []
  · simp [itemHtml, itemShape, htags, hnone.mp htags]
  · simp [itemHtml, itemShape, htags, mt hnone.mpr htags, marks_tagHtml, marks_itemTags]

theorem marks_enumHtml (e : EnumType) : marks (enumHtml e) = outline (shape (.enumType e)) := by
  simp [enumHtml, outline, shape, enumMarks, marks_titleHtml, List.flatMap_map, marks_itemHtml]

theorem marks_tree (entry : Entry) : marks (tree entry) = outline (shape entry) := by
  cases entry with
  | member m => exact marks_memberHtml m
  | enumType e => exact marks_enumHtml e

-- ---------------------------------------------------------------------------
-- Leaves
-- ---------------------------------------------------------------------------

theorem leaves_div (h : hasElement children = true) (cls : String) :
    leaves (.div cls children) = children.flatMap leaves := Html.leaves_element h "div" _

theorem leaves_names (address name cls : String) (ancestors : List Html) :
    leaves (.element "div" []
      ([titleHtml address name, .div "class-name" [.text cls]] ++ ancestors)) =
        name :: cls :: ancestors.flatMap leaves := by
  rw [Html.leaves_element rfl, List.flatMap_append]
  rfl

theorem leaves_tags (h : tags ≠ []) (cls : String) (security : Option String) :
    leaves (.div cls (tags.map (tagHtml security))) = tags := by
  have helement : hasElement (tags.map (tagHtml security)) = true := by
    obtain ⟨tag, rest, rfl⟩ := List.exists_cons_of_ne_nil h
    rfl
  rw [leaves_div helement, List.flatMap_map]
  exact List.flatMap_singleton' tags

theorem leaves_memberHtml (m : Member) : leaves (memberHtml m) = contents (.member m) := by
  have hancestors : (if m.inheritance = [] then [] else
      [Html.div "inheritance" [.text ("Inherits: " ++ ancestry m)]]).flatMap leaves =
        if m.inheritance = [] then [] else ["Inherits: " ++ ancestry m] := by
    split <;> rfl
  have htags : memberTags m ≠ [] := List.cons_ne_nil _ _
  rw [memberHtml, leaves_div rfl, List.flatMap_cons, List.flatMap_singleton, leaves_div rfl,
    List.flatMap_cons, List.flatMap_singleton, leaves_names, leaves_tags htags, hancestors,
    memberTags_eq]
  rfl

theorem leaves_itemHtml (item : EnumItem) : leaves (itemHtml item) = itemContents item := by
  rw [itemHtml, leaves_div rfl, List.flatMap_cons, itemContents, ← display_eq, ← itemTags_eq]
  by_cases htags : itemTags item = []
  · rw [if_pos htags, htags]
    rfl
  · rw [if_neg htags, List.flatMap_singleton, leaves_tags htags]
    rfl

theorem leaves_enumHtml (e : EnumType) : leaves (enumHtml e) = contents (.enumType e) := by
  have hitems : leaves (.div "enum-items-container" (e.items.map itemHtml)) =
      if e.items = [] then [""] else e.items.flatMap itemContents := by
    cases hi : e.items with
    | nil => rfl
    | cons item rest =>
      rw [leaves_div rfl, if_neg (List.cons_ne_nil _ _), List.flatMap_map]
      simp only [leaves_itemHtml]
  rw [enumHtml, leaves_div rfl, List.flatMap_cons, List.flatMap_singleton, hitems]
  rfl

theorem leaves_tree (entry : Entry) : leaves (tree entry) = contents entry := by
  cases entry with
  | member m => exact leaves_memberHtml m
  | enumType e => exact leaves_enumHtml e

-- ---------------------------------------------------------------------------
-- Cards
-- ---------------------------------------------------------------------------

/-- What a card is cut into is fixed by the shape of its entry, nothing in a text or in the
value of an attribute can be taken for markup, and the texts without their entities are those
of the entry. -/
theorem html_cut (entry : Entry) :
    ∃ pieces, cut (html entry) = some pieces ∧
      pieces.map (·.tag.mark) = outline (shape entry) ∧
      (∀ piece ∈ pieces, Safe piece) ∧
      (∀ run ∈ looseTexts pieces, run = []) ∧
      (leafTexts pieces).map (fun run => String.ofList (unescape run)) = contents entry := by
  have htidy := tidy_tree entry
  refine ⟨(tree entry).pieces, htidy.cut_render, marks_tree entry, htidy.safe,
    htidy.looseTexts_pieces, ?_⟩
  rw [htidy.leafTexts_pieces, leaves_tree, List.map_map]
  have hback (s : String) : String.ofList (unescape (escape s).toList) = s := by
    rw [unescape_escape, String.ofList_toList]
  simp [Function.comp_def, hback]

end Card

end RefViewer
