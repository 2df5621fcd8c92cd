import RefViewer.Proofs.Card.Outline
import Mathlib.Data.List.Basic

/-!
# Classes of tags

A tag of a card is made from a kind, from a flag or from a security text, and its class should
tell which. It is chosen by comparing the tag with the security text, though.
`classes_fit_iff`: the tag for security always has the class of its own, and the other tags
have theirs exactly as long as no security text reads like one of them:
`hidden_shown_as_security`.
-/

namespace RefViewer.Card

open Markup
open Html (escape)

inductive TagField where
  | kind
  | flag
  | security
  deriving DecidableEq, Repr

structure TagSource where
  field : TagField
  text : String
  /-- The security text of the same member or item. -/
  security : Option String
  deriving DecidableEq, Repr

/-- The tags of a member or an item: its kind, if it shows one, its flags that are set, and its
security text, if it has one. -/
def sourcesOf (kind : Option String) (flags : List (Bool × String)) (security : Option String) :
    List TagSource :=
  kind.toList.map (⟨.kind, ·, security⟩) ++
    (flags.filter Prod.fst).map (fun flag => ⟨.flag, flag.2, security⟩) ++
    security.toList.map (⟨.security, ·, security⟩)

def memberSources (m : Member) : List TagSource :=
  sourcesOf (some m.memberType.text)
    [(m.flags.unreplicated, "Unreplicated"), (m.flags.deprecated, "Deprecated"),
      (m.flags.hidden, "Hidden"), (m.flags.unscriptable, "Unscriptable")]
    m.security

def itemSources (item : EnumItem) : List TagSource :=
  sourcesOf none
    [(item.flags.deprecated, "Deprecated"), (item.flags.hidden, "Hidden"),
      (item.flags.unscriptable, "Unscriptable")]
    item.security

def tagSources : Entry → List TagSource
  | .member m => memberSources m
  | .enumType e => ⟨.kind, "Enum", none⟩ :: e.items.flatMap itemSources

namespace TagSource

def fitting (source : TagSource) : String × String :=
  match source.field with
  | .security => ("security", source.text)
  | .kind | .flag => (Unicode.lower source.text, source.text)

def Confused (source : TagSource) : Prop :=
  source.field ≠ .security ∧ source.security = some source.text

instance (source : TagSource) : Decidable source.Confused :=
  inferInstanceAs (Decidable (_ ∧ _))

def shown (source : TagSource) : String × String :=
  if source.Confused then ("security", source.text) else source.fitting

end TagSource

-- ---------------------------------------------------------------------------
-- Tags in a markup
-- ---------------------------------------------------------------------------

/-- The class of a tag and what it says: a tag is a span with two classes, the first of which is
the same for all tags. -/
def shownTag? : Piece → Option (String × String)
  | ⟨.opening name [(key, value)], text⟩ =>
    if name = "span".toList ∧ key = "class".toList then
      (value.dropPrefix? "tag ".toList).map fun cls => (.ofList cls, .ofList (unescape text))
    else none
  | _ => none

def shownTags (pieces : List Piece) : List (String × String) := pieces.filterMap shownTag?

theorem shownTags_element (hn : name ≠ "span") (attributes : List (String × String))
    (children : List Html) :
    shownTags (Html.element name attributes children).pieces =
      children.flatMap fun child => shownTags child.pieces := by
  have hopening (attributes : List (List Char × List Char)) (text : List Char) :
      shownTag? ⟨.opening name.toList attributes, text⟩ = none := by
    have hspan : name.toList ≠ "span".toList := mt String.toList_inj.mp hn
    unfold shownTag?
    split
    · next he =>
      injection he with htag
      injection htag with hname
      rw [if_neg (hname ▸ fun h => hspan h.1)]
    · rfl
  have hclosing : shownTag? ⟨.closing name.toList, []⟩ = none := rfl
  have hchildren : shownTags (Html.piecesAll children) =
      children.flatMap fun child => shownTags child.pieces := by
    induction children with
    | nil => rfl
    | cons child rest ih =>
      rw [Html.piecesAll, shownTags, List.filterMap_append, List.flatMap_cons, ← ih]
      rfl
  rw [Html.pieces, shownTags, List.filterMap_cons_none (hopening _ _), List.filterMap_append,
    List.filterMap_cons_none hclosing, List.filterMap_nil, List.append_nil]
  exact hchildren

theorem shownTags_div (cls : String) (children : List Html) :
    shownTags (Html.div cls children).pieces =
      children.flatMap fun child => shownTags child.pieces :=
  shownTags_element (by decide) _ children

theorem shownTags_span (cls s : String) :
    shownTags (Html.span cls s).pieces =
      ((cls.toList.dropPrefix? "tag ".toList).map fun rest => (String.ofList rest, s)).toList := by
  have htext : String.ofList (unescape (escape s).toList) = s := by
    rw [unescape_escape, String.ofList_toList]
  have hopening : shownTag? ⟨.opening "span".toList [("class".toList, cls.toList)],
      (escape s).toList⟩ = (cls.toList.dropPrefix? "tag ".toList).map fun rest =>
        (String.ofList rest, s) := by
    simp only [shownTag?, and_self, if_true, htext]
  simp only [Html.span, Html.pieces, Html.piecesAll, Html.attributeChars, Html.ownText,
    List.map_cons, List.map_nil, List.append_nil, List.nil_append, shownTags, List.filterMap_cons,
    hopening]
  cases cls.toList.dropPrefix? "tag ".toList <;> rfl

theorem shownTags_tagHtml (security : Option String) (tag : String) :
    shownTags (tagHtml security tag).pieces = [(tagClass security tag, tag)] := by
  have hfront : ("tag " ++ tagClass security tag).toList.dropPrefix? "tag ".toList =
      some (tagClass security tag).toList := by
    rw [String.toList_append]
    exact List.dropPrefix?_append_of_beq _ (beq_self_eq_true _)
  rw [tagHtml, shownTags_span, hfront]
  simp [String.ofList_toList]

theorem shownTags_plain (h : cls.toList.dropPrefix? "tag ".toList = none) (s : String) :
    shownTags (Html.span cls s).pieces = [] := by
  rw [shownTags_span, h]
  rfl

theorem shownTags_tags (cls : String) (security : Option String) (tags : List String) :
    shownTags (Html.div cls (tags.map (tagHtml security))).pieces =
      tags.map fun tag => (tagClass security tag, tag) := by
  rw [shownTags_div, List.flatMap_map]
  simp only [shownTags_tagHtml]
  exact List.map_eq_flatMap.symm

-- ---------------------------------------------------------------------------
-- Tags by their fields
-- ---------------------------------------------------------------------------

theorem flagTags_eq (flags : List (Bool × String)) :
    flagTags flags = (flags.filter Prod.fst).map Prod.snd := by
  induction flags with
  | nil => rfl
  | cons flag rest ih =>
    obtain ⟨on, label⟩ := flag
    cases on <;> simpa [flagTags] using ih

/-- By comparing with the security text, a tag gets the class for its field unless the two read
alike. -/
theorem map_shown_sourcesOf (kind : Option String) (flags : List (Bool × String))
    (security : Option String) :
    (sourcesOf kind flags security).map TagSource.shown =
      (kind.toList ++ flagTags flags ++ security.toList).map fun tag =>
        (tagClass security tag, tag) := by
  have hlabel (field : TagField) (hf : field ≠ .security) (tag : String) :
      TagSource.shown ⟨field, tag, security⟩ = (tagClass security tag, tag) := by
    by_cases hs : security = some tag
    · simp [TagSource.shown, TagSource.Confused, tagClass, hf, hs]
    · cases field with
      | security => exact absurd rfl hf
      | kind | flag => simp [TagSource.shown, TagSource.Confused, TagSource.fitting, tagClass, hs]
  have hsecurity : (security.toList.map (⟨.security, ·, security⟩)).map TagSource.shown =
      security.toList.map fun tag => (tagClass security tag, tag) := by
    cases security with
    | none => rfl
    | some text => simp [TagSource.shown, TagSource.Confused, TagSource.fitting, tagClass]
  simp only [sourcesOf, flagTags_eq, List.map_append, hsecurity, List.map_map,
    Function.comp_def, hlabel .kind (by decide), hlabel .flag (by decide)]

theorem memberTags_shown (m : Member) :
    (memberTags m).map (fun tag => (tagClass m.security tag, tag)) =
      (memberSources m).map TagSource.shown := by
  rw [memberSources, map_shown_sourcesOf]
  rfl

theorem itemTags_shown (item : EnumItem) :
    (itemTags item).map (fun tag => (tagClass item.security tag, tag)) =
      (itemSources item).map TagSource.shown := by
  rw [itemSources, map_shown_sourcesOf]
  rfl

-- ---------------------------------------------------------------------------
-- Tags of a card
-- ---------------------------------------------------------------------------

theorem shownTags_names (address name cls : String) (hc : ∀ child ∈ ancestors, ∃ s t,
      child = Html.div s [.text t]) :
    shownTags (Html.element "div" []
      ([titleHtml address name, .div "class-name" [.text cls]] ++ ancestors)).pieces = [] := by
  have htext (s t : String) : shownTags (Html.div s [.text t]).pieces = [] := shownTags_div s _
  have htitle : shownTags (titleHtml address name).pieces = [] := by
    rw [titleHtml, shownTags_div, List.flatMap_singleton, shownTags_element (by decide)]
    rfl
  rw [shownTags_element (by decide), List.flatMap_eq_nil_iff]
  intro child hchild
  rcases List.mem_append.mp hchild with hchild | hchild
  · simp only [List.mem_cons, List.not_mem_nil, or_false] at hchild
    rcases hchild with rfl | rfl
    · exact htitle
    · exact htext _ _
  · obtain ⟨s, t, rfl⟩ := hc child hchild
    exact htext s t

theorem shownTags_memberHtml (m : Member) :
    shownTags (memberHtml m).pieces = (memberSources m).map TagSource.shown := by
  have hnames : shownTags (Html.element "div" []
      ([titleHtml (Address.member m) m.name, .div "class-name" [.text m.className]] ++
        if m.inheritance = [] then [] else
          [.div "inheritance" [.text ("Inherits: " ++ ancestry m)]])).pieces = [] := by
    refine shownTags_names _ _ _ ?_
    split
    · exact nofun
    · exact List.forall_mem_singleton.mpr ⟨_, _, rfl⟩
  have hdetails : shownTags (Html.div "result-details" [.div "detail-row"
      [.span "detail-label" "Type:", .span "detail-value" (typeText m)]]).pieces = [] := by
    rw [shownTags_div, List.flatMap_singleton, shownTags_div, List.flatMap_cons,
      List.flatMap_singleton, shownTags_plain (by decide), shownTags_plain (by decide)]
    rfl
  rw [memberHtml, shownTags_div, List.flatMap_cons, List.flatMap_singleton, hdetails,
    List.append_nil, shownTags_div, List.flatMap_cons, List.flatMap_singleton, hnames,
    List.nil_append, shownTags_tags, memberTags_shown]

theorem shownTags_itemHtml (item : EnumItem) :
    shownTags (itemHtml item).pieces = (itemSources item).map TagSource.shown := by
  have hheader : shownTags (Html.div "enum-item-header"
      [.span "enum-item-name" item.name, .span "enum-item-value" item.value.display]).pieces =
        [] := by
    rw [shownTags_div, List.flatMap_cons, List.flatMap_singleton, shownTags_plain (by decide),
      shownTags_plain (by decide)]
    rfl
  rw [itemHtml, shownTags_div, List.flatMap_cons, hheader, List.nil_append, ← itemTags_shown]
  split
  · next hnone =>
    rw [hnone]
    rfl
  · rw [List.flatMap_singleton, shownTags_tags]

theorem shownTags_enumHtml (e : EnumType) :
    shownTags (enumHtml e).pieces = (tagSources (.enumType e)).map TagSource.shown := by
  have hitems : shownTags (Html.div "enum-items-container" (e.items.map itemHtml)).pieces =
      (e.items.flatMap itemSources).map TagSource.shown := by
    rw [shownTags_div, List.flatMap_map, List.map_flatMap]
    simp only [shownTags_itemHtml]
  have henum : shownTags (Html.div "tags" [.span "tag enum" "Enum"]).pieces =
      [TagSource.shown ⟨.kind, "Enum", none⟩] := by
    rw [shownTags_div, List.flatMap_singleton, shownTags_span]
    decide +kernel
  have hnames : shownTags (Html.element "div" [] ([titleHtml (Address.enumType e) e.name,
      .div "class-name" [.text (sizeText e)]] ++ [])).pieces = [] :=
    shownTags_names _ _ _ nofun
  rw [List.append_nil] at hnames
  rw [enumHtml, shownTags_div, List.flatMap_cons, List.flatMap_singleton, hitems, shownTags_div,
    List.flatMap_cons, List.flatMap_singleton, henum, hnames]
  rfl

theorem shownTags_tree (entry : Entry) :
    shownTags (tree entry).pieces = (tagSources entry).map TagSource.shown := by
  cases entry with
  | member m => exact shownTags_memberHtml m
  | enumType e => exact shownTags_enumHtml e

theorem cut_shownTags (entry : Entry) :
    (cut (html entry)).map shownTags = some ((tagSources entry).map TagSource.shown) := by
  rw [html, (tidy_tree entry).cut_render, Option.map_some, shownTags_tree]

-- ---------------------------------------------------------------------------
-- Classes
-- ---------------------------------------------------------------------------

theorem lower_label_ne_security :
    ∀ label ∈ "Enum" :: labels, Unicode.lower label ≠ "security" := by
  decide +kernel

theorem text_of_mem_sourcesOf (h : source ∈ sourcesOf kind flags security)
    (hf : source.field ≠ .security) : source.text ∈ kind.toList ++ flags.map Prod.snd := by
  simp only [sourcesOf, List.mem_append, List.mem_map, List.mem_filter] at h
  rcases h with (⟨text, htext, rfl⟩ | ⟨flag, ⟨hflag, -⟩, rfl⟩) | ⟨text, -, rfl⟩
  · exact List.mem_append_left _ htext
  · exact List.mem_append_right _ (List.mem_map_of_mem hflag)
  · exact absurd rfl hf

theorem text_of_mem_tagSources (h : source ∈ tagSources entry) (hf : source.field ≠ .security) :
    source.text ∈ "Enum" :: labels := by
  cases entry with
  | member m =>
    have htext := text_of_mem_sourcesOf h hf
    have hkind := memberType_text_mem_labels m.memberType
    simp only [Option.toList_some, List.singleton_append, List.map_cons, List.map_nil,
      List.mem_cons, List.not_mem_nil, or_false] at htext
    rcases htext with he | he | he | he | he <;> rw [he]
    · exact List.mem_cons_of_mem _ hkind
    all_goals decide
  | enumType e =>
    rcases List.mem_cons.mp h with rfl | h
    · exact List.mem_cons_self
    · obtain ⟨item, -, h⟩ := List.mem_flatMap.mp h
      have htext := text_of_mem_sourcesOf h hf
      simp only [Option.toList_none, List.nil_append, List.map_cons, List.map_nil,
        List.mem_cons, List.not_mem_nil, or_false] at htext
      rcases htext with he | he | he <;> rw [he] <;> decide

/-- No label is `Security`, so a confused tag has the wrong class. -/
theorem shown_eq_fitting_iff (h : source ∈ tagSources entry) :
    source.shown = source.fitting ↔ ¬ source.Confused := by
  constructor
  · intro he hc
    have hlower := lower_label_ne_security _ (text_of_mem_tagSources h hc.1)
    obtain ⟨field, text, security⟩ := source
    cases field with
    | security => exact hc.1 rfl
    | kind | flag =>
      rw [TagSource.shown, if_pos hc] at he
      exact hlower (congrArg Prod.fst he).symm
  · intro hc
    rw [TagSource.shown, if_neg hc]

/-- The tags of a card stand in the order of their fields. The one for security always has the
class `security`, and all have the classes for their fields exactly when no security text reads
like the kind or a flag that is shown beside it. -/
theorem classes_fit_iff (entry : Entry) :
    (cut (html entry)).map shownTags = some ((tagSources entry).map TagSource.shown) ∧
    ((cut (html entry)).map shownTags = some ((tagSources entry).map TagSource.fitting) ↔
      ∀ source ∈ tagSources entry, ¬ source.Confused) := by
  refine ⟨cut_shownTags entry, ?_⟩
  rw [cut_shownTags, Option.some_inj, List.map_inj_left]
  constructor
  · intro h source hs
    exact (shown_eq_fitting_iff hs).mp (h source hs)
  · intro h source hs
    exact (shown_eq_fitting_iff hs).mpr (h source hs)

/-- A hidden member whose security text is `Hidden` shows its flag as security. -/
theorem hidden_shown_as_security : ¬ ∀ entry : Entry,
    (cut (html entry)).map shownTags = some ((tagSources entry).map TagSource.fitting) := by
  intro hall
  let anchored : Member :=
    { name := "Anchored", memberType := .property, valueType := none, className := "Part"
      inheritance := [], flags := { Flags.off with hidden := true }, security := some "Hidden" }
  have hshown := cut_shownTags (.member anchored)
  rw [hall, Option.some_inj] at hshown
  exact absurd hshown (by decide +kernel)

end RefViewer.Card
