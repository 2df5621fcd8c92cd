import RefViewer.Dataset.Decode
import RefViewer.Proofs.Json.Omission
import RefViewer.Proofs.Json.Spelling

/-!
# Null and absent keys

A null under an optional key of a dataset may be left out, wherever it stands:
`null_like_absent`. The kind of a member is the exception, which takes no null.
-/

namespace RefViewer

open Json (Cause Context Decoder Ending Node Quoted Spells)
open Json.Decoder

-- ---------------------------------------------------------------------------
-- The records of a dataset
-- ---------------------------------------------------------------------------

inductive Shape where
  | dataset
  | classRecord
  | memberRecord
  | enumRecord
  | enumItem
  | metadata
  deriving DecidableEq, Repr

namespace Shape

abbrev Record : Shape → Type
  | .dataset => Dataset
  | .classRecord => ClassRecord
  | .memberRecord => MemberRecord
  | .enumRecord => EnumRecord
  | .enumItem => EnumItem
  | .metadata => Metadata

def decode : (shape : Shape) → Decoder shape.Record
  | .dataset => Dataset.decode
  | .classRecord => ClassRecord.decode
  | .memberRecord => MemberRecord.decode
  | .enumRecord => EnumRecord.decode
  | .enumItem => EnumItem.decode
  | .metadata => Metadata.decode

def blank : (shape : Shape) → shape.Record
  | .dataset => Dataset.empty
  | .classRecord => ClassRecord.blank
  | .memberRecord => MemberRecord.blank
  | .enumRecord => EnumRecord.blank
  | .enumItem => EnumItem.blank
  | .metadata => Metadata.unknown

def fields : (shape : Shape) → List (Decoder.Field shape.Record)
  | .dataset => Dataset.fields
  | .classRecord => ClassRecord.fields
  | .memberRecord => MemberRecord.fields
  | .enumRecord => EnumRecord.fields
  | .enumItem => EnumItem.fields
  | .metadata => Metadata.fields

def optional : Shape → List String
  | .dataset => ["classes", "enums", "metadata"]
  | .classRecord => ["inherits", "members"]
  | .memberRecord =>
    ["member_type", "value_type", "unreplicated", "deprecated", "hidden", "unscriptable",
      "security"]
  | .enumRecord => ["items"]
  | .enumItem => ["value", "unreplicated", "deprecated", "hidden", "unscriptable", "security"]
  | .metadata => ["version", "updated"]

inductive Lists : Shape → String → Shape → Prop where
  | classes : Lists .dataset "classes" .classRecord
  | members : Lists .classRecord "members" .memberRecord
  | enums : Lists .dataset "enums" .enumRecord
  | items : Lists .enumRecord "items" .enumItem

inductive Holds : Shape → String → Shape → Prop where
  | metadata : Holds .dataset "metadata" .metadata

theorem decode_structured (shape : Shape) :
    ∃ title, shape.decode = structured title shape.blank shape.fields := by
  cases shape <;> exact ⟨_, rfl⟩

theorem optional_eq (shape : Shape) :
    shape.optional = (shape.fields.filter fun field => !field.required).map (·.name) := by
  cases shape <;> rfl

theorem independent (shape : Shape) : Independent shape.fields := by
  constructor
  · cases shape <;> decide
  · cases shape <;>
      simp only [fields, Dataset.fields, ClassRecord.fields, MemberRecord.fields,
        EnumRecord.fields, EnumItem.fields, Metadata.fields, Flags.fields, List.cons_append,
        List.nil_append, List.pairwise_cons, List.forall_mem_cons, List.not_mem_nil, false_implies,
        implies_true, List.Pairwise.nil, and_true] <;>
      and_intros <;> exact commutes_of fun _ _ _ => rfl

/-- Null in a field that may be absent stands for what a blank record has; only the kind of a
member takes no null. -/
theorem null_cases (shape : Shape) : ∀ field ∈ shape.fields,
    field.required = true ∨
    field.name ≠ "member_type" ∧ field.NullIsBlank shape.blank ∨
    field.name = "member_type" ∧ ∀ context, ∃ cause, field.decode context .null = .error cause := by
  cases shape <;>
    simp only [fields, Dataset.fields, ClassRecord.fields, MemberRecord.fields,
      EnumRecord.fields, EnumItem.fields, Metadata.fields, Flags.fields, List.cons_append,
      List.nil_append, List.forall_mem_cons, List.not_mem_nil, false_implies, implies_true,
      and_true] <;>
    and_intros
  all_goals first
    | exact .inl rfl
    | exact .inr (.inl ⟨by decide, rfl, fun _ => ⟨_, rfl, rfl⟩⟩)
    | exact .inr (.inr ⟨rfl, fun _ => ⟨_, rfl⟩⟩)

theorem exists_field {shape : Shape} (h : key ∈ shape.optional) :
    ∃ field ∈ shape.fields, field.required = false ∧ field.name = key := by
  rw [optional_eq, List.mem_map] at h
  obtain ⟨field, hfield, hname⟩ := h
  obtain ⟨hmem, hrequired⟩ := List.mem_filter.mp hfield
  exact ⟨field, hmem, by simpa using hrequired, hname⟩

theorem Lists.through (h : Lists shape name held) (hkey : key.value = .ok name)
    (context : Context) (front back : List (Quoted × Option Cause × Node)) (ending : Ending)
    (before after : List Node) (closing : Ending) :
    Through (fun node => shape.decode context
      (.object (front ++ (key, none, .array (before ++ node :: after) closing) :: back) ending))
      (held.decode context.inner.inner) := by
  obtain ⟨field, hmem, rfl, hlist⟩ : ∃ field ∈ shape.fields, field.name = name ∧
      Through (fun node => field.decode context.inner (.array (before ++ node :: after) closing))
        (held.decode context.inner.inner) := by
    cases h with
    | classes => exact ⟨_, .head _, rfl, through_listField _ _ _ _ before after closing⟩
    | members =>
      exact ⟨_, .tail _ (.tail _ (.head _)), rfl, through_listField _ _ _ _ before after closing⟩
    | enums => exact ⟨_, .tail _ (.head _), rfl, through_listField _ _ _ _ before after closing⟩
    | items => exact ⟨_, .tail _ (.head _), rfl, through_listField _ _ _ _ before after closing⟩
  obtain ⟨title, htitle⟩ := shape.decode_structured
  rw [htitle]
  exact ((through_structured hkey (find?_name shape.independent.names hmem) title shape.blank
    context front back ending).comap _).trans hlist

theorem Holds.through (h : Holds shape name held) (hkey : key.value = .ok name)
    (context : Context) (front back : List (Quoted × Option Cause × Node)) (ending : Ending) :
    Through (fun node : { node // node ≠ Node.null } =>
      shape.decode context (.object (front ++ (key, none, node.val) :: back) ending))
      (fun node => held.decode context.inner node) := by
  obtain ⟨field, hmem, rfl, hrecord⟩ : ∃ field ∈ shape.fields, field.name = name ∧
      Through (fun node : { node // node ≠ Node.null } => field.decode context.inner node)
        (fun node => held.decode context.inner node) := by
    cases h with
    | metadata => exact ⟨_, .tail _ (.tail _ (.head _)), rfl, through_recordField _ _ _ _⟩
  obtain ⟨title, htitle⟩ := shape.decode_structured
  rw [htitle]
  exact ((through_structured hkey (find?_name shape.independent.names hmem) title shape.blank
    context front back ending).comap _).trans hrecord

end Shape

-- ---------------------------------------------------------------------------
-- Leaving out a null
-- ---------------------------------------------------------------------------

/-- The second node is the first without an entry whose key is optional and whose value is null.
The object that holds it has no other entry with that key. -/
inductive OmitsNull (name : String) : Shape → Node → Node → Prop where
  | here (front : List (Quoted × Option Cause × Node)) (optional : name ∈ shape.optional)
    (key : quoted.value = .ok name) (once : Lacks name (front ++ back)) :
    OmitsNull name shape (.object (front ++ (quoted, none, .null) :: back) ending)
      (.object (front ++ back) ending)
  | inList (front : List (Quoted × Option Cause × Node)) (before : List Node)
    (lists : shape.Lists field held) (key : quoted.value = .ok field)
    (h : OmitsNull name held node node') :
    OmitsNull name shape
      (.object (front ++ (quoted, none, .array (before ++ node :: after) closing) :: back) ending)
      (.object (front ++ (quoted, none, .array (before ++ node' :: after) closing) :: back) ending)
  | inRecord (front : List (Quoted × Option Cause × Node)) (holds : shape.Holds field held)
    (key : quoted.value = .ok field)
    (h : OmitsNull name held node node') :
    OmitsNull name shape (.object (front ++ (quoted, none, node) :: back) ending)
      (.object (front ++ (quoted, none, node') :: back) ending)

namespace OmitsNull

theorem ne_null (h : OmitsNull name shape node node') : node ≠ .null ∧ node' ≠ .null := by
  cases h <;> exact ⟨nofun, nofun⟩

/-- What becomes of the two nodes: the same, but a kind of a member that is null is refused. -/
structure Alike (name : String) (made made' : Except Cause α) : Prop where
  same : name ≠ "member_type" → made = made'
  refused : name = "member_type" → ∃ cause, made = .error cause

theorem Alike.through (h : Alike name (part i) (part j)) (hwhole : Through whole part) :
    Alike name (whole i) (whole j) :=
  ⟨fun hname => hwhole.same (h.same hname), fun hname => hwhole.refused (h.refused hname)⟩

theorem here_alike {shape : Shape} (optional : name ∈ shape.optional)
    (key : quoted.value = .ok name) (once : Lacks name (front ++ back)) (context : Context)
    (ending : Ending) :
    Alike name (shape.decode context (.object (front ++ (quoted, none, .null) :: back) ending))
      (shape.decode context (.object (front ++ back) ending)) := by
  obtain ⟨title, htitle⟩ := shape.decode_structured
  obtain ⟨field, hmem, hrequired, rfl⟩ := Shape.exists_field optional
  rw [htitle]
  rcases shape.null_cases field hmem with hmandatory | ⟨hname, hblank⟩ | ⟨hname, hrefused⟩
  · rw [hrequired] at hmandatory
    cases hmandatory
  · obtain ⟨hfront, hback⟩ := List.forall_mem_append.mp once
    exact ⟨fun _ => structured_omit shape.independent hmem hblank key hfront hback _ _ _,
      fun same => absurd same hname⟩
  · have hwhole := through_structured key (find?_name shape.independent.names hmem) title
      shape.blank context front back ending
    exact ⟨fun hne => absurd hname hne, fun _ => hwhole.refused (hrefused _)⟩

theorem alike (h : OmitsNull name shape node node') (context : Context) :
    Alike name (shape.decode context node) (shape.decode context node') := by
  induction h generalizing context with
  | here front optional key once => exact here_alike optional key once context _
  | inList front before lists key _ ih =>
    exact (ih _).through (lists.through key context front _ _ before _ _)
  | inRecord front holds key h ih =>
    exact Alike.through (i := ⟨_, h.ne_null.1⟩) (j := ⟨_, h.ne_null.2⟩) (ih _)
      (holds.through key context front _ _)

end OmitsNull

theorem ofText_spelled {text : String} (h : Spells text.toList node) :
    Dataset.ofText text =
      (Dataset.decode ⟨false, 0⟩ node).mapError fun cause => .load cause.text := by
  simp only [Dataset.ofText, Dataset.read, Decoder.ofText, Unicode.GappedText.ofString, h.document]
  cases Dataset.decode ⟨false, 0⟩ node <;> rfl

-- ---------------------------------------------------------------------------
-- A member with one more key
-- ---------------------------------------------------------------------------

def oneMember (entries : List (String × Json)) : Json :=
  .object [("classes", .array [.object [("name", .string "P"),
    ("members", .array [.object (("name", .string "m") :: entries)])]])]

theorem worded_oneMember {entries : List (String × Json)}
    (h : ∀ entry ∈ entries, Json.Worded entry.2) : Json.Worded (oneMember entries) := by
  have hmember : Json.Worded (.object (("name", .string "m") :: entries)) :=
    .object (List.forall_mem_cons.mpr ⟨.string "m", h⟩)
  have hclass := Json.Worded.object (List.forall_mem_cons.mpr
    ⟨.string "P", List.forall_mem_singleton.mpr (.array (List.forall_mem_singleton.mpr hmember))⟩ :
    ∀ entry ∈ [("name", Json.string "P"), ("members", .array [_])], Json.Worded entry.2)
  exact .object (List.forall_mem_singleton.mpr (.array (List.forall_mem_singleton.mpr hclass)))

theorem spells_withNull (name : String) :
    Spells (oneMember [(name, .null)]).text.toList (.ofJson (oneMember [(name, .null)])) :=
  (worded_oneMember (List.forall_mem_singleton.mpr .null)).spells

theorem spells_without : Spells (oneMember []).text.toList (.ofJson (oneMember [])) :=
  (worded_oneMember (List.forall_mem_nil _)).spells

theorem oneMember_omits (optional : name ∈ Shape.memberRecord.optional) (hne : name ≠ "name") :
    OmitsNull name .dataset (.ofJson (oneMember [(name, .null)])) (.ofJson (oneMember [])) := by
  refine .inList [] [] .classes rfl (.inList [_] [] .members rfl (.here [_] optional rfl ?_))
  intro entry hentry
  obtain rfl : entry = (⟨.ok "name", none⟩, none, .ofJson (.string "m")) := by
    simpa [Node.ofEntries] using hentry
  exact fun same => hne (Except.ok.inj same).symm

-- ---------------------------------------------------------------------------
-- Texts
-- ---------------------------------------------------------------------------

/-- A dataset loads in the same way with an optional key that is null as without the key, unless
the key is the kind of a member: then only where it does not load without the key either. -/
theorem null_like_absent {text text' : String} (spelled : Spells text.toList node)
    (spelled' : Spells text'.toList node') (omits : OmitsNull name .dataset node node') :
    (name ≠ "member_type" → Dataset.ofText text = Dataset.ofText text') ∧
    ((Dataset.ofText text).toOption = (Dataset.ofText text').toOption ↔
      (name = "member_type" → (Dataset.ofText text').toOption = none)) := by
  have halike : OmitsNull.Alike name (Dataset.decode ⟨false, 0⟩ node)
      (Dataset.decode ⟨false, 0⟩ node') := omits.alike ⟨false, 0⟩
  rw [ofText_spelled spelled, ofText_spelled spelled']
  by_cases hname : name = "member_type"
  · obtain ⟨cause, hcause⟩ := halike.refused hname
    refine ⟨fun hne => absurd hname hne, ?_⟩
    rw [hcause]
    exact ⟨fun same _ => same.symm, fun neither => (neither hname).symm⟩
  · have hsame := halike.same hname
    exact ⟨fun _ => by rw [hsame], fun _ same => absurd same hname, fun _ => by rw [hsame]⟩

theorem null_like_absent_hidden :
    Spells (oneMember [("hidden", .null)]).text.toList (.ofJson (oneMember [("hidden", .null)])) ∧
    Spells (oneMember []).text.toList (.ofJson (oneMember [])) ∧
    OmitsNull "hidden" .dataset (.ofJson (oneMember [("hidden", .null)]))
      (.ofJson (oneMember [])) ∧
    Dataset.ofText (oneMember [("hidden", .null)]).text = Dataset.ofText (oneMember []).text := by
  have omits := oneMember_omits (show "hidden" ∈ Shape.memberRecord.optional by decide) (by decide)
  have loads := null_like_absent (spells_withNull "hidden") spells_without omits
  exact ⟨spells_withNull "hidden", spells_without, omits, loads.1 (by decide)⟩

/-- A member whose kind is null keeps the whole dataset from loading; without the key its kind is
the unknown one. -/
theorem null_member_type_refused :
    Spells (oneMember [("member_type", .null)]).text.toList
      (.ofJson (oneMember [("member_type", .null)])) ∧
    Spells (oneMember []).text.toList (.ofJson (oneMember [])) ∧
    OmitsNull "member_type" .dataset (.ofJson (oneMember [("member_type", .null)]))
      (.ofJson (oneMember [])) ∧
    Dataset.ofText (oneMember [("member_type", .null)]).text = .error (.load "expected value") ∧
    Dataset.ofText (oneMember []).text =
      .ok ⟨[⟨"P", [], [⟨"m", .unknown, none, .off, none⟩]⟩], [], .unknown⟩ := by
  refine ⟨spells_withNull _, spells_without, oneMember_omits (by decide) (by decide), ?_, ?_⟩
  · rw [ofText_spelled (spells_withNull _)]
    rfl
  · rw [ofText_spelled spells_without]
    rfl

end RefViewer
