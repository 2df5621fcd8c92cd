import Mathlib.Data.List.Nodup
import RefViewer.Json.Decode
import RefViewer.Proofs.Json.Portable

/-!
# Decoding what was encoded

A decoder that gives back every field of a record from the document of the field gives back
the record, `Fills.structured`. Lists, tags and whole texts are in the same way as good as
their parts.
-/

namespace RefViewer.Json.Decoder

variable {σ : Type}

-- ---------------------------------------------------------------------------
-- Lists and defaults
-- ---------------------------------------------------------------------------

theorem items_map {decode : Decoder α} {encode : α → Json} {values : List α}
    (h : ∀ value ∈ values, decode context (.ofJson (encode value)) = .ok value) :
    items decode context (Node.ofItems (values.map encode)) = .ok values := by
  induction values with
  | nil => rfl
  | cons value rest ih =>
    obtain ⟨hfirst, hrest⟩ := List.forall_mem_cons.mp h
    rw [List.map_cons, Node.ofItems, items, hfirst, ih hrest]
    rfl

theorem list_map {decode : Decoder α} {encode : α → Json} {values : List α}
    (h : ∀ value ∈ values, decode context.inner (.ofJson (encode value)) = .ok value) :
    list decode context (.ofJson (.array (values.map encode))) = .ok values := by
  rw [Node.ofJson, list, items_map h]
  rfl

theorem strings_map (values : List String) :
    list string context (.ofJson (.array (values.map .string))) = .ok values :=
  list_map fun _ _ => rfl

theorem orDefault_eq (hn : node ≠ .null) (default : α) (decode : Decoder α) (context : Context) :
    orDefault default decode context node = decode context node := by
  unfold orDefault optional
  split
  · exact absurd rfl hn
  · cases decode context node <;> rfl

theorem orDefault_of {decode : Decoder α} (h : decode context node = .ok value)
    (hn : node ≠ .null) (default : α) : orDefault default decode context node = .ok value :=
  (orDefault_eq hn default decode context).trans h

-- ---------------------------------------------------------------------------
-- Records
-- ---------------------------------------------------------------------------

/-- The entries are those of the fields, in order, and lead from one record to another. -/
inductive Fills (context : Context) :
    List (Field σ) → List (String × Json) → σ → σ → Prop where
  | done : Fills context [] [] record record
  | next (hn : field.name = name) (hd : field.decode context (.ofJson value) = .ok fill)
    (hrest : Fills context fields entries (fill record) filled) :
    Fills context (field :: fields) ((name, value) :: entries) record filled

theorem Fills.of {decode : Decoder α} {set : α → σ → σ}
    (hd : decode context (.ofJson json) = .ok value)
    (hrest : Fills context fields entries (set value record) filled) :
    Fills context (⟨name, required, requiredInList, Field.of decode set⟩ :: fields)
      ((name, json) :: entries) record filled := by
  have hfield : Field.of decode set context (.ofJson json) = .ok (set value) := by
    simp only [Field.of, hd]
    rfl
  exact .next rfl hfield hrest

theorem not_passed {passed fields : List (Field σ)}
    (hn : ((passed ++ field :: fields).map (·.name)).Nodup) :
    ∀ f ∈ passed, f.name ≠ field.name := by
  rw [List.map_append, List.map_cons, List.nodup_append] at hn
  exact fun f hf => hn.2.2 f.name (List.mem_map_of_mem hf) field.name List.mem_cons_self

theorem eq_of_name {fields : List (Field σ)} (hn : (fields.map (·.name)).Nodup)
    (ho : other ∈ fields) (hf : field ∈ fields) (hname : other.name = field.name) :
    other = field :=
  List.inj_on_of_nodup_map hn ho hf hname

theorem find?_name {fields : List (Field σ)} (hn : (fields.map (·.name)).Nodup)
    (hf : field ∈ fields) : fields.find? (fun f => f.name = field.name) = some field := by
  have hsome : (fields.find? fun f => f.name = field.name).isSome :=
    List.find?_isSome.mpr ⟨field, hf, by simp⟩
  obtain ⟨other, hother⟩ := Option.isSome_iff_exists.mp hsome
  rw [hother, eq_of_name hn (List.mem_of_find?_eq_some hother) hf
    (by simpa using List.find?_some hother)]

theorem not_seen {passed fields : List (Field σ)}
    (hn : ((passed ++ field :: fields).map (·.name)).Nodup) :
    (passed.map (·.name)).reverse.contains field.name = false := by
  simpa using not_passed hn

theorem fromEntries_cons {fields : List (Field σ)}
    (hfind : fields.find? (fun f => f.name = name) = some field)
    (hseen : seen.contains name = false) (hd : field.decode context (.ofJson value) = .ok fill)
    (record : σ) (entries : List (String × Json)) :
    fromEntries fields context seen record (Node.ofEntries ((name, value) :: entries)) =
      fromEntries fields context (name :: seen) (fill record) (Node.ofEntries entries) := by
  simp only [Node.ofEntries, fromEntries, bind, Except.bind, hfind, hseen, refuseIf, hd]
  rfl

theorem Fills.fromEntries {fields : List (Field σ)}
    (h : Fills context fields entries record filled) (passed : List (Field σ))
    (hn : ((passed ++ fields).map (·.name)).Nodup) :
    fromEntries (passed ++ fields) context (passed.map (·.name)).reverse record
        (Node.ofEntries entries) =
      .ok (((passed ++ fields).map (·.name)).reverse, filled) := by
  induction h generalizing passed with
  | done => rw [List.append_nil]; rfl
  | next hname hd _ ih =>
    subst hname
    rw [fromEntries_cons (find?_name hn (by simp)) (not_seen hn) hd]
    -- The field is passed now, and its name is seen.
    have hmore := ih (passed ++ [_]) (by simpa using hn)
    simpa using hmore

theorem missing?_all (fields : List (Field σ)) :
    missing? fields (fields.map (·.name)).reverse = none := by
  have hnone : fields.find? (fun field =>
      field.required && !(fields.map (·.name)).reverse.contains field.name) = none :=
    List.find?_eq_none.mpr fun field hfield => by simpa using fun _ => ⟨field, hfield, rfl⟩
  rw [missing?, hnone]
  rfl

/-- A record comes back if the value of every field does. -/
theorem Fills.structured {fields : List (Field σ)}
    (h : Fills context.inner fields entries blank filled)
    (hn : (fields.map (·.name)).Nodup) (title : String) :
    structured title blank fields context (.ofJson (.object entries)) = .ok filled := by
  have hentries : Decoder.fromEntries fields context.inner [] blank (Node.ofEntries entries) =
      .ok ((fields.map (·.name)).reverse, filled) := h.fromEntries [] hn
  simp only [Node.ofJson, Decoder.structured, hentries, bind, Except.bind, missing?_all]
  rfl

-- ---------------------------------------------------------------------------
-- Tags
-- ---------------------------------------------------------------------------

theorem besideTag_others {entries : List (String × Json)} (hk : ∀ entry ∈ entries, entry.1 ≠ tag)
    (hp : ∀ entry ∈ entries, Portable levels entry.2)
    (hd : context.depth + levels ≤ Node.maxDepth) (variants : List String) (found : Option Nat) :
    besideTag tag variants context found (Node.ofEntries entries) = .ok (found, entries) := by
  induction entries with
  | nil => rfl
  | cons entry rest ih =>
    obtain ⟨name, value⟩ := entry
    obtain ⟨hname, hnames⟩ := List.forall_mem_cons.mp hk
    obtain ⟨hvalue, hvalues⟩ := List.forall_mem_cons.mp hp
    simp only [Node.ofEntries, besideTag, bind, Except.bind, if_neg hname, refuseIf,
      hvalue.take hd, ih hnames hvalues]
    rfl

/-- The variant comes back from its name, and the other entries as they are. -/
theorem tagged_object {entries : List (String × Json)} (hi : variants.idxOf? name = some i)
    (hk : ∀ entry ∈ entries, entry.1 ≠ tag) (hp : ∀ entry ∈ entries, Portable levels entry.2)
    (hd : context.depth + 1 + levels ≤ Node.maxDepth) (title : String) :
    tagged title tag variants context (.ofJson (.object ((tag, .string name) :: entries))) =
      .ok (i, .object entries) := by
  have hbeside : besideTag tag variants context.inner none
      (Node.ofEntries ((tag, .string name) :: entries)) = .ok (some i, entries) := by
    have hothers := besideTag_others hk hp (show context.inner.depth + levels ≤ _ from hd)
      variants (some i)
    simp only [Node.ofEntries, besideTag, Node.ofJson, bind, Except.bind, variant, hi,
      refuseIf, ↓reduceIte]
    exact hothers
  simp only [Node.ofJson, tagged, hbeside, bind, Except.bind]
  rfl

-- ---------------------------------------------------------------------------
-- Texts
-- ---------------------------------------------------------------------------

theorem ofText_text {decode : Decoder α} (hp : Portable levels json)
    (hd : decode ⟨false, 0⟩ (.ofJson json) = .ok value) :
    ofText decode (.ofString json.text) = .ok value := by
  simp only [ofText, hp.ofText, hd, bind, Except.bind]
  rfl

end RefViewer.Json.Decoder
