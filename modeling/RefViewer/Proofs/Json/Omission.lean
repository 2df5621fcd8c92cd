import Mathlib.Data.List.Find
import Mathlib.Data.List.Pairwise
import RefViewer.Proofs.Json.Decoding

/-!
# Entries that may be left out

Where null stands for what a blank record has, an entry whose value is null may as well be left
out: `structured_omit`. A value inside a record or a list matters through its own decoder only,
and takes all around it with it if it is refused: `through_structured` and `through_list`.
-/

namespace RefViewer.Json.Decoder

variable {σ : Type} {fields : List (Field σ)} {field : Field σ} {blank record : σ}

/-- Two runs that begin alike need only end alike behind what is made of it. -/
theorem bind_eq_of_ok {α β : Type} {made : Except Cause α} {next next' : α → Except Cause β}
    (h : ∀ a, made = .ok a → next a = next' a) : made >>= next = made >>= next' := by
  cases made with
  | error cause => rfl
  | ok a => exact h a rfl

-- ---------------------------------------------------------------------------
-- Entries one after another
-- ---------------------------------------------------------------------------

theorem fromEntries_append (front back : List (Quoted × Option Cause × Node)) (seen : List String)
    (record : σ) :
    fromEntries fields context seen record (front ++ back) =
      fromEntries fields context seen record front >>= fun filled =>
        fromEntries fields context filled.1 filled.2 back := by
  induction front generalizing seen record with
  | nil => rfl
  | cons entry rest ih =>
    obtain ⟨key, colon, value⟩ := entry
    simp only [List.cons_append, fromEntries, bind_assoc]
    congr 1
    funext name
    cases fields.find? fun field => field.name = name with
    | none => simp only [ih, bind_assoc]
    | some field =>
      simp only [ih]
      split
      · rfl
      · simp only [bind_assoc]

def enter (name : String) (filled : List String × σ) (made : Except Cause (σ → σ)) :
    Except Cause (List String × σ) :=
  if filled.1.contains name then .error (.duplicateField name)
  else made.map fun set => (name :: filled.1, set filled.2)

theorem fromEntries_field (hkey : key.value = .ok field.name)
    (hfind : fields.find? (fun f => f.name = field.name) = some field)
    (filled : List String × σ) (value : Node) :
    fromEntries fields context filled.1 filled.2 [(key, none, value)] =
      enter field.name filled (field.decode context value) := by
  simp only [fromEntries, hkey, bind, Except.bind, hfind, refuseIf, enter]
  split
  · rfl
  · cases field.decode context value <;> rfl

def finish (fields : List (Field σ)) (ending : Ending) (filled : List String × σ) :
    Except Cause σ := do
  refuseIf ending.nextEntry?
  refuseIf (missing? fields filled.1)
  return filled.2

theorem structured_object (title : String) (blank : σ) (context : Context)
    (entries : List (Quoted × Option Cause × Node)) (ending : Ending) :
    structured title blank fields context (.object entries ending) =
      fromEntries fields context.inner [] blank entries >>= finish fields ending := rfl

-- ---------------------------------------------------------------------------
-- Without the key
-- ---------------------------------------------------------------------------

section

variable {finish : List String × σ → Except Cause σ}
variable {rest rest' front back : List (Quoted × Option Cause × Node)}

theorem fromEntries_cons_congr
    (hseen : ∀ name, key.value = .ok name → seen.contains name = seen'.contains name)
    (unknown : fromEntries fields context seen record rest >>= finish =
      fromEntries fields context seen' record rest' >>= finish)
    (known : ∀ name field set, key.value = .ok name →
      fields.find? (fun f => f.name = name) = some field →
      field.decode context value = .ok set →
      fromEntries fields context (name :: seen) (set record) rest >>= finish =
        fromEntries fields context (name :: seen') (set record) rest' >>= finish) :
    fromEntries fields context seen record ((key, colon, value) :: rest) >>= finish =
      fromEntries fields context seen' record ((key, colon, value) :: rest') >>= finish := by
  simp only [fromEntries, bind_assoc]
  refine bind_eq_of_ok fun name hname => ?_
  cases hfind : fields.find? fun f => f.name = name with
  | none => simp only [bind_assoc, unknown]
  | some field =>
    simp only [hseen name hname]
    split
    · rfl
    · simp only [bind_assoc]
      refine congrArg _ (funext fun _ => bind_eq_of_ok fun set hset => ?_)
      exact known name field set hname hfind hset

def Lacks (name : String) (entries : List (Quoted × Option Cause × Node)) : Prop :=
  ∀ entry ∈ entries, entry.1.value ≠ .ok name

/-- Whether a key has been seen matters to its own entries only. -/
theorem fromEntries_alike (hl : Lacks name rest)
    (hseen : ∀ other, other ≠ name → seen.contains other = seen'.contains other)
    (hfinish : ∀ seen seen' record,
      (∀ other, other ≠ name → seen.contains other = seen'.contains other) →
      finish (seen, record) = finish (seen', record)) (record : σ) :
    fromEntries fields context seen record rest >>= finish =
      fromEntries fields context seen' record rest >>= finish := by
  induction rest generalizing seen seen' record with
  | nil => exact hfinish seen seen' record hseen
  | cons entry rest ih =>
    obtain ⟨key, colon, value⟩ := entry
    obtain ⟨hkey, hrest⟩ := List.forall_mem_cons.mp hl
    have hother (other : String) (hname : key.value = .ok other) : other ≠ name :=
      fun same => hkey (same ▸ hname)
    refine fromEntries_cons_congr (fun other hname => hseen other (hother other hname))
      (ih hrest hseen record) fun other _ set _ _ _ => ih hrest (fun third hthird => ?_) _
    rw [List.contains_cons, List.contains_cons, hseen third hthird]

/-- The field may as well be filled in first. -/
def Field.Apart (fill : σ → σ) (field : Field σ) : Prop :=
  ∀ context node set, field.decode context node = .ok set →
    ∀ record, fill (set record) = set (fill record)

theorem fromEntries_omit {fill : σ → σ} (hkey : key.value = .ok field.name)
    (hfind : fields.find? (fun f => f.name = field.name) = some field)
    (hvalue : field.decode context value = .ok fill)
    (hfront : Lacks field.name front) (hback : Lacks field.name back)
    (apart : ∀ other ∈ fields, other.name ≠ field.name → other.Apart fill)
    (hfinish : ∀ seen seen' record,
      (∀ other, other ≠ field.name → seen.contains other = seen'.contains other) →
      finish (seen, record) = finish (seen', record))
    (hseen : seen.contains field.name = false) (hfill : fill record = record) :
    fromEntries fields context seen record (front ++ (key, none, value) :: back) >>= finish =
      fromEntries fields context seen record (front ++ back) >>= finish := by
  induction front generalizing seen record with
  | nil =>
    have hentry : fromEntries fields context seen record ((key, none, value) :: back) =
        fromEntries fields context (field.name :: seen) record back := by
      simp only [fromEntries, hkey, bind, Except.bind, hfind, hseen, refuseIf, hvalue, hfill]
      rfl
    rw [List.nil_append, List.nil_append, hentry]
    refine fromEntries_alike hback (fun other hother => ?_) hfinish record
    simp [hother]
  | cons entry rest ih =>
    obtain ⟨other, colon, node⟩ := entry
    obtain ⟨hother, hrest⟩ := List.forall_mem_cons.mp hfront
    refine fromEntries_cons_congr (fun _ _ => rfl) (ih hrest hseen hfill) ?_
    intro name found set hname hfound hset
    have hne : name ≠ field.name := fun same => hother (same ▸ hname)
    have hfoundName : found.name = name := by simpa using List.find?_some hfound
    have hapart := apart found (List.mem_of_find?_eq_some hfound) (hfoundName ▸ hne)
    refine ih hrest ?_ ?_
    · rw [List.contains_cons, hseen]
      simp [Ne.symm hne]
    · rw [hapart _ _ _ hset, hfill]

end

-- ---------------------------------------------------------------------------
-- Records
-- ---------------------------------------------------------------------------

def Field.Commutes (field other : Field σ) : Prop :=
  ∀ context node fill, field.decode context node = .ok fill → other.Apart fill

theorem Field.ofDecode_ok {decode : Decoder α} {set : α → σ → σ}
    (h : Field.of decode set context node = .ok fill) : ∃ value, fill = set value := by
  unfold Field.of at h
  cases hvalue : decode context node with
  | error cause => simp [hvalue, Except.map] at h
  | ok value =>
    rw [hvalue] at h
    cases h
    exact ⟨value, rfl⟩

theorem commutes_of {decode : Decoder α} {decode' : Decoder β} {set : α → σ → σ} {set' : β → σ → σ}
    (h : ∀ value value' record, set value (set' value' record) = set' value' (set value record)) :
    Field.Commutes ⟨name, required, inList, Field.of decode set⟩
      ⟨name', required', inList', Field.of decode' set'⟩ := by
  intro context node fill hfill context' node' fill' hfill' record
  obtain ⟨value, rfl⟩ := Field.ofDecode_ok hfill
  obtain ⟨value', rfl⟩ := Field.ofDecode_ok hfill'
  exact h value value' record

instance : Std.Symm (Field.Commutes (σ := σ)) where
  symm _ _ h context node fill hfill context' node' fill' hfill' record :=
    (h context' node' fill' hfill' context node fill hfill record).symm

/-- The fields have names of their own, and each fills in a part of its own. -/
structure Independent (fields : List (Field σ)) : Prop where
  names : (fields.map (·.name)).Nodup
  commute : fields.Pairwise Field.Commutes

theorem Independent.apart (h : Independent fields) (hf : field ∈ fields) (ho : other ∈ fields)
    (hn : other.name ≠ field.name) (hfill : field.decode context node = .ok fill) :
    other.Apart fill :=
  h.commute.forall hf ho (fun same => hn (same ▸ rfl)) context node fill hfill

/-- Null in the field stands for what a blank record has, as if the field were not there. -/
structure Field.NullIsBlank (blank : σ) (field : Field σ) : Prop where
  optional : field.required = false
  null : ∀ context, ∃ fill, field.decode context .null = .ok fill ∧ fill blank = blank

/-- A null that stands for what a blank record has may be left out. -/
theorem structured_omit (independent : Independent fields) (hf : field ∈ fields)
    (hnull : field.NullIsBlank blank) (hkey : key.value = .ok field.name)
    (hfront : Lacks field.name front) (hback : Lacks field.name back) (title : String)
    (context : Context) (ending : Ending) :
    structured title blank fields context (.object (front ++ (key, none, .null) :: back) ending) =
      structured title blank fields context (.object (front ++ back) ending) := by
  obtain ⟨fill, hvalue, hblank⟩ := hnull.null context.inner
  rw [structured_object, structured_object]
  refine fromEntries_omit hkey (find?_name independent.names hf) hvalue hfront hback
    (fun other ho hn => independent.apart hf ho hn hvalue) ?_ rfl hblank
  intro seen seen' record hseen
  -- A field that nobody misses is not looked for among the keys.
  have hmissing : missing? fields seen = missing? fields seen' := by
    unfold missing?
    rw [List.find?_congr fun other ho => ?_]
    by_cases hname : other.name = field.name
    · simp [eq_of_name independent.names ho hf hname, hnull.optional]
    · rw [hseen _ hname]
  simp only [finish, hmissing]

-- ---------------------------------------------------------------------------
-- Values inside
-- ---------------------------------------------------------------------------

def Strict (outer : Except Cause α → Except Cause β) : Prop :=
  ∀ cause, ∃ later, outer (.error cause) = .error later

/-- What becomes of the whole follows from what becomes of the part, and it is refused with it. -/
def Through (whole : ι → Except Cause β) (part : ι → Except Cause α) : Prop :=
  ∃ outer, Strict outer ∧ ∀ i, whole i = outer (part i)

section

variable {whole : ι → Except Cause γ} {middle : ι → Except Cause β} {part : ι → Except Cause α}

theorem Through.same (h : Through whole part) (hp : part i = part j) : whole i = whole j := by
  obtain ⟨outer, -, hwhole⟩ := h
  rw [hwhole, hwhole, hp]

theorem Through.refused (h : Through whole part) (hp : ∃ cause, part i = .error cause) :
    ∃ cause, whole i = .error cause := by
  obtain ⟨outer, hstrict, hwhole⟩ := h
  obtain ⟨cause, hcause⟩ := hp
  rw [hwhole, hcause]
  exact hstrict cause

theorem Through.trans (h : Through whole middle) (hm : Through middle part) :
    Through whole part := by
  obtain ⟨outer, houter, hwhole⟩ := h
  obtain ⟨inner, hinner, hmiddle⟩ := hm
  refine ⟨outer ∘ inner, fun cause => ?_, fun i => by rw [hwhole, hmiddle, Function.comp]⟩
  obtain ⟨between, hbetween⟩ := hinner cause
  obtain ⟨later, hlater⟩ := houter between
  exact ⟨later, by rw [Function.comp, hbetween, hlater]⟩

theorem Through.comap (h : Through whole part) (wrap : κ → ι) :
    Through (fun k => whole (wrap k)) (fun k => part (wrap k)) := by
  obtain ⟨outer, hstrict, hwhole⟩ := h
  exact ⟨outer, hstrict, fun k => hwhole (wrap k)⟩

theorem through_bind (part : ι → Except Cause α) (next : α → Except Cause β) :
    Through (fun i => part i >>= next) part :=
  ⟨(· >>= next), fun cause => ⟨cause, rfl⟩, fun _ => rfl⟩

/-- It makes no difference what comes before, even if that is refused. -/
theorem Through.behind {whole : α → ι → Except Cause γ} {part : ι → Except Cause β}
    (h : ∀ a, Through (whole a) part) (made : Except Cause α) :
    Through (fun i => made >>= fun a => whole a i) part := by
  cases made with
  | error cause => exact ⟨fun _ => .error cause, fun _ => ⟨cause, rfl⟩, fun _ => rfl⟩
  | ok a => exact h a

end

theorem through_items (decode : Decoder α) (context : Context) (before after : List Node) :
    Through (fun node => items decode context (before ++ node :: after)) (decode context) := by
  induction before with
  | nil => exact through_bind _ _
  | cons first rest ih => exact .behind (fun first => (through_bind _ _).trans ih) _

theorem through_list (decode : Decoder α) (context : Context) (before after : List Node)
    (ending : Ending) :
    Through (fun node => list decode context (.array (before ++ node :: after) ending))
      (decode context.inner) :=
  (through_bind _ _).trans (through_items decode context.inner before after)

theorem through_listField (default : List α) (decode : Decoder α) (set : List α → σ → σ)
    (context : Context) (before after : List Node) (ending : Ending) :
    Through (fun node => Field.of (orDefault default (list decode)) set context
      (.array (before ++ node :: after) ending)) (decode context.inner) := by
  refine Through.trans ?_ (through_list decode context before after ending)
  refine ⟨Except.map set, fun cause => ⟨cause, rfl⟩, fun node => ?_⟩
  have hne : Node.array (before ++ node :: after) ending ≠ .null := nofun
  exact congrArg (Except.map set) (orDefault_eq hne default (list decode) context)

theorem through_recordField (default : α) (decode : Decoder α) (set : α → σ → σ)
    (context : Context) :
    Through (fun node : { node // node ≠ Node.null } =>
      Field.of (orDefault default decode) set context node) (fun node => decode context node) :=
  ⟨Except.map set, fun cause => ⟨cause, rfl⟩, fun node =>
    congrArg (Except.map set) (orDefault_eq node.property default decode context)⟩

theorem through_enter (name : String) (filled : List String × σ)
    (part : ι → Except Cause (σ → σ)) : Through (fun i => enter name filled (part i)) part := by
  refine ⟨enter name filled, fun cause => ?_, fun _ => rfl⟩
  unfold enter
  split
  · exact ⟨_, rfl⟩
  · exact ⟨cause, rfl⟩

/-- A record holds a value through the decoder of its field only. -/
theorem through_structured (hkey : key.value = .ok field.name)
    (hfind : fields.find? (fun f => f.name = field.name) = some field) (title : String)
    (blank : σ) (context : Context) (front back : List (Quoted × Option Cause × Node))
    (ending : Ending) :
    Through (fun value =>
      structured title blank fields context (.object (front ++ (key, none, value) :: back) ending))
      (field.decode context.inner) := by
  have hentries (value : Node) :
      structured title blank fields context
          (.object (front ++ (key, none, value) :: back) ending) =
        fromEntries fields context.inner [] blank front >>= fun filled =>
          enter field.name filled (field.decode context.inner value) >>= fun filled =>
            fromEntries fields context.inner filled.1 filled.2 back >>= finish fields ending := by
    rw [structured_object, fromEntries_append, bind_assoc]
    refine bind_eq_of_ok fun filled _ => ?_
    rw [← List.singleton_append, fromEntries_append, fromEntries_field hkey hfind, bind_assoc]
  simp only [hentries]
  exact .behind (fun filled => (through_bind _ _).trans (through_enter _ _ _)) _

end RefViewer.Json.Decoder
