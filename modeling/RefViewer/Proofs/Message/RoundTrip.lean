import RefViewer.Message.Decode
import RefViewer.Message.Encode
import RefViewer.Proofs.Json.Decoding
import RefViewer.Proofs.Json.Floats

/-!
# Messages come back

Decoding the text of a message gives the message, `messages_come_back`. The value of a float is
the only part of it that a text may change.
-/

namespace RefViewer

open Json (Portable Context)
open Json.Decoder (Fills beside list_map ofText_text orDefault_of strings_map tagged_object)

-- ---------------------------------------------------------------------------
-- Values and options
-- ---------------------------------------------------------------------------

theorem portable_ofOption (value : Option String) : Portable levels (.ofOption value) := by
  cases value with
  | none => exact .null
  | some s => exact .string s

theorem optional_ofOption (context : Context) (value : Option String) :
    Json.Decoder.optional Json.Decoder.string context (.ofJson (.ofOption value)) = .ok value := by
  cases value <;> rfl

namespace EnumValue

theorem decode_encode (context : Context) (value : EnumValue) :
    decode context (.ofJson value.encode) = .ok value := by
  cases value with
  | integer i =>
    have hfits : i.toInt < Numeral.signedLimit := i.toInt_lt
    have htake : decode context (.ofJson (encode (.integer i))) =
        if i.toInt < Numeral.signedLimit then .ok (.integer (.ofInt i.toInt))
        else .ok (.float (.ofInt i.toInt)) := rfl
    rw [htake, if_pos hfits, Int64.ofInt_toInt]
  | float | text | bool | null => rfl

/-- The text of a float is read as a number of the same value. Of other values nothing is
asked. -/
def Rereads : EnumValue → Prop
  | .float x => x.Rereads
  | .integer _ | .text _ | .bool _ | .null => True

instance : (value : EnumValue) → Decidable value.Rereads
  | .float x => inferInstanceAs (Decidable x.Rereads)
  | .integer _ | .text _ | .bool _ | .null => isTrue trivial

theorem portable (value : EnumValue) (h : value.Rereads) : Portable levels value.encode := by
  cases value with
  | integer i =>
    refine .number (Numeral.rereads_integer i.le_toInt (Int.lt_trans i.toInt_lt ?_))
    decide
  | float x => exact .number h.numeral
  | text s => exact .string s
  | bool b => exact .bool b
  | null => exact .null

end EnumValue

theorem MemberType.decode_encode (context : Context) (kind : MemberType) :
    decode context (.ofJson kind.encode) = .ok kind :=
  congrArg Except.ok kind.ofText_text

-- ---------------------------------------------------------------------------
-- Records
-- ---------------------------------------------------------------------------

theorem EnumItem.decode_encode (context : Context) (item : EnumItem) :
    decode context (.ofJson item.encode) = .ok item := by
  refine Fills.structured ?_ (by decide) _
  exact .of rfl <| .of (item.value.decode_encode _) <| .of rfl <| .of rfl <| .of rfl <| .of rfl <|
    .of (optional_ofOption _ item.security) .done

theorem MemberRecord.decode_encode (context : Context) (record : MemberRecord) :
    decode context (.ofJson record.encode) = .ok record := by
  refine Fills.structured ?_ (by decide) _
  exact .of rfl <| .of (record.memberType.decode_encode _) <|
    .of (optional_ofOption _ record.valueType) <| .of rfl <| .of rfl <| .of rfl <| .of rfl <|
    .of (optional_ofOption _ record.security) .done

theorem ClassRecord.decode_encode (context : Context) (record : ClassRecord) :
    decode context (.ofJson record.encode) = .ok record := by
  refine Fills.structured ?_ (by decide) _
  exact .of rfl <| .of (orDefault_of (strings_map record.inherits) nofun _) <|
    .of (orDefault_of (list_map fun member _ => member.decode_encode _) nofun _) .done

theorem EnumRecord.decode_encode (context : Context) (record : EnumRecord) :
    decode context (.ofJson record.encode) = .ok record := by
  refine Fills.structured ?_ (by decide) _
  exact .of rfl <| .of (orDefault_of (list_map fun item _ => item.decode_encode _) nofun _) .done

theorem Metadata.decode_encode (context : Context) (metadata : Metadata) :
    decode context (.ofJson metadata.encode) = .ok metadata := by
  refine Fills.structured ?_ (by decide) _
  exact .of (optional_ofOption _ metadata.version) <|
    .of (optional_ofOption _ metadata.updated) .done

theorem Dataset.decode_encode (context : Context) (dataset : Dataset) :
    decode context (.ofJson dataset.encode) = .ok dataset := by
  refine Fills.structured ?_ (by decide) _
  exact .of (orDefault_of (list_map fun record _ => record.decode_encode _) nofun _) <|
    .of (orDefault_of (list_map fun record _ => record.decode_encode _) nofun _) <|
    .of (orDefault_of (dataset.metadata.decode_encode _) nofun _) .done

-- ---------------------------------------------------------------------------
-- Entries
-- ---------------------------------------------------------------------------

theorem Member.decode_encode (context : Context) (member : Member) :
    decode context (.ofJson (.object member.encode)) = .ok member := by
  refine Fills.structured ?_ (by decide) _
  exact .of rfl <| .of (member.memberType.decode_encode _) <|
    .of (optional_ofOption _ member.valueType) <| .of rfl <| .of (strings_map member.inheritance) <|
    .of rfl <| .of rfl <| .of rfl <| .of rfl <| .of (optional_ofOption _ member.security) .done

theorem EnumType.decode_encode (context : Context) (enumType : EnumType) :
    decode context (.ofJson (.object enumType.encode)) = .ok enumType := by
  refine Fills.structured ?_ (by decide) _
  exact .of rfl <| .of (list_map fun item _ => item.decode_encode _) .done

-- ---------------------------------------------------------------------------
-- Nesting
-- ---------------------------------------------------------------------------

attribute [simp] Portable.null Portable.bool Portable.string portable_ofOption

theorem portable_map {encode : α → Json} {values : List α}
    (h : ∀ value ∈ values, Portable levels (encode value)) :
    Portable (levels + 1) (.array (values.map encode)) :=
  .array (List.forall_mem_map.mpr h)

@[simp] theorem portable_strings (values : List String) :
    Portable (levels + 1) (.array (values.map .string)) :=
  portable_map fun _ _ => .string _

theorem EnumItem.portable (item : EnumItem) (h : item.value.Rereads) :
    Portable (levels + 1) item.encode := by
  refine .object ?_
  simp [Flags.encode, item.value.portable h]

theorem portable_items {items : List EnumItem} (h : ∀ item ∈ items, item.value.Rereads) :
    Portable (levels + 2) (.array (items.map EnumItem.encode)) :=
  portable_map fun item hitem => item.portable (h item hitem)

theorem MemberRecord.portable (record : MemberRecord) : Portable (levels + 1) record.encode := by
  refine .object ?_
  simp [Flags.encode, MemberType.encode]

theorem ClassRecord.portable (record : ClassRecord) : Portable (levels + 3) record.encode := by
  have hmembers : Portable (levels + 2) (.array (record.members.map MemberRecord.encode)) :=
    portable_map fun member _ => member.portable
  refine .object ?_
  simp [hmembers]

theorem EnumRecord.portable (record : EnumRecord) (h : ∀ item ∈ record.items, item.value.Rereads) :
    Portable (levels + 3) record.encode := by
  refine .object ?_
  simp [portable_items h]

theorem Metadata.portable (metadata : Metadata) : Portable (levels + 1) metadata.encode := by
  refine .object ?_
  simp

theorem Member.portable (member : Member) :
    ∀ entry ∈ member.encode, Portable (levels + 1) entry.2 := by
  simp [encode, Flags.encode, MemberType.encode]

theorem EnumType.portable (enumType : EnumType)
    (h : ∀ item ∈ enumType.items, item.value.Rereads) :
    ∀ entry ∈ enumType.encode, Portable (levels + 2) entry.2 := by
  simp [encode, portable_items h]

-- ---------------------------------------------------------------------------
-- Values in a message
-- ---------------------------------------------------------------------------

def Dataset.values (dataset : Dataset) : List EnumValue :=
  dataset.enums.flatMap fun record => record.items.map (·.value)

def Entry.values : Entry → List EnumValue
  | .member _ => []
  | .enumType e => e.items.map (·.value)

def Request.values : Request → List EnumValue
  | .init data => data.values
  | .filter _ => []

def Response.values : Response → List EnumValue
  | .filterComplete results => results.flatMap Entry.values
  | .initComplete | .filterError _ => []

theorem Dataset.portable (dataset : Dataset) (h : ∀ value ∈ dataset.values, value.Rereads) :
    Portable (levels + 5) dataset.encode := by
  have hclasses : Portable (levels + 4) (.array (dataset.classes.map ClassRecord.encode)) :=
    portable_map fun record _ => record.portable
  have henums : Portable (levels + 4) (.array (dataset.enums.map EnumRecord.encode)) :=
    portable_map fun record hrecord => record.portable fun item hitem =>
      h item.value (List.mem_flatMap.mpr ⟨record, hrecord, List.mem_map_of_mem hitem⟩)
  refine .object ?_
  simp [hclasses, henums, dataset.metadata.portable]

theorem Entry.portable (entry : Entry) (h : ∀ value ∈ entry.values, value.Rereads) :
    Portable (levels + 3) entry.encode := by
  cases entry with
  | member m => exact .object (List.forall_mem_cons.mpr ⟨.string _, m.portable⟩)
  | enumType e =>
    exact .object (List.forall_mem_cons.mpr ⟨.string _, e.portable (List.forall_mem_map.mp h)⟩)

theorem Request.portable (request : Request) (h : ∀ value ∈ request.values, value.Rereads) :
    Portable (levels + 6) request.encode := by
  cases request with
  | init data =>
    refine .object ?_
    simp [data.portable h]
  | filter query =>
    refine .object ?_
    simp

theorem portable_results {results : List Entry}
    (h : ∀ value ∈ results.flatMap Entry.values, value.Rereads) :
    Portable (levels + 4) (.array (results.map Entry.encode)) :=
  portable_map fun entry hentry => entry.portable fun value hvalue =>
    h value (List.mem_flatMap.mpr ⟨entry, hentry, hvalue⟩)

theorem Response.portable (response : Response) (h : ∀ value ∈ response.values, value.Rereads) :
    Portable (levels + 5) response.encode := by
  cases response with
  | filterComplete results =>
    refine .object ?_
    simp [portable_results h]
  | initComplete | filterError =>
    refine .object ?_
    simp

-- ---------------------------------------------------------------------------
-- Tagged parts
-- ---------------------------------------------------------------------------

theorem Member.name_ne_kind (member : Member) : ∀ entry ∈ member.encode, entry.1 ≠ "kind" := by
  simp [encode, Flags.encode]

theorem EnumType.name_ne_kind (enumType : EnumType) :
    ∀ entry ∈ enumType.encode, entry.1 ≠ "kind" := by
  simp [encode]

theorem Entry.decode_encode {context : Context} (hd : context.depth + 3 ≤ Json.Node.maxDepth)
    (entry : Entry) (h : ∀ value ∈ entry.values, value.Rereads) :
    decode context (.ofJson entry.encode) = .ok entry := by
  cases entry with
  | member m =>
    have hfields : ∀ entry ∈ m.encode, Portable 1 entry.2 := m.portable
    have hcontent : beside Member.decode (.object m.encode) = .ok m := m.decode_encode _
    rw [decode, encode, tagged_object rfl m.name_ne_kind hfields (by omega)]
    simp only [bind, Except.bind, hcontent]
    rfl
  | enumType e =>
    have hfields : ∀ entry ∈ e.encode, Portable 2 entry.2 := e.portable (List.forall_mem_map.mp h)
    have hcontent : beside EnumType.decode (.object e.encode) = .ok e := e.decode_encode _
    rw [decode, encode, tagged_object rfl e.name_ne_kind hfields (by omega)]
    simp only [bind, Except.bind, hcontent]
    rfl

theorem onlyField_ok {decode : Json.Decoder α} (h : decode ⟨true, 1⟩ (.ofJson json) = .ok value)
    (title name : String) (blank : α) :
    onlyField title name blank decode (.object [(name, json)]) = .ok value :=
  Fills.structured (.of h .done) (by simp) title

theorem Request.decode_encode (request : Request) (h : ∀ value ∈ request.values, value.Rereads) :
    decode ⟨false, 0⟩ (.ofJson request.encode) = .ok request := by
  cases request with
  | init data =>
    have hdata : ∀ entry ∈ [("data", data.encode)], Portable 5 entry.2 := by
      simp [data.portable h]
    rw [decode, encode, tagged_object rfl (by simp) hdata (by decide)]
    simp only [bind, Except.bind, onlyField_ok (data.decode_encode _)]
    rfl
  | filter query =>
    have hquery : ∀ entry ∈ [("query", Json.string query)], Portable 0 entry.2 := by simp
    have hstring : Json.Decoder.string ⟨true, 1⟩ (.ofJson (.string query)) = .ok query := rfl
    rw [decode, encode, tagged_object rfl (by simp) hquery (by decide)]
    simp only [bind, Except.bind, onlyField_ok hstring]
    rfl

theorem Response.decode_encode (response : Response)
    (h : ∀ value ∈ response.values, value.Rereads) :
    decode ⟨false, 0⟩ (.ofJson response.encode) = .ok response := by
  cases response with
  | initComplete => rfl
  | filterComplete results =>
    have hfield : ∀ entry ∈ [("results", Json.array (results.map Entry.encode))],
        Portable 4 entry.2 := by
      simp [portable_results h]
    have hresults : Json.Decoder.list Entry.decode ⟨true, 1⟩
        (.ofJson (.array (results.map Entry.encode))) = .ok results :=
      list_map fun entry hentry => entry.decode_encode (by decide) fun value hvalue =>
        h value (List.mem_flatMap.mpr ⟨entry, hentry, hvalue⟩)
    rw [decode, encode, tagged_object rfl (by simp) hfield (by decide)]
    simp only [bind, Except.bind, onlyField_ok hresults]
    rfl
  | filterError error =>
    have hfield : ∀ entry ∈ [("error", Json.string error)], Portable 0 entry.2 := by simp
    have hstring : Json.Decoder.string ⟨true, 1⟩ (.ofJson (.string error)) = .ok error := rfl
    rw [decode, encode, tagged_object rfl (by simp) hfield (by decide)]
    simp only [bind, Except.bind, onlyField_ok hstring]
    rfl

-- ---------------------------------------------------------------------------
-- Messages
-- ---------------------------------------------------------------------------

/-- Every message comes back from its text as it was, if the text of every float in it is read as
the same value. -/
theorem messages_come_back :
    (∀ request : Request, (∀ value ∈ request.values, value.Rereads) →
      Request.ofText request.text = .ok request) ∧
    (∀ response : Response, (∀ value ∈ response.values, value.Rereads) →
      Response.ofText response.text = .ok response) := by
  constructor
  · intro request h
    have hportable : Portable 6 request.encode := request.portable h
    exact ofText_text hportable (request.decode_encode h)
  · intro response h
    have hportable : Portable 5 response.encode := response.portable h
    exact ofText_text hportable (response.decode_encode h)

/-- An integer, a whole number with a fraction and a text that reads as a number are told
apart. -/
theorem messages_come_back_two :
    let items : List EnumItem :=
      [⟨"Integer", .integer 2, .off, none⟩, ⟨"Float", .float (.ofNat 2), .off, none⟩,
       ⟨"Text", .text "2", .off, none⟩, ⟨"Flag", .bool true, .off, some "Plugin"⟩,
       ⟨"Nothing", .null, .off, none⟩]
    let request := Request.init ⟨[⟨"Part", [], [.blank]⟩], [⟨"Two", items⟩], .unknown⟩
    let response := Response.filterComplete [.member .blank, .enumType ⟨"Two", items⟩]
    Request.ofText request.text = .ok request ∧ Response.ofText response.text = .ok response :=
  ⟨messages_come_back.1 _ (by decide +kernel), messages_come_back.2 _ (by decide +kernel)⟩

end RefViewer
