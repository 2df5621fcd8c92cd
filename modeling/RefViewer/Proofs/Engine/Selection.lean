import Mathlib.Data.List.TakeWhile
import RefViewer.Proofs.Engine.Reuse

/-!
# What a filter selects

A filter goes through the candidates of a dataset in order: the members of every class, then
the enums. `filter_selects`: it gives the selected candidates, or the error of the first
evaluation that fails, and leaves the engine free.
-/

namespace RefViewer

inductive Candidate where
  | member (owner : ClassRecord) (record : MemberRecord)
  | enumType (record : EnumRecord)

def Dataset.candidates (dataset : Dataset) : List Candidate :=
  (dataset.classes.flatMap fun owner => owner.members.map (.member owner)) ++
    dataset.enums.map .enumType

/-- Whether the query can be evaluated on the record and is true there. -/
def Query.Compiled.truthyOn (query : Query.Compiled) (record : Query.Record) : Bool :=
  match query.holds record with
  | .ok truth => truth
  | .error _ => false

namespace Candidate

def entry : Candidate → Entry
  | .member owner record => .member (Index.memberOf owner record)
  | .enumType record => .enumType ⟨record.name, record.items⟩

def ofMember (owner : ClassRecord) (record : MemberRecord) : Query.Record
  | .name => .string record.name
  | .memberType => .string record.memberType.text
  | .valueType => record.valueType.elim .null .string
  | .className => .string owner.name
  | .inheritance => .list owner.inherits
  | .unreplicated => .bool record.flags.unreplicated
  | .deprecated => .bool record.flags.deprecated
  | .hidden => .bool record.flags.hidden
  | .unscriptable => .bool record.flags.unscriptable
  | .security => record.security.elim .null .string

/-- An enum by itself has a name, and no flag is set on it. -/
def ofEnum (enumName : String) : Query.Record
  | .name => .string enumName
  | .memberType | .className => .string "Enum"
  | .valueType | .security => .null
  | .inheritance => .list []
  | .unreplicated | .deprecated | .hidden | .unscriptable => .bool false

/-- An item stands under the name of its enum, and its value is what it has for a type. -/
def ofItem (enumName : String) (item : EnumItem) : Query.Record
  | .name => .string item.name
  | .memberType => .string "Enum"
  | .valueType =>
    match item.value with
    | .integer i => .number (.ofInt i.toInt)
    | .float x => .number x
    | .text text => .string text
    | .bool b => .bool b
    | .null => .null
  | .className => .string enumName
  | .inheritance => .list []
  | .unreplicated => .bool item.flags.unreplicated
  | .deprecated => .bool item.flags.deprecated
  | .hidden => .bool item.flags.hidden
  | .unscriptable => .bool item.flags.unscriptable
  | .security => item.security.elim .null .string

def records : Candidate → List Query.Record
  | .member owner record => [ofMember owner record]
  | .enumType record => ofEnum record.name :: record.items.map (ofItem record.name)

def selected (query : Query.Compiled) : Candidate → Bool
  | .member owner record => query.truthyOn (ofMember owner record)
  | .enumType record =>
    query.truthyOn (ofEnum record.name) ||
      record.items.any fun item => query.truthyOn (ofItem record.name item)

/-- An evaluation that is reached fails: the query is false on all records before. -/
def Fails (query : Query.Compiled) (error : Query.Error) (candidate : Candidate) : Prop :=
  ∃ before record after, candidate.records = before ++ record :: after ∧
    (∀ earlier ∈ before, query.holds earlier = .ok false) ∧ query.holds record = .error error

theorem ofOption_eq_elim (text : Option String) :
    Query.Value.ofOption text = text.elim .null .string := by
  cases text <;> rfl

theorem record_memberOf (owner : ClassRecord) (record : MemberRecord) :
    (Index.memberOf owner record).record = ofMember owner record := by
  funext field
  cases field with
  | valueType => exact ofOption_eq_elim record.valueType
  | security => exact ofOption_eq_elim record.security
  | _ => rfl

theorem record_enumType (enumName : String) (items : List EnumItem) :
    EnumType.record ⟨enumName, items⟩ = ofEnum enumName := by
  funext field
  cases field <;> rfl

theorem itemRecord_enumType (enumName : String) (items : List EnumItem) :
    EnumType.itemRecord ⟨enumName, items⟩ = ofItem enumName := by
  funext item field
  cases field with
  | valueType => cases item.value <;> rfl
  | security => exact ofOption_eq_elim item.security
  | _ => rfl

theorem views_entry (candidate : Candidate) : candidate.entry.views = candidate.records := by
  cases candidate with
  | member owner record => exact congrArg (fun view => [view]) (record_memberOf owner record)
  | enumType record =>
    simp only [entry, Entry.views, EnumType.itemRecords, records, record_enumType,
      itemRecord_enumType]

theorem any_records (query : Query.Compiled) (candidate : Candidate) :
    candidate.records.any query.truthyOn = candidate.selected query := by
  cases candidate with
  | member owner record => simp [records, selected]
  | enumType record => simp [records, selected, List.any_map, Function.comp_def]

end Candidate

theorem entries_ofDataset (dataset : Dataset) :
    (Index.ofDataset dataset).entries = dataset.candidates.map Candidate.entry := by
  simp only [Index.entries, Index.ofDataset, Dataset.candidates, List.map_append, List.map_flatMap,
    List.map_map]
  rfl

namespace Query.Compiled

-- ---------------------------------------------------------------------------
-- One candidate
-- ---------------------------------------------------------------------------

theorem holdsOnAny_cons (query : Compiled) (record : Record) (rest : List Record) :
    query.holdsOnAny (record :: rest) =
      match query.holds record with
      | .error error => .error error
      | .ok true => .ok true
      | .ok false => query.holdsOnAny rest := by
  rw [holdsOnAny]
  cases query.holds record with
  | error error => rfl
  | ok truth => cases truth <;> rfl

/-- A run over the records of a candidate answers for all of them, unless one that it reaches
fails. -/
theorem holdsOnAny_outcome (query : Compiled) (records : List Record) :
    query.holdsOnAny records = .ok (records.any query.truthyOn) ∨
      ∃ error before record after, query.holdsOnAny records = .error error ∧
        records = before ++ record :: after ∧
        (∀ earlier ∈ before, query.holds earlier = .ok false) ∧
        query.holds record = .error error := by
  induction records with
  | nil => exact .inl rfl
  | cons record rest ih =>
    rw [holdsOnAny_cons]
    cases hr : query.holds record with
    | error error => exact .inr ⟨error, [], record, rest, rfl, rfl, by simp, hr⟩
    | ok truth =>
      cases truth with
      | true => exact .inl (by simp [truthyOn, hr])
      | false =>
        rcases ih with hok | ⟨error, before, failing, after, he, hsplit, hbefore, hfail⟩
        · exact .inl (by simpa [truthyOn, hr] using hok)
        · refine .inr ⟨error, record :: before, failing, after, he, by simp [hsplit], ?_, hfail⟩
          exact List.forall_mem_cons.mpr ⟨hr, hbefore⟩

theorem holdsOnAny_error {query : Compiled} {before : List Record}
    (hbefore : ∀ earlier ∈ before, query.holds earlier = .ok false)
    (hfail : query.holds record = .error error) :
    query.holdsOnAny (before ++ record :: after) = .error error := by
  induction before with
  | nil => rw [List.nil_append, holdsOnAny_cons, hfail]
  | cons earlier before ih =>
    obtain ⟨hfirst, hbefore⟩ := List.forall_mem_cons.mp hbefore
    rw [List.cons_append, holdsOnAny_cons, hfirst]
    exact ih hbefore

theorem holdsOnAny_of_fails {query : Compiled} {candidate : Candidate}
    (hf : candidate.Fails query error) : query.holdsOnAny candidate.records = .error error := by
  obtain ⟨before, record, after, he, hbefore, hfail⟩ := hf
  rw [he]
  exact holdsOnAny_error hbefore hfail

theorem holdsOnAny_of_not_fails {query : Compiled} {candidate : Candidate}
    (hf : ∀ error, ¬ candidate.Fails query error) :
    query.holdsOnAny candidate.records = .ok (candidate.selected query) := by
  rcases query.holdsOnAny_outcome candidate.records with hok | ⟨error, before, record, after, -, hr⟩
  · rw [hok, candidate.any_records]
  · exact absurd ⟨before, record, after, hr⟩ (hf error)

-- ---------------------------------------------------------------------------
-- All candidates
-- ---------------------------------------------------------------------------

theorem select_cons (query : Compiled) (candidate : Candidate) (rest : List Entry) :
    query.select (candidate.entry :: rest) = (do
      let selected ← query.holdsOnAny candidate.records
      let others ← query.select rest
      return if selected then candidate.entry :: others else others) := by
  rw [select, candidate.views_entry]

theorem select_append {query : Compiled} {candidates : List Candidate} (rest : List Entry)
    (hf : ∀ candidate ∈ candidates, ∀ error, ¬ candidate.Fails query error) :
    query.select (candidates.map Candidate.entry ++ rest) =
      (query.select rest).map
        ((candidates.filter (·.selected query)).map Candidate.entry ++ ·) := by
  induction candidates with
  | nil =>
    change query.select rest = _
    cases query.select rest <;> rfl
  | cons candidate candidates ih =>
    obtain ⟨hfirst, hf⟩ := List.forall_mem_cons.mp hf
    rw [List.map_cons, List.cons_append, select_cons, ih hf, holdsOnAny_of_not_fails hfirst]
    cases query.select rest <;> cases hs : candidate.selected query <;>
      simp [hs, bind, Except.bind, Except.map, pure, Except.pure]

theorem select_candidates {query : Compiled} {candidates : List Candidate}
    (hf : ∀ candidate ∈ candidates, ∀ error, ¬ candidate.Fails query error) :
    query.select (candidates.map Candidate.entry) =
      .ok ((candidates.filter (·.selected query)).map Candidate.entry) := by
  simpa [select, Except.map] using select_append [] hf

theorem select_first_failure {query : Compiled} {before : List Candidate} (after : List Candidate)
    (hf : ∀ candidate ∈ before, ∀ error, ¬ candidate.Fails query error)
    (hfail : candidate.Fails query error) :
    query.select ((before ++ candidate :: after).map Candidate.entry) = .error error := by
  rw [List.map_append, List.map_cons, select_append _ hf, select_cons, holdsOnAny_of_fails hfail]
  rfl

theorem select_everything {query : Compiled} (hq : ∀ record, query.holds record = .ok true)
    (candidates : List Candidate) :
    query.select (candidates.map Candidate.entry) = .ok (candidates.map Candidate.entry) := by
  have htruthy (record : Record) : query.truthyOn record = true := by simp [truthyOn, hq]
  have hselected (candidate : Candidate) : candidate.selected query = true := by
    cases candidate <;> simp [Candidate.selected, htruthy]
  have hf (candidate : Candidate) (error : Error) : ¬ candidate.Fails query error := by
    rintro ⟨before, record, after, -, -, hfail⟩
    simp [hq] at hfail
  rw [select_candidates fun candidate _ => hf candidate, List.filter_eq_self.mpr]
  exact fun candidate _ => hselected candidate

end Query.Compiled

-- ---------------------------------------------------------------------------
-- The filter
-- ---------------------------------------------------------------------------

theorem trim_of_blank {text : String} (hb : ∀ c ∈ text.toList, Unicode.isBlank c = true) :
    Unicode.trim text = "" := by
  have hd : text.toList.dropWhile Unicode.isBlank = [] := List.dropWhile_eq_nil_iff.mpr hb
  simp [Unicode.trim, Unicode.trimChars, Unicode.trimStartChars, hd]

theorem ofText_of_blank {text : String} (hb : ∀ c ∈ text.toList, Unicode.isBlank c = true) :
    Query.Compiled.ofText text = .ok ⟨"", none⟩ := by
  simp [Query.Compiled.ofText, trim_of_blank hb, Query.Compiled.ofTrimmed]

theorem ofText_true : Query.Compiled.ofText "true" = .ok ⟨"true", some (.literal (.bool true))⟩ :=
  rfl

theorem resultOn_error (index : Index) (he : Query.Compiled.ofText text = .error error) :
    Engine.resultOn index text = .error (.ofQuery error) := by
  rw [Engine.resultOn, he]
  rfl

theorem resultOn_ok (dataset : Dataset) (hq : Query.Compiled.ofText text = .ok query) :
    Engine.resultOn (.ofDataset dataset) text =
      (query.select (dataset.candidates.map Candidate.entry)).mapError Failure.ofQuery := by
  rw [Engine.resultOn, hq, entries_ofDataset]
  rfl

theorem resultOn_everything (dataset : Dataset) (hq : Query.Compiled.ofText text = .ok query)
    (ht : ∀ record, query.holds record = .ok true) :
    Engine.resultOn (.ofDataset dataset) text = .ok (dataset.candidates.map Candidate.entry) := by
  rw [resultOn_ok dataset hq, Query.Compiled.select_everything ht]
  rfl

/-- On an engine that was given a dataset last, a text that does not compile gives its own error.
Any other one gives the selected candidates in their order, or else the error of the first
evaluation that fails. A blank text selects every candidate, as `true` does. -/
theorem filter_selects (h : Engine.Holds engine (some dataset)) (text : String) :
    (∀ error, Query.Compiled.ofText text = .error error →
      (engine.filter text).1 = .error (.ofQuery error)) ∧
    (∀ query, Query.Compiled.ofText text = .ok query →
      ((∀ candidate ∈ dataset.candidates, ∀ error, ¬ candidate.Fails query error) →
        (engine.filter text).1 =
          .ok ((dataset.candidates.filter (·.selected query)).map Candidate.entry)) ∧
      (∀ before candidate after error, dataset.candidates = before ++ candidate :: after →
        (∀ earlier ∈ before, ∀ error, ¬ earlier.Fails query error) →
        candidate.Fails query error → (engine.filter text).1 = .error (.ofQuery error))) ∧
    ((∀ c ∈ text.toList, Unicode.isBlank c = true) →
      (engine.filter text).1 = .ok (dataset.candidates.map Candidate.entry) ∧
      (engine.filter text).1 = (engine.filter "true").1) ∧
    (engine.filter text).2.filtering = false := by
  simp only [h.filter_result]
  refine ⟨fun error he => resultOn_error _ he, fun query hq => ⟨fun hf => ?_, ?_⟩, fun hb => ?_,
    (h.settled.filter text).2.free⟩
  · rw [Engine.indexOf, Option.elim_some, resultOn_ok dataset hq,
      Query.Compiled.select_candidates hf]
    rfl
  · intro before candidate after error hsplit hbefore hfail
    rw [Engine.indexOf, Option.elim_some, resultOn_ok dataset hq, hsplit,
      Query.Compiled.select_first_failure after hbefore hfail]
    rfl
  · have hblank := resultOn_everything dataset (ofText_of_blank hb) fun _ => rfl
    have htrue := resultOn_everything dataset ofText_true fun _ => rfl
    exact ⟨hblank, hblank.trans htrue.symm⟩

theorem filter_selects_hidden_item :
    Engine.Holds ((Engine.new 8).load partAndColor) (some partAndColor) ∧
      Query.Compiled.ofText "hidden" = .ok ⟨"hidden", some (.field .hidden)⟩ ∧
      (((Engine.new 8).load partAndColor).filter "hidden").1 =
        .ok [.enumType redAndHiddenBlue] := by
  have hholds : Engine.Holds ((Engine.new 8).load partAndColor) (some partAndColor) :=
    .load (.new 8) partAndColor
  have hquery : Query.Compiled.ofText "hidden" = .ok ⟨"hidden", some (.field .hidden)⟩ := by
    have hc : (Query.Compiled.ofText "hidden").toOption =
        some ⟨"hidden", some (.field .hidden)⟩ := by decide +kernel
    revert hc
    cases Query.Compiled.ofText "hidden" <;> simp [Except.toOption]
  refine ⟨hholds, hquery, ((filter_selects hholds "hidden").2.1 _ hquery).1 ?_⟩
  rintro candidate - error ⟨before, record, after, -, -, hfail⟩
  simp [Query.Compiled.holds, Query.Expr.eval, Except.map] at hfail

end RefViewer
