import RefViewer.Proofs.Engine.Selection
import RefViewer.Proofs.Query.Kinds

/-!
# Filters that cannot fail

Members, enums and their items are records of the same kinds, apart from the value type: that of
an item is whatever value the item has. `filter_succeeds`: a query whose operands are of the right
form filters every dataset without an error.
-/

namespace RefViewer

open Query (Record)

def Dataset.typed (dataset : Dataset) : Bool :=
  dataset.enums.all fun record => record.items.all fun item =>
    match item.value with
    | .bool _ => false
    | _ => true

theorem Member.record_fits (member : Member) (typed : Bool) : Record.Fits typed member.record where
  sized f textual := by
    cases f with
    | name | memberType | className => exact .string _
    | inheritance => exact .list _
    | security => exact Query.Value.sized_ofOption _
    | _ => cases textual
  valueType _ := (Query.Value.sized_ofOption _).hasText

theorem EnumType.record_fits (enumType : EnumType) (typed : Bool) :
    Record.Fits typed enumType.record where
  sized f textual := by
    cases f with
    | name | memberType | className => exact .string _
    | inheritance => exact .list _
    | security => exact .null
    | _ => cases textual
  valueType _ := Query.Value.Sized.null.hasText

/-- Only the value type of an item can be a boolean. -/
theorem EnumType.itemRecord_fits (enumType : EnumType) {item : EnumItem} {typed : Bool}
    (known : typed = true → ∀ b, item.value ≠ .bool b) :
    Record.Fits typed (enumType.itemRecord item) where
  sized f textual := by
    cases f with
    | name | memberType | className => exact .string _
    | inheritance => exact .list _
    | security => exact Query.Value.sized_ofOption _
    | _ => cases textual
  valueType typed := by
    change item.value.value.HasText
    cases value : item.value with
    | integer i => exact Query.Value.hasText_number _
    | float n => exact Query.Value.hasText_number n
    | text s => exact (Query.Value.Sized.string s).hasText
    | bool b => exact absurd value (known typed b)
    | null => exact Query.Value.Sized.null.hasText

theorem Dataset.records_fit (dataset : Dataset) :
    ∀ candidate ∈ dataset.candidates, ∀ record ∈ candidate.records,
      Record.Fits dataset.typed record := by
  intro candidate listed record looked
  rw [← candidate.views_entry] at looked
  cases candidate with
  | member owner member =>
    obtain rfl := List.mem_singleton.mp looked
    exact Member.record_fits _ _
  | enumType found =>
    rcases List.mem_cons.mp looked with rfl | looked
    · exact EnumType.record_fits _ _
    · obtain ⟨item, among, rfl⟩ := List.mem_map.mp looked
      have listed : found ∈ dataset.enums := by simpa [candidates] using listed
      refine EnumType.itemRecord_fits _ fun typed b boolean => ?_
      have plain := List.all_eq_true.mp (List.all_eq_true.mp typed found listed) item among
      rw [boolean] at plain
      cases plain

/-- On every dataset a query succeeds, if the operands of its operations have the right form:
neither a member nor an enum nor an item of one makes it fail. -/
theorem filter_succeeds (h : Engine.Holds engine (some dataset))
    (compiles : Query.Compiled.ofText text = .ok query)
    (safe : ∀ e ∈ query.expr, e.safe dataset.typed = true) :
    (∀ candidate ∈ dataset.candidates, ∀ record ∈ candidate.records,
      ∃ truth, query.holds record = .ok truth) ∧
    (engine.filter text).1 =
      .ok ((dataset.candidates.filter (·.selected query)).map Candidate.entry) := by
  have holds : ∀ candidate ∈ dataset.candidates, ∀ record ∈ candidate.records,
      ∃ truth, query.holds record = .ok truth := by
    intro candidate listed record looked
    have fits := dataset.records_fit candidate listed record looked
    unfold Query.Compiled.holds
    cases given : query.expr with
    | none => exact ⟨true, rfl⟩
    | some e =>
      obtain ⟨value, succeeds⟩ := Query.Expr.succeeds_of_safe fits e (safe e given)
      exact ⟨value.truthy, by simp only [succeeds.eval_eq, Except.map]⟩
  refine ⟨holds, ?_⟩
  rw [h.filter_result, Engine.indexOf, Option.elim_some, resultOn_ok dataset compiles,
    Query.Compiled.select_candidates]
  · rfl
  · rintro candidate listed error ⟨before, record, after, split, -, failed⟩
    obtain ⟨truth, held⟩ := holds candidate listed record (by simp [split])
    cases held.symm.trans failed

/-- The value types of the items are numbers here, so a query may also search in them. -/
theorem filter_succeeds_valueType :
    Engine.Holds ((Engine.new 8).load partAndColor) (some partAndColor) ∧
      partAndColor.typed = true ∧
      Query.Compiled.ofText "valueType contains 1 or name.length < 4" =
        .ok ⟨"valueType contains 1 or name.length < 4",
          some (.or (.text .contains (.field .valueType) (.literal (.number (.ofNat 1))))
            (.compare .lt (.length (.field .name)) (.literal (.number (.ofNat 4)))))⟩ ∧
      (((Engine.new 8).load partAndColor).filter
        "valueType contains 1 or name.length < 4").1 = .ok [.enumType redAndHiddenBlue] := by
  have holds : Engine.Holds ((Engine.new 8).load partAndColor) (some partAndColor) :=
    .load (.new 8) partAndColor
  have compiles : Query.Compiled.ofText "valueType contains 1 or name.length < 4" =
      .ok ⟨"valueType contains 1 or name.length < 4",
        some (.or (.text .contains (.field .valueType) (.literal (.number (.ofNat 1))))
          (.compare .lt (.length (.field .name)) (.literal (.number (.ofNat 4)))))⟩ := by
    decide +kernel
  refine ⟨holds, rfl, compiles, (filter_succeeds holds compiles ?_).2.trans ?_⟩
  · rintro e ⟨⟩
    rfl
  · decide +kernel

end RefViewer
