import RefViewer.Proofs.Engine.Composition

/-!
# What a query sees

A query looks at nothing but the fields that occur in it. `filter_sees_occurring`: on two datasets
of the same shape whose records hold the same values in these fields, a filter selects the same
positions or fails with the same error.
-/

namespace RefViewer

-- ---------------------------------------------------------------------------
-- One record
-- ---------------------------------------------------------------------------

namespace Query

def Record.AlikeIn (fields : List Field) (item twin : Record) : Prop :=
  ∀ f ∈ fields, item f = twin f

section

variable {item twin : Record} {fields others : List Field}

theorem Record.AlikeIn.left (alike : item.AlikeIn (fields ++ others) twin) :
    item.AlikeIn fields twin :=
  fun f occurs => alike f (List.mem_append_left others occurs)

theorem Record.AlikeIn.right (alike : item.AlikeIn (fields ++ others) twin) :
    item.AlikeIn others twin :=
  fun f occurs => alike f (List.mem_append_right fields occurs)

end

def Expr.fields : Expr → List Field
  | .literal _ => []
  | .field f => [f]
  | .not operand => operand.fields
  | .and lhs rhs | .or lhs rhs | .compare _ lhs rhs | .text _ lhs rhs => lhs.fields ++ rhs.fields
  | .matches subject _ | .length subject | .convert _ subject => subject.fields

theorem Expr.eval_alike {item twin : Record} (e : Expr) (alike : item.AlikeIn e.fields twin) :
    e.eval item = e.eval twin := by
  induction e with
  | literal value => rfl
  | field f => exact congrArg Except.ok (alike f List.mem_cons_self)
  | not operand ih => rw [eval, eval, ih alike]
  | and lhs rhs ihl ihr => rw [eval, eval, ihl alike.left, ihr alike.right]
  | or lhs rhs ihl ihr => rw [eval, eval, ihl alike.left, ihr alike.right]
  | compare comparison lhs rhs ihl ihr => rw [eval, eval, ihl alike.left, ihr alike.right]
  | text test lhs rhs ihl ihr => rw [eval, eval, ihl alike.left, ihr alike.right]
  | «matches» subject pattern ih => rw [eval, eval, ih alike]
  | length subject ih => rw [eval, eval, ih alike]
  | convert case subject ih => rw [eval, eval, ih alike]

namespace Compiled

def fields (query : Compiled) : List Field := query.expr.elim [] Expr.fields

variable {query : Compiled}

theorem holds_alike {item twin : Record} (alike : item.AlikeIn query.fields twin) :
    query.holds item = query.holds twin := by
  obtain ⟨source, expr⟩ := query
  cases expr with
  | none => rfl
  | some e => exact congrArg (Except.map Value.truthy) (e.eval_alike alike)

-- ---------------------------------------------------------------------------
-- The views of an entry
-- ---------------------------------------------------------------------------

theorem holdsOnAny_alike {views twins : List Record}
    (alike : List.Forall₂ (Record.AlikeIn query.fields) views twins) :
    query.holdsOnAny views = query.holdsOnAny twins := by
  induction alike with
  | nil => rfl
  | cons first _ ih => rw [holdsOnAny_cons, holdsOnAny_cons, holds_alike first, ih]

def AlikeOn (query : Compiled) (entry twin : Entry) : Prop :=
  List.Forall₂ (Record.AlikeIn query.fields) entry.views twin.views

-- ---------------------------------------------------------------------------
-- All entries
-- ---------------------------------------------------------------------------

section

variable {ι κ : Type}

theorem selectBy_congr {views twins : ι → List Record} {places : List ι}
    (same : ∀ place ∈ places, query.holdsOnAny (views place) = query.holdsOnAny (twins place)) :
    query.selectBy views places = query.selectBy twins places := by
  induction places with
  | nil => rfl
  | cons place places ih =>
    obtain ⟨first, others⟩ := List.forall_mem_cons.mp same
    rw [selectBy, selectBy, first, ih others]

theorem selectBy_map (views : κ → List Record) (number : ι → κ) (places : List ι) :
    query.selectBy views (places.map number) =
      (query.selectBy (fun place => views (number place)) places).map (·.map number) := by
  induction places with
  | nil => rfl
  | cons place places ih =>
    rw [List.map_cons, selectBy, selectBy, ih]
    cases query.holdsOnAny (views (number place)) with
    | error fault => rfl
    | ok selected =>
      cases query.selectBy (fun place => views (number place)) places with
      | error fault => rfl
      | ok others => cases selected <;> rfl

end

def viewsAt (entries : List Entry) (n : Nat) : List Record := (entries[n]?.map Entry.views).getD []

theorem positions_numbers (query : Compiled) (entries : List Entry) :
    (query.positions entries).map (·.map Fin.val) =
      query.selectBy (viewsAt entries) (List.range entries.length) := by
  have views (i : Fin entries.length) : viewsAt entries i.val = (entries.get i).views := by
    simp [viewsAt]
  rw [← List.map_coe_finRange_eq_range, selectBy_map, positions]
  simp only [views]

theorem positions_alike {entries twins : List Entry}
    (alike : List.Forall₂ query.AlikeOn entries twins) :
    (query.positions entries).map (·.map Fin.val) =
      (query.positions twins).map (·.map Fin.val) := by
  rw [positions_numbers, positions_numbers, alike.length_eq]
  refine selectBy_congr fun n listed => ?_
  have within : n < twins.length := List.mem_range.mp listed
  have first : n < entries.length := alike.length_eq ▸ within
  simp only [viewsAt, List.getElem?_eq_getElem first, List.getElem?_eq_getElem within,
    Option.map_some, Option.getD_some]
  exact holdsOnAny_alike (alike.get first within)

end Compiled

end Query

-- ---------------------------------------------------------------------------
-- Datasets
-- ---------------------------------------------------------------------------

/-- The datasets are of the same shape: as many classes with as many members each, and as many
enums with as many items each. At the same place they have the same values in these fields. -/
structure Dataset.AlikeIn (fields : List Query.Field) (dataset twin : Dataset) : Prop where
  classes : List.Forall₂ (fun owner other =>
    List.Forall₂ (fun record same =>
      (Index.memberOf owner record).record.AlikeIn fields (Index.memberOf other same).record)
      owner.members other.members) dataset.classes twin.classes
  enums : List.Forall₂ (fun record other =>
    (EnumType.mk record.name record.items).record.AlikeIn fields
      (EnumType.mk other.name other.items).record ∧
    List.Forall₂ (fun item same =>
      ((EnumType.mk record.name record.items).itemRecord item).AlikeIn fields
        ((EnumType.mk other.name other.items).itemRecord same)) record.items other.items)
      dataset.enums twin.enums

theorem Dataset.AlikeIn.entries {query : Query.Compiled} {dataset twin : Dataset}
    (alike : dataset.AlikeIn query.fields twin) :
    List.Forall₂ query.AlikeOn (Index.ofDataset dataset).entries
      (Index.ofDataset twin).entries := by
  refine List.rel_append ?_ ?_
  · rw [List.forall₂_map_left_iff, List.forall₂_map_right_iff]
    refine List.rel_flatMap alike.classes fun owner other members => ?_
    rw [List.forall₂_map_left_iff, List.forall₂_map_right_iff]
    exact members.imp fun record same => (.cons · .nil)
  · simp only [Index.ofDataset, List.forall₂_map_left_iff, List.forall₂_map_right_iff]
    refine alike.enums.imp fun record other both => .cons both.1 ?_
    rw [EnumType.itemRecords, EnumType.itemRecords, List.forall₂_map_left_iff,
      List.forall₂_map_right_iff]
    exact both.2

/-- On engines that were given datasets of the same shape, with the same values wherever the query
names a field, the query selects the same positions or fails with the same error. -/
theorem filter_sees_occurring (first : Engine.Holds engine (some dataset))
    (second : Engine.Holds other (some twin))
    (compiled : Query.Compiled.ofText text = .ok query)
    (alike : dataset.AlikeIn query.fields twin) :
    engine.index.entries.length = other.index.entries.length ∧
    (engine.filter text).1 =
      (engine.positions text).map (·.map engine.index.entries.get) ∧
    (other.filter text).1 = (other.positions text).map (·.map other.index.entries.get) ∧
    (engine.positions text).map (·.map Fin.val) =
      (other.positions text).map (·.map Fin.val) := by
  have entries : List.Forall₂ query.AlikeOn engine.index.entries other.index.entries := by
    rw [first.settled.index, second.settled.index]
    exact alike.entries
  refine ⟨entries.length_eq, engine.filter_positions text, other.filter_positions text, ?_⟩
  have numbers {n : Nat} (ran : Except Query.Error (List (Fin n))) :
      (ran.mapError Failure.ofQuery).map (·.map Fin.val) =
        (ran.map (·.map Fin.val)).mapError Failure.ofQuery := by
    cases ran <;> rfl
  rw [first.settled.positions_eq compiled, second.settled.positions_eq compiled, numbers, numbers,
    Query.Compiled.positions_alike entries]

def modelAndColor : Dataset where
  classes := [⟨"Model", [], [⟨"Anchored", .event, none, .off, some "None"⟩]⟩]
  enums := [⟨"Color", [⟨"Red", .bool true, .off, some "Plugin"⟩,
    ⟨"Blue", .null, { Flags.off with hidden := true }, none⟩]⟩]
  metadata := ⟨some "2", none⟩

/-- The query sees names and one flag, so it cannot tell the two datasets apart. -/
theorem filter_sees_occurring_names :
    Engine.Holds ((Engine.new 8).load partAndColor) (some partAndColor) ∧
      Engine.Holds ((Engine.new 0).load modelAndColor) (some modelAndColor) ∧
      Query.Compiled.ofText "hidden and name == 'Blue'" =
        .ok ⟨"hidden and name == 'Blue'", some (.and (.field .hidden)
          (.compare .eq (.field .name) (.literal (.string "Blue"))))⟩ ∧
      partAndColor.AlikeIn [.hidden, .name] modelAndColor ∧
      (((Engine.new 8).load partAndColor).positions "hidden and name == 'Blue'").map
        (·.map Fin.val) = .ok [1] ∧
      (((Engine.new 0).load modelAndColor).positions "hidden and name == 'Blue'").map
        (·.map Fin.val) = .ok [1] := by
  have first : Engine.Holds ((Engine.new 8).load partAndColor) (some partAndColor) :=
    .load (.new 8) partAndColor
  have second : Engine.Holds ((Engine.new 0).load modelAndColor) (some modelAndColor) :=
    .load (.new 0) modelAndColor
  have compiled : Query.Compiled.ofText "hidden and name == 'Blue'" =
      .ok ⟨"hidden and name == 'Blue'", some (.and (.field .hidden)
        (.compare .eq (.field .name) (.literal (.string "Blue"))))⟩ := by
    decide +kernel
  have alike : partAndColor.AlikeIn [.hidden, .name] modelAndColor := by
    constructor
    · refine .cons (.cons ?_ .nil) .nil
      simp [Query.Record.AlikeIn, Index.memberOf, Member.record]
    · refine .cons ⟨?_, .cons ?_ (.cons ?_ .nil)⟩ .nil
      all_goals simp [Query.Record.AlikeIn, EnumType.record, EnumType.itemRecord,
        redAndHiddenBlue, Flags.off]
  have selected : (((Engine.new 8).load partAndColor).positions
      "hidden and name == 'Blue'").map (·.map Fin.val) = .ok [1] := by
    decide +kernel
  refine ⟨first, second, compiled, alike, selected, ?_⟩
  exact (filter_sees_occurring first second compiled alike).2.2.2.symm.trans selected

end RefViewer
