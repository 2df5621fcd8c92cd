import RefViewer.Proofs.Engine.Selection
import RefViewer.Stats

/-!
# Filtering by a flag

A member has its own flags and an enum those of its items. `filter_by_flag`: a query for a flag
selects exactly the entries that have it, and what is left out does not count for the flag.
-/

namespace RefViewer

-- ---------------------------------------------------------------------------
-- Flags
-- ---------------------------------------------------------------------------

inductive Flag where
  | unreplicated
  | deprecated
  | hidden
  | unscriptable
  deriving DecidableEq, Repr

namespace Flag

def field : Flag → Query.Field
  | .unreplicated => .unreplicated
  | .deprecated => .deprecated
  | .hidden => .hidden
  | .unscriptable => .unscriptable

def isSet (flags : Flags) : Flag → Bool
  | .unreplicated => flags.unreplicated
  | .deprecated => flags.deprecated
  | .hidden => flags.hidden
  | .unscriptable => flags.unscriptable

def count (stats : Stats) : Flag → Nat
  | .unreplicated => stats.unreplicated
  | .deprecated => stats.deprecated
  | .hidden => stats.hidden
  | .unscriptable => stats.unscriptable

def text : Flag → String
  | .unreplicated => "unreplicated"
  | .deprecated => "deprecated"
  | .hidden => "hidden"
  | .unscriptable => "unscriptable"

def comparison (flag : Flag) : String := flag.text ++ " == true"

/-- A member has its own flags, an enum has those of its items. -/
def marks (flag : Flag) : Entry → Bool
  | .member m => flag.isSet m.flags
  | .enumType e => e.items.any fun item => flag.isSet item.flags

theorem marks_eq (flag : Flag) (entry : Entry) :
    flag.marks entry = (Stats.flagsOf entry).any flag.isSet := by
  cases entry with
  | member m => simp [marks, Stats.flagsOf]
  | enumType e => simp [marks, Stats.flagsOf, Function.comp_def]

-- ---------------------------------------------------------------------------
-- What a query for a flag selects
-- ---------------------------------------------------------------------------

/-- On every record with this flag the query answers by the flag. -/
def DecidedBy (query : Query.Compiled) (flag : Flag) : Prop :=
  ∀ record b, record flag.field = .bool b → query.holds record = .ok b

theorem text_compiles (flag : Flag) :
    Query.Compiled.ofText flag.text = .ok ⟨flag.text, some (.field flag.field)⟩ := by
  cases flag <;> decide +kernel

theorem comparison_compiles (flag : Flag) :
    Query.Compiled.ofText flag.comparison = .ok ⟨flag.comparison,
      some (.compare .eq (.field flag.field) (.literal (.bool true)))⟩ := by
  cases flag <;> decide +kernel

theorem decidedBy_text (flag : Flag) (source : String) :
    flag.DecidedBy ⟨source, some (.field flag.field)⟩ := by
  intro record b value
  simp only [Query.Compiled.holds, Query.Expr.eval, value]
  rfl

theorem decidedBy_comparison (flag : Flag) (source : String) :
    flag.DecidedBy ⟨source, some (.compare .eq (.field flag.field) (.literal (.bool true)))⟩ := by
  intro record b value
  simp only [Query.Compiled.holds, Query.Expr.eval, value]
  cases b <;> rfl

variable {flag : Flag} {query : Query.Compiled}

/-- The flags of an enum by itself are off, so its items decide. -/
theorem DecidedBy.items (decided : flag.DecidedBy query) (enumType : EnumType)
    (items : List EnumItem) :
    query.holdsOnAny (items.map enumType.itemRecord) =
      .ok (items.any fun item => flag.isSet item.flags) := by
  induction items with
  | nil => rfl
  | cons item rest ih =>
    have own : query.holds (enumType.itemRecord item) = .ok (flag.isSet item.flags) :=
      decided _ _ (by cases flag <;> rfl)
    rw [List.map_cons, Query.Compiled.holdsOnAny_cons, own, List.any_cons]
    cases flag.isSet item.flags with
    | true => rfl
    | false => exact ih

theorem DecidedBy.views (decided : flag.DecidedBy query) (entry : Entry) :
    query.holdsOnAny entry.views = .ok (flag.marks entry) := by
  cases entry with
  | member m =>
    have own : query.holds m.record = .ok (flag.isSet m.flags) :=
      decided _ _ (by cases flag <;> rfl)
    rw [Entry.views, Query.Compiled.holdsOnAny_cons, own, marks]
    cases flag.isSet m.flags <;> rfl
  | enumType e =>
    have own : query.holds e.record = .ok false := decided _ _ (by cases flag <;> rfl)
    rw [Entry.views, Query.Compiled.holdsOnAny_cons, own]
    exact decided.items e e.items

theorem DecidedBy.select (decided : flag.DecidedBy query) (entries : List Entry) :
    query.select entries = .ok (entries.filter flag.marks) := by
  induction entries with
  | nil => rfl
  | cons entry rest ih =>
    rw [Query.Compiled.select, decided.views, ih, List.filter_cons]
    rfl

theorem DecidedBy.filter (decided : flag.DecidedBy query)
    (compiled : Query.Compiled.ofText source = .ok query)
    (h : Engine.Holds engine (some dataset)) :
    (engine.filter source).1 = .ok ((Index.ofDataset dataset).entries.filter flag.marks) := by
  rw [h.filter_result, Engine.indexOf, Option.elim_some, Engine.resultOn, compiled]
  change (query.select _).mapError Failure.ofQuery = _
  rw [decided.select]
  rfl

end Flag

-- ---------------------------------------------------------------------------
-- Counts
-- ---------------------------------------------------------------------------

namespace Stats

def add (a b : Stats) : Stats where
  total := a.total + b.total
  unreplicated := a.unreplicated + b.unreplicated
  deprecated := a.deprecated + b.deprecated
  hidden := a.hidden + b.hidden
  unscriptable := a.unscriptable + b.unscriptable

theorem ofEntries_append (x y : List Entry) :
    ofEntries (x ++ y) = (ofEntries x).add (ofEntries y) := by
  simp only [ofEntries, add, List.flatMap_append, List.countP_append, List.length_append]

theorem count_ofEntries (flag : Flag) (entries : List Entry) :
    flag.count (ofEntries entries) = (entries.flatMap flagsOf).countP flag.isSet := by
  cases flag <;> rfl

theorem count_filter (flag : Flag) (entries : List Entry) :
    flag.count (ofEntries (entries.filter flag.marks)) = flag.count (ofEntries entries) := by
  simp only [count_ofEntries]
  induction entries with
  | nil => rfl
  | cons entry rest ih =>
    rw [List.filter_cons, List.flatMap_cons, List.countP_append]
    cases marked : flag.marks entry with
    | true => rw [if_pos rfl, List.flatMap_cons, List.countP_append, ih]
    | false =>
      have none : (flagsOf entry).countP flag.isSet = 0 := by
        rw [flag.marks_eq, List.any_eq_false] at marked
        exact List.countP_eq_zero.mpr marked
      rw [if_neg Bool.false_ne_true, ih, none, Nat.zero_add]

end Stats

/-- The members and the items in the dataset that have the flag. -/
def Dataset.flagCount (dataset : Dataset) (flag : Flag) : Nat :=
  (dataset.classes.flatMap ClassRecord.members).countP (fun record => flag.isSet record.flags) +
    (dataset.enums.flatMap EnumRecord.items).countP fun item => flag.isSet item.flags

theorem Dataset.count_entries (dataset : Dataset) (flag : Flag) :
    flag.count (Stats.ofEntries (Index.ofDataset dataset).entries) = dataset.flagCount flag := by
  have members : (Index.ofDataset dataset).members.map Member.flags =
      (dataset.classes.flatMap ClassRecord.members).map MemberRecord.flags := by
    simp only [Index.ofDataset, List.map_flatMap, List.map_map]
    rfl
  have items : (Index.ofDataset dataset).enums.flatMap (fun e => e.items.map EnumItem.flags) =
      (dataset.enums.flatMap EnumRecord.items).map EnumItem.flags := by
    simp only [Index.ofDataset, List.flatMap_map, List.map_flatMap]
  have flags : (Index.ofDataset dataset).entries.flatMap Stats.flagsOf =
      (Index.ofDataset dataset).members.map Member.flags ++
        (Index.ofDataset dataset).enums.flatMap (fun e => e.items.map EnumItem.flags) := by
    rw [Index.entries, List.flatMap_append, List.flatMap_map, List.flatMap_map,
      List.map_eq_flatMap]
    rfl
  rw [Stats.count_ofEntries, flags, members, items, List.countP_append, List.countP_map,
    List.countP_map]
  rfl

/-- On an engine that was given a dataset last, a flag by itself and compared with `true` selects
the members that have it and the enums with an item that has it. Its count is the same as over all
entries, which a blank query selects, and there it is the number of members and items in the dataset
that have the flag. The counts of two lists add up. -/
theorem filter_by_flag (h : Engine.Holds engine (some dataset)) (flag : Flag) :
    let flagged := (Index.ofDataset dataset).entries.filter flag.marks
    (engine.filter flag.text).1 = .ok flagged ∧
    (engine.filter flag.comparison).1 = .ok flagged ∧
    (∀ blank : String, (∀ c ∈ blank.toList, Unicode.isBlank c = true) →
      ∃ all, (engine.filter blank).1 = .ok all ∧
        flag.count (Stats.ofEntries flagged) = flag.count (Stats.ofEntries all) ∧
        flag.count (Stats.ofEntries all) = dataset.flagCount flag) ∧
    ∀ x y, Stats.ofEntries (x ++ y) = (Stats.ofEntries x).add (Stats.ofEntries y) := by
  intro flagged
  refine ⟨(flag.decidedBy_text _).filter flag.text_compiles h,
    (flag.decidedBy_comparison _).filter flag.comparison_compiles h, fun blank blanks => ?_,
    Stats.ofEntries_append⟩
  refine ⟨(Index.ofDataset dataset).entries, ?_, Stats.count_filter flag _,
    dataset.count_entries flag⟩
  have everything := resultOn_everything dataset (ofText_of_blank blanks) fun _ => rfl
  rw [h.filter_result, Engine.indexOf, Option.elim_some, everything, entries_ofDataset]

def threeHidden : Dataset where
  classes := [⟨"Part", [], [⟨"Anchored", .property, none, .off, none⟩,
    ⟨"Destroy", .function, none, { Flags.off with hidden := true }, none⟩]⟩]
  enums := [⟨"Shape", [⟨"Ball", .integer 0, .off, none⟩]⟩,
    ⟨"Color", [⟨"Red", .null, { Flags.off with hidden := true }, none⟩,
      ⟨"Blue", .null, { Flags.off with hidden := true }, none⟩]⟩]
  metadata := .unknown

theorem filter_by_flag_hidden :
    Engine.Holds ((Engine.new 8).load threeHidden) (some threeHidden) ∧
      ∃ member color, (((Engine.new 8).load threeHidden).filter "hidden").1 =
          .ok [.member member, .enumType color] ∧
        (((Engine.new 8).load threeHidden).filter "hidden == true").1 =
          .ok [.member member, .enumType color] ∧
        member.name = "Destroy" ∧ color.name = "Color" ∧
        (Stats.ofEntries [.member member, .enumType color]).hidden = 3 := by
  have holds : Engine.Holds ((Engine.new 8).load threeHidden) (some threeHidden) :=
    .load (.new 8) threeHidden
  obtain ⟨bare, spelled, -⟩ := filter_by_flag holds .hidden
  exact ⟨holds, _, _, bare, spelled, rfl, rfl, rfl⟩

end RefViewer
