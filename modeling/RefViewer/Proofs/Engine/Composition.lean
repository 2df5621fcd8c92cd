import Mathlib.Data.List.FinRange
import RefViewer.Proofs.Engine.Selection
import RefViewer.Proofs.Query.Composition

/-!
# Results of composed queries

`filter_composes`: queries joined by `or` and `and` or negated compile to the expressions composed
of theirs, and what they select follows from what the parts select. Results are compared by the
positions of their entries in the index, since equal entries may stand at several places.
-/

namespace RefViewer

open Query (Compiles Expr Record)

-- ---------------------------------------------------------------------------
-- Positions
-- ---------------------------------------------------------------------------

namespace Query.Compiled

theorem holdsOnAny_ok {query : Compiled} (ran : query.holdsOnAny records = .ok selected) :
    selected = records.any query.truthyOn := by
  rcases query.holdsOnAny_outcome records with ok | ⟨error, _, _, _, failed, _⟩
  · cases ran.symm.trans ok
    rfl
  · cases ran.symm.trans failed

section

variable {ι : Type}

def selectBy (query : Compiled) (views : ι → List Record) : List ι → Except Error (List ι)
  | [] => .ok []
  | place :: rest => do
    let selected ← query.holdsOnAny (views place)
    let others ← query.selectBy views rest
    return if selected then place :: others else others

theorem select_map (query : Compiled) (entry : ι → Entry) (places : List ι) :
    query.select (places.map entry) =
      (query.selectBy (fun place => (entry place).views) places).map (·.map entry) := by
  induction places with
  | nil => rfl
  | cons place places ih =>
    rw [List.map_cons, select, selectBy, ih]
    cases query.holdsOnAny (entry place).views with
    | error fault => rfl
    | ok selected =>
      cases query.selectBy (fun place => (entry place).views) places with
      | error fault => rfl
      | ok others => cases selected <;> rfl

theorem selectBy_ok {query : Compiled} {views : ι → List Record} {places found : List ι} :
    query.selectBy views places = .ok found ↔
      (∀ place ∈ places, ∃ selected, query.holdsOnAny (views place) = .ok selected) ∧
        found = places.filter fun place => (views place).any query.truthyOn := by
  induction places generalizing found with
  | nil => simp [selectBy, eq_comm]
  | cons place places ih =>
    rw [selectBy, List.forall_mem_cons, List.filter_cons]
    constructor
    · intro ran
      obtain ⟨selected, first, ran⟩ := bind_ok ran
      obtain ⟨others, later, ran⟩ := bind_ok ran
      obtain ⟨succeeds, rfl⟩ := ih.mp later
      have any := holdsOnAny_ok first
      refine ⟨⟨⟨selected, first⟩, succeeds⟩, ?_⟩
      rw [← any]
      cases selected <;> cases ran <;> rfl
    · rintro ⟨⟨⟨selected, first⟩, succeeds⟩, rfl⟩
      have later := ih.mpr ⟨succeeds, rfl⟩
      rw [first, later, ← holdsOnAny_ok first]
      cases selected <;> rfl

end

def positions (query : Compiled) (entries : List Entry) :
    Except Error (List (Fin entries.length)) :=
  query.selectBy (fun i => (entries.get i).views) (List.finRange entries.length)

theorem select_positions (query : Compiled) (entries : List Entry) :
    query.select entries = (query.positions entries).map (·.map entries.get) := by
  rw [positions, ← select_map, List.map_get_finRange]

section

variable {query : Compiled} {entries : List Entry} {found : List (Fin entries.length)}

theorem positions_ok :
    query.positions entries = .ok found ↔
      (∀ i, ∃ selected, query.holdsOnAny (entries.get i).views = .ok selected) ∧
        found = (List.finRange entries.length).filter fun i =>
          (entries.get i).views.any query.truthyOn := by
  simp only [positions, selectBy_ok, List.mem_finRange, forall_const]

theorem mem_positions (ok : query.positions entries = .ok found) {i : Fin entries.length} :
    i ∈ found ↔ (entries.get i).views.any query.truthyOn = true := by
  rw [(positions_ok.mp ok).2, List.mem_filter]
  exact and_iff_right (List.mem_finRange i)

end

-- ---------------------------------------------------------------------------
-- One record
-- ---------------------------------------------------------------------------

theorem truthyOn_eq_true {query : Compiled} :
    query.truthyOn record = true ↔ query.holds record = .ok true := by
  rw [truthyOn]
  cases query.holds record <;> simp

section

variable {text p q : String} {a b : Expr} {record : Record} {views : List Record}

theorem holds_ok : holds ⟨text, some a⟩ record = .ok truth ↔
    ∃ value, a.eval record = .ok value ∧ value.truthy = truth := by
  simp only [holds]
  cases a.eval record with
  | error fault => simp [Except.map]
  | ok value => simp [Except.map]

theorem holds_or_of_true (left : holds ⟨p, some a⟩ record = .ok true) :
    holds ⟨text, some (.or a b)⟩ record = .ok true := by
  obtain ⟨value, evaluated, truthy⟩ := holds_ok.mp left
  refine holds_ok.mpr ⟨.bool true, ?_, rfl⟩
  rw [Expr.eval, evaluated]
  exact if_pos truthy

theorem holds_or_of_false (left : holds ⟨p, some a⟩ record = .ok false) :
    holds ⟨text, some (.or a b)⟩ record = holds ⟨q, some b⟩ record := by
  obtain ⟨value, evaluated, falsy⟩ := holds_ok.mp left
  have noTruth : ¬ value.truthy = true := by rw [falsy]; decide
  simp only [holds, Expr.eval, evaluated]
  change Except.map Value.truthy (if value.truthy = true then _ else _) = _
  rw [if_neg noTruth]
  cases b.eval record <;> rfl

theorem holds_and : holds ⟨text, some (.and a b)⟩ record = .ok true ↔
    holds ⟨p, some a⟩ record = .ok true ∧ holds ⟨q, some b⟩ record = .ok true := by
  simp only [holds_ok]
  constructor
  · rintro ⟨value, evaluated, truthy⟩
    rw [Expr.eval] at evaluated
    obtain ⟨left, first, evaluated⟩ := bind_ok evaluated
    split at evaluated
    · next truthyLeft =>
      obtain ⟨right, second, evaluated⟩ := bind_ok evaluated
      cases evaluated
      exact ⟨⟨left, first, truthyLeft⟩, ⟨right, second, truthy⟩⟩
    · cases evaluated
      cases truthy
  · rintro ⟨⟨left, first, truthyLeft⟩, ⟨right, second, truthyRight⟩⟩
    refine ⟨.bool right.truthy, ?_, truthyRight⟩
    rw [Expr.eval, first]
    change (if left.truthy = true then _ else _) = _
    rw [if_pos truthyLeft, second]
    rfl

theorem holds_not : holds ⟨text, some (.not a)⟩ record =
    (holds ⟨p, some a⟩ record).map (!·) := by
  simp only [holds, Expr.eval]
  cases a.eval record <;> rfl

-- ---------------------------------------------------------------------------
-- The views of an entry
-- ---------------------------------------------------------------------------

/-- A run for `or` stops at the first view on which one of the two holds, so it meets no view
that neither run has met. -/
theorem holdsOnAny_or (text : String) (left : holdsOnAny ⟨p, some a⟩ views = .ok x)
    (right : holdsOnAny ⟨q, some b⟩ views = .ok y) :
    holdsOnAny ⟨text, some (.or a b)⟩ views = .ok (x || y) := by
  induction views with
  | nil =>
    cases left
    cases right
    rfl
  | cons view views ih =>
    rw [holdsOnAny_cons] at left right ⊢
    cases first : holds ⟨p, some a⟩ view with
    | error fault => rw [first] at left; cases left
    | ok truth =>
      rw [first] at left
      cases truth with
      | true =>
        rw [holds_or_of_true first]
        cases left
        rfl
      | false =>
        rw [holds_or_of_false (q := q) first]
        cases second : holds ⟨q, some b⟩ view with
        | error fault => rw [second] at right; cases right
        | ok truth =>
          rw [second] at right
          cases truth with
          | true =>
            cases right
            rw [Bool.or_true]
          | false => exact ih left right

theorem any_and (both : views.any (truthyOn ⟨text, some (.and a b)⟩) = true) :
    views.any (truthyOn ⟨p, some a⟩) = true ∧ views.any (truthyOn ⟨q, some b⟩) = true := by
  obtain ⟨view, hv, holds⟩ := List.any_eq_true.mp both
  obtain ⟨left, right⟩ := holds_and.mp (truthyOn_eq_true.mp holds)
  exact ⟨List.any_eq_true.mpr ⟨view, hv, truthyOn_eq_true.mpr left⟩,
    List.any_eq_true.mpr ⟨view, hv, truthyOn_eq_true.mpr right⟩⟩

-- ---------------------------------------------------------------------------
-- All entries
-- ---------------------------------------------------------------------------

variable {entries : List Entry} {left right found : List (Fin entries.length)}

theorem positions_or (ranP : positions ⟨p, some a⟩ entries = .ok left)
    (ranQ : positions ⟨q, some b⟩ entries = .ok right) :
    positions ⟨text, some (.or a b)⟩ entries =
      .ok ((List.finRange entries.length).filter fun i => i ∈ left ∨ i ∈ right) := by
  refine positions_ok.mpr ⟨fun i => ?_, List.filter_congr fun i _ => ?_⟩
  all_goals
    obtain ⟨x, first⟩ := (positions_ok.mp ranP).1 i
    obtain ⟨y, second⟩ := (positions_ok.mp ranQ).1 i
    have composed := holdsOnAny_or text first second
  · exact ⟨x || y, composed⟩
  · rw [← holdsOnAny_ok composed, holdsOnAny_ok first, holdsOnAny_ok second]
    simp only [mem_positions ranP, mem_positions ranQ, Bool.decide_or, Bool.decide_eq_true]

theorem positions_and (ranP : positions ⟨p, some a⟩ entries = .ok left)
    (ranQ : positions ⟨q, some b⟩ entries = .ok right)
    (ran : positions ⟨text, some (.and a b)⟩ entries = .ok found) :
    (∀ i ∈ found, i ∈ left ∧ i ∈ right) ∧
      ∀ i member, entries.get i = .member member → (i ∈ found ↔ i ∈ left ∧ i ∈ right) := by
  simp only [mem_positions ranP, mem_positions ranQ, mem_positions ran]
  refine ⟨fun i => any_and, fun i member single => ?_⟩
  rw [single]
  simp only [Entry.views, List.any_cons, List.any_nil, Bool.or_false, truthyOn_eq_true]
  exact holds_and

theorem positions_not (ranP : positions ⟨p, some a⟩ entries = .ok left)
    (ran : positions ⟨text, some (.not a)⟩ entries = .ok found) :
    ∀ i member, entries.get i = .member member → (i ∈ found ↔ i ∉ left) := by
  intro i member single
  obtain ⟨selected, first⟩ := (positions_ok.mp ranP).1 i
  rw [mem_positions ranP, mem_positions ran]
  rw [single, Entry.views] at first ⊢
  rw [holdsOnAny_cons] at first
  simp only [List.any_cons, List.any_nil, Bool.or_false, truthyOn_eq_true]
  rw [holds_not (p := p)]
  cases held : holds ⟨p, some a⟩ member.record with
  | error fault => rw [held] at first; cases first
  | ok truth => cases truth <;> simp [Except.map]

end

end Query.Compiled

-- ---------------------------------------------------------------------------
-- The engine
-- ---------------------------------------------------------------------------

namespace Engine

def positions (engine : Engine) (text : String) :
    Except Failure (List (Fin engine.index.entries.length)) :=
  match engine.begin? with
  | none => .error .busy
  | some begun =>
    (do (← (begun.cache.compile text).1).positions engine.index.entries).mapError Failure.ofQuery

theorem filter_positions (engine : Engine) (text : String) :
    (engine.filter text).1 =
      (engine.positions text).map (·.map engine.index.entries.get) := by
  unfold Engine.filter positions begin?
  by_cases busy : engine.filtering = true
  · rw [if_pos busy]
    rfl
  · rw [if_neg busy]
    simp only [run]
    cases (engine.cache.compile text).1 with
    | error fault => rfl
    | ok query =>
      change (query.select engine.index.entries).mapError Failure.ofQuery =
        ((query.positions engine.index.entries).mapError Failure.ofQuery).map _
      rw [query.select_positions]
      cases query.positions engine.index.entries <;> rfl

theorem Settled.positions_eq {engine : Engine} (hs : engine.Settled held)
    (compiled : Query.Compiled.ofText text = .ok query) :
    engine.positions text =
      (query.positions engine.index.entries).mapError Failure.ofQuery := by
  have cached := (hs.cache.compile text).1.trans compiled
  unfold positions begin?
  rw [hs.free, if_neg Bool.false_ne_true]
  simp only [cached]
  rfl

theorem Settled.positions_ok {engine : Engine} (hs : engine.Settled held)
    (compiles : Compiles text e) {found : List (Fin engine.index.entries.length)} :
    engine.positions text = .ok found ↔
      Query.Compiled.positions ⟨text, some e⟩ engine.index.entries = .ok found := by
  rw [hs.positions_eq compiles.compiled]
  cases Query.Compiled.positions ⟨text, some e⟩ engine.index.entries with
  | error fault => simp [Except.mapError]
  | ok same => simp [Except.mapError]

end Engine

open Query (either both negated)

/-- On an engine that was given a dataset last: where the composed text keeps the size limits, it
compiles to the composed expression. If both parts succeed, so does `or`, with the union in index
order. If all succeed, `and` selects nothing outside the intersection and every member in it, and
`not` selects the members that its part leaves out. -/
theorem filter_composes (h : Engine.Holds engine (some dataset)) (compP : Compiles p a)
    (compQ : Compiles q b) :
    engine.index = .ofDataset dataset ∧
    (∀ text, (engine.filter text).1 =
      (engine.positions text).map (·.map engine.index.entries.get)) ∧
    (Query.Size.check (either p q) = .ok () → Compiles (either p q) (.or a b) ∧
      ∀ left right, engine.positions p = .ok left → engine.positions q = .ok right →
        engine.positions (either p q) = .ok
          ((List.finRange engine.index.entries.length).filter fun i => i ∈ left ∨ i ∈ right)) ∧
    (Query.Size.check (both p q) = .ok () → Compiles (both p q) (.and a b) ∧
      ∀ left right found, engine.positions p = .ok left → engine.positions q = .ok right →
        engine.positions (both p q) = .ok found →
        (∀ i ∈ found, i ∈ left ∧ i ∈ right) ∧
          ∀ i member, engine.index.entries.get i = .member member →
            (i ∈ found ↔ i ∈ left ∧ i ∈ right)) ∧
    (Query.Size.check (negated p) = .ok () → Compiles (negated p) (.not a) ∧
      ∀ left found, engine.positions p = .ok left → engine.positions (negated p) = .ok found →
        ∀ i member, engine.index.entries.get i = .member member → (i ∈ found ↔ i ∉ left)) := by
  have hs := h.settled
  refine ⟨hs.index, engine.filter_positions, fun fits => ?_, fun fits => ?_, fun fits => ?_⟩
  · have composed := compP.either compQ fits
    simp only [hs.positions_ok compP, hs.positions_ok compQ, hs.positions_ok composed]
    exact ⟨composed, fun left right => Query.Compiled.positions_or⟩
  · have composed := compP.both compQ fits
    simp only [hs.positions_ok compP, hs.positions_ok compQ, hs.positions_ok composed]
    exact ⟨composed, fun left right found => Query.Compiled.positions_and⟩
  · have composed := compP.negated fits
    simp only [hs.positions_ok compP, hs.positions_ok composed]
    exact ⟨composed, fun left found => Query.Compiled.positions_not⟩

def loaded : Engine := (Engine.new 8).load partAndColor

def color : Fin loaded.index.entries.length := ⟨1, by decide⟩

/-- One item of the enum is hidden and another one is named: each query selects the enum, and so
does `or`, but `and` does not. -/
theorem filter_composes_on_items :
    loaded.positions "hidden" = .ok [color] ∧ loaded.positions "name == 'Red'" = .ok [color] ∧
      Compiles (either "hidden" "name == 'Red'")
        (.or (.field .hidden) (.compare .eq (.field .name) (.literal (.string "Red")))) ∧
      loaded.positions (either "hidden" "name == 'Red'") = .ok [color] ∧
      loaded.positions (both "hidden" "name == 'Red'") = .ok [] := by
  have holds : Engine.Holds loaded (some partAndColor) := .load (.new 8) partAndColor
  have compP : Compiles "hidden" (.field .hidden) :=
    ⟨by decide +kernel, by decide, by decide +kernel⟩
  have compQ : Compiles "name == 'Red'"
      (.compare .eq (.field .name) (.literal (.string "Red"))) :=
    ⟨by decide +kernel, by decide, by decide +kernel⟩
  have hidden : loaded.positions "hidden" = .ok [color] := by decide +kernel
  have red : loaded.positions "name == 'Red'" = .ok [color] := by decide +kernel
  have fits : Query.Size.check (either "hidden" "name == 'Red'") = .ok () := by decide +kernel
  obtain ⟨compiles, union⟩ := (filter_composes holds compP compQ).2.2.1 fits
  refine ⟨hidden, red, compiles, ?_, by decide +kernel⟩
  rw [union [color] [color] hidden red]
  decide +kernel

end RefViewer
