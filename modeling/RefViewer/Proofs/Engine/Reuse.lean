import RefViewer.Message

/-!
# Engines in use

An engine is loaded again and again and keeps its compiled queries all the while.
`Engine.Holds.filter_result`: what a filter gives depends on the dataset that was loaded last
and on the text, whatever else the engine has been through.
-/

namespace RefViewer

namespace QueryCache

/-- Every query that the cache keeps is the compilation of its key. -/
def Sound (cache : QueryCache) : Prop :=
  ∀ key query, (key, query) ∈ cache.compiled → Query.Compiled.ofTrimmed key = .ok query

theorem empty_sound (capacity : Nat) : (empty capacity).Sound := by
  intro key query hm
  simp [empty] at hm

theorem Sound.insert {cache : QueryCache} (hs : cache.Sound)
    (hq : Query.Compiled.ofTrimmed key = .ok query) : (cache.insert key query).Sound := by
  unfold QueryCache.insert
  split
  · exact hs
  · split
    · intro other kept hm
      obtain ⟨rfl, rfl⟩ : other = key ∧ kept = query := by simpa using hm
      exact hq
    · intro other kept hm
      rcases List.mem_cons.mp hm with he | hm
      · obtain ⟨rfl, rfl⟩ := Prod.mk.inj he
        exact hq
      · exact hs other kept hm

theorem Sound.lookup {cache : QueryCache} (hs : cache.Sound)
    (hl : cache.compiled.lookup key = some query) : Query.Compiled.ofTrimmed key = .ok query := by
  obtain ⟨before, after, he, -⟩ := List.lookup_eq_some_iff.mp hl
  exact hs key query (by simp [he])

theorem Sound.compile {cache : QueryCache} (hs : cache.Sound) (text : String) :
    (cache.compile text).1 = Query.Compiled.ofText text ∧ (cache.compile text).2.Sound := by
  unfold QueryCache.compile Query.Compiled.ofText
  simp only
  split
  · rename_i query hl
    exact ⟨(hs.lookup hl).symm, hs⟩
  · split
    · rename_i query hq
      exact ⟨hq.symm, hs.insert hq⟩
    · rename_i error he
      exact ⟨he.symm, hs⟩

end QueryCache

namespace Engine

/-- Engines that only loads and filters have brought about, each with the dataset that it was
given last. -/
inductive Holds : Engine → Option Dataset → Prop where
  | new (capacity : Nat) : Holds (.new capacity) none
  | load : Holds engine held → (dataset : Dataset) → Holds (engine.load dataset) (some dataset)
  | filter : Holds engine held → (text : String) → Holds (engine.filter text).2 held

def indexOf (held : Option Dataset) : Index := held.elim .empty .ofDataset

structure Settled (engine : Engine) (held : Option Dataset) : Prop where
  index : engine.index = indexOf held
  cache : engine.cache.Sound
  free : engine.filtering = false

/-- The result of a text on an index, compiled anew. -/
def resultOn (index : Index) (text : String) : Except Failure (List Entry) :=
  (do (← Query.Compiled.ofText text).select index.entries).mapError Failure.ofQuery

theorem Settled.filter {engine : Engine} (hs : engine.Settled held) (text : String) :
    (engine.filter text).1 = resultOn (indexOf held) text ∧
      (engine.filter text).2.Settled held := by
  obtain ⟨hc, hk⟩ := hs.cache.compile text
  simp only [Engine.filter, begin?, hs.free, Bool.false_eq_true, ↓reduceIte, run, finish]
  refine ⟨?_, ⟨hs.index, hk, rfl⟩⟩
  rw [hc, hs.index, resultOn]

theorem Holds.settled (h : Holds engine held) : engine.Settled held := by
  induction h with
  | new capacity => exact ⟨rfl, QueryCache.empty_sound capacity, rfl⟩
  | load _ dataset ih => exact ⟨rfl, ih.cache, ih.free⟩
  | filter _ text ih => exact (ih.filter text).2

theorem Holds.filter_result (h : Holds engine held) (text : String) :
    (engine.filter text).1 = resultOn (indexOf held) text := (h.settled.filter text).1

theorem handle_filter (engine : Engine) (query : String) :
    engine.handle (.filter query) =
      (match (engine.filter query).1 with
        | .ok results => .filterComplete results
        | .error failure => .filterError failure.text,
      (engine.filter query).2) := by
  simp only [handle]
  cases engine.filter query with
  | mk result after => cases result <;> rfl

end Engine

-- ---------------------------------------------------------------------------
-- A small dataset
-- ---------------------------------------------------------------------------

def redAndHiddenBlue : EnumType where
  name := "Color"
  items := [⟨"Red", .integer 0, .off, none⟩,
    ⟨"Blue", .integer 1, { Flags.off with hidden := true }, none⟩]

def partAndColor : Dataset where
  classes := [⟨"Part", ["Instance"], [⟨"Anchored", .property, some "bool", .off, none⟩]⟩]
  enums := [⟨redAndHiddenBlue.name, redAndHiddenBlue.items⟩]
  metadata := .unknown

end RefViewer
