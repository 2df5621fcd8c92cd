import Mathlib.Data.List.Induction
import RefViewer.Proofs.Engine.Reuse
import RefViewer.Proofs.Query.Trimming

/-!
# The cache of an engine

Loads, filters and requests come to one engine in any order. `call_eq_fresh`: each is answered
as by an engine that keeps no queries and was only given the dataset loaded last. Meanwhile
the cache holds no more than its capacity, and nothing but compilations of trimmed texts.
-/

namespace RefViewer

-- ---------------------------------------------------------------------------
-- One lookup
-- ---------------------------------------------------------------------------

namespace QueryCache

/-- What a cache may hold after filters with the texts in `asked`. -/
structure Kept (capacity : Nat) (asked : List String) (cache : QueryCache) : Prop where
  limit : cache.capacity = capacity
  bounded : cache.compiled.length ≤ capacity
  keys : (cache.compiled.map Prod.fst).Nodup
  known : ∀ key ∈ cache.compiled.map Prod.fst, ∃ text ∈ asked, Unicode.trim text = key

section

variable {capacity : Nat} {asked : List String} {cache : QueryCache}

theorem Kept.empty (capacity : Nat) : (QueryCache.empty capacity).Kept capacity [] :=
  ⟨rfl, Nat.zero_le capacity, List.nodup_nil, nofun⟩

theorem Kept.weaken (h : cache.Kept capacity asked) (text : String) :
    cache.Kept capacity (asked ++ [text]) := by
  refine ⟨h.limit, h.bounded, h.keys, fun key hk => ?_⟩
  obtain ⟨earlier, he, rfl⟩ := h.known key hk
  exact ⟨earlier, List.mem_append_left _ he, rfl⟩

theorem not_mem_keys (hl : cache.compiled.lookup key = none) :
    key ∉ cache.compiled.map Prod.fst := by
  intro hm
  obtain ⟨entry, hm, hkey⟩ := List.mem_map.mp hm
  exact bne_iff_ne.mp (List.lookup_eq_none_iff.mp hl entry hm) hkey.symm

theorem Kept.insert (h : cache.Kept capacity asked)
    (hl : cache.compiled.lookup (Unicode.trim text) = none) (query : Query.Compiled) :
    (cache.insert (Unicode.trim text) query).Kept capacity (asked ++ [text]) := by
  have hnew : ∃ other ∈ asked ++ [text], Unicode.trim other = Unicode.trim text :=
    ⟨text, List.mem_append_right _ (List.mem_singleton_self text), rfl⟩
  have hlimit := h.limit
  unfold QueryCache.insert
  split
  · exact h.weaken text
  · split
    · refine ⟨hlimit, ?_, List.pairwise_singleton _ _, ?_⟩
      · rw [List.length_singleton]
        omega
      · intro key hk
        obtain rfl := List.mem_singleton.mp hk
        exact hnew
    · refine ⟨hlimit, ?_, ?_, ?_⟩
      · rw [List.length_cons]
        omega
      · exact List.nodup_cons.mpr ⟨not_mem_keys hl, h.keys⟩
      · intro key hk
        rcases List.mem_cons.mp hk with rfl | hk
        · exact hnew
        · exact (h.weaken text).known key hk

theorem Kept.compile (h : cache.Kept capacity asked) (text : String) :
    (cache.compile text).2.Kept capacity (asked ++ [text]) := by
  unfold QueryCache.compile
  simp only
  split
  · exact h.weaken text
  · rename_i hl
    split
    · exact h.insert hl _
    · exact h.weaken text

theorem Sound.compile_error (hs : cache.Sound)
    (he : Query.Compiled.ofText text = .error error) :
    Unicode.trim text ∉ cache.compiled.map Prod.fst ∧ (cache.compile text).2 = cache := by
  have hk : Unicode.trim text ∉ cache.compiled.map Prod.fst := by
    intro hm
    obtain ⟨⟨key, query⟩, hm, hkey⟩ := List.mem_map.mp hm
    have hq := hs key query hm
    simp only at hkey
    rw [hkey] at hq
    cases he.symm.trans hq
  have hl : cache.compiled.lookup (Unicode.trim text) = none := by
    refine List.lookup_eq_none_iff.mpr fun entry hm => ?_
    refine bne_iff_ne.mpr fun hkey => hk ?_
    exact List.mem_map.mpr ⟨entry, hm, hkey.symm⟩
  have ht : Query.Compiled.ofTrimmed (Unicode.trim text) = .error error := he
  refine ⟨hk, ?_⟩
  simp only [QueryCache.compile, hl, ht]

end

end QueryCache

-- ---------------------------------------------------------------------------
-- Rows of calls
-- ---------------------------------------------------------------------------

inductive Call where
  | load (dataset : Dataset)
  | filter (text : String)
  | handle (request : Request)

inductive Answer where
  | loaded
  | filtered (result : Except Failure (List Entry))
  | responded (response : Response)

namespace Call

def dataset? : Call → Option Dataset
  | .load dataset | .handle (.init dataset) => some dataset
  | _ => none

def text? : Call → Option String
  | .filter text | .handle (.filter text) => some text
  | _ => none

end Call

def lastLoaded (calls : List Call) : Option Dataset := (calls.filterMap Call.dataset?).getLast?

def askedTexts (calls : List Call) : List String := calls.filterMap Call.text?

namespace Engine

def call (engine : Engine) : Call → Answer × Engine
  | .load dataset => (.loaded, engine.load dataset)
  | .filter text => (.filtered (engine.filter text).1, (engine.filter text).2)
  | .handle request => (.responded (engine.handle request).1, (engine.handle request).2)

def after (capacity : Nat) (calls : List Call) : Engine :=
  calls.foldl (fun engine call => (engine.call call).2) (.new capacity)

/-- An engine that keeps no queries and has only been given the dataset. -/
def fresh (held : Option Dataset) : Engine := held.elim (.new 0) (Engine.new 0).load

theorem after_concat (capacity : Nat) (calls : List Call) (call : Call) :
    after capacity (calls ++ [call]) = ((after capacity calls).call call).2 := by
  rw [after, List.foldl_concat]
  rfl

theorem fresh_holds (held : Option Dataset) : (fresh held).Holds held := by
  cases held with
  | none => exact .new 0
  | some dataset => exact .load (.new 0) dataset

theorem Holds.call (h : Holds engine held) (call : Call) :
    (engine.call call).2.Holds (call.dataset?.or held) := by
  cases call with
  | load dataset => exact h.load dataset
  | filter text => exact h.filter text
  | handle request =>
    cases request with
    | init dataset => exact h.load dataset
    | filter text =>
      rw [Engine.call, Engine.handle_filter]
      exact h.filter text

theorem holds_after (capacity : Nat) (calls : List Call) :
    (after capacity calls).Holds (lastLoaded calls) := by
  induction calls using List.reverseRecOn with
  | nil => exact .new capacity
  | append_singleton calls call ih =>
    have hlast : lastLoaded (calls ++ [call]) = call.dataset?.or (lastLoaded calls) := by
      rw [lastLoaded, List.filterMap_append, List.getLast?_append]
      cases hd : call.dataset? <;> simp [lastLoaded, hd]
    rw [after_concat, hlast]
    exact ih.call call

/-- Engines that hold the same dataset are not told apart by a call. -/
theorem Holds.call_answer (h : Holds engine held) (ho : Holds other held) (call : Call) :
    (engine.call call).1 = (other.call call).1 := by
  have hfilter (text : String) : (engine.filter text).1 = (other.filter text).1 :=
    (h.filter_result text).trans (ho.filter_result text).symm
  cases call with
  | load dataset => rfl
  | filter text => rw [Engine.call, Engine.call, hfilter]
  | handle request =>
    cases request with
    | init dataset => rfl
    | filter text => rw [Engine.call, Engine.call, Engine.handle_filter, Engine.handle_filter, hfilter]

theorem Settled.filter_cache {engine : Engine} (hs : engine.Settled held) (text : String) :
    (engine.filter text).2.cache = (engine.cache.compile text).2 := by
  simp only [Engine.filter, begin?, hs.free, Bool.false_eq_true, ↓reduceIte, run, finish]

theorem Settled.kept_call {engine : Engine} (hs : engine.Settled held)
    (hk : engine.cache.Kept capacity asked) (call : Call) :
    (engine.call call).2.cache.Kept capacity (asked ++ call.text?.toList) := by
  have hfilter (text : String) :
      (engine.filter text).2.cache.Kept capacity (asked ++ [text]) := by
    rw [hs.filter_cache]
    exact hk.compile text
  cases call with
  | load dataset => simpa [Engine.call, Engine.load, Call.text?] using hk
  | filter text => exact hfilter text
  | handle request =>
    cases request with
    | init dataset => simpa [Engine.call, Engine.handle, Engine.load, Call.text?] using hk
    | filter text =>
      rw [Engine.call, Engine.handle_filter]
      exact hfilter text

theorem kept_after (capacity : Nat) (calls : List Call) :
    (after capacity calls).cache.Kept capacity (askedTexts calls) := by
  induction calls using List.reverseRecOn with
  | nil => exact .empty capacity
  | append_singleton calls call ih =>
    have hasked : askedTexts (calls ++ [call]) = askedTexts calls ++ call.text?.toList := by
      rw [askedTexts, List.filterMap_append]
      cases ht : call.text? <;> simp [askedTexts, ht]
    rw [after_concat, hasked]
    exact (holds_after capacity calls).settled.kept_call ih call

end Engine

/-- After any calls, the next one is answered as by an engine without a cache that was only
given the dataset loaded last. The cache is within its capacity and has no key twice. Each key
is the trimmed text of some filter, and stands for its own compilation. A text that does not
compile has no entry, and a filter with it leaves the cache as it is. -/
theorem call_eq_fresh (capacity : Nat) (calls : List Call) :
    (∀ call, ((Engine.after capacity calls).call call).1 =
      ((Engine.fresh (lastLoaded calls)).call call).1) ∧
    (Engine.after capacity calls).cache.compiled.length ≤ capacity ∧
    ((Engine.after capacity calls).cache.compiled.map Prod.fst).Nodup ∧
    (∀ key query, (key, query) ∈ (Engine.after capacity calls).cache.compiled →
      Unicode.trim key = key ∧ Query.Compiled.ofText key = .ok query ∧
        ∃ text ∈ askedTexts calls, Unicode.trim text = key) ∧
    (∀ text error, Query.Compiled.ofText text = .error error →
      Unicode.trim text ∉ (Engine.after capacity calls).cache.compiled.map Prod.fst ∧
      ((Engine.after capacity calls).filter text).2.cache =
        (Engine.after capacity calls).cache) := by
  have hholds := Engine.holds_after capacity calls
  have hsettled := hholds.settled
  have hkept := Engine.kept_after capacity calls
  refine ⟨hholds.call_answer (Engine.fresh_holds _), hkept.bounded, hkept.keys, ?_, ?_⟩
  · intro key query hm
    obtain ⟨text, ht, hkey⟩ := hkept.known key (List.mem_map.mpr ⟨_, hm, rfl⟩)
    have htrim : Unicode.trim key = key := by rw [← hkey, Unicode.trim_trim]
    refine ⟨htrim, ?_, text, ht, hkey⟩
    rw [Query.Compiled.ofText, htrim]
    exact hsettled.cache key query hm
  · intro text error he
    rw [hsettled.filter_cache]
    exact hsettled.cache.compile_error he

/-- A variant with blanks is found again, a text that does not compile leaves no trace, and the
third query empties a cache for two. -/
example :
    let calls := [.load partAndColor, .filter "hidden", .filter " hidden\t", .filter "name ==",
      .handle (.filter "deprecated"), .load .empty, .filter "!hidden"]
    [3, 4, 5, 7].map (fun n => (Engine.after 2 (calls.take n)).cache.compiled.map Prod.fst) =
      [["hidden"], ["hidden"], ["deprecated", "hidden"], ["!hidden"]] := by
  decide +kernel

end RefViewer
