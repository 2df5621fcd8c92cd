import RefViewer.Failure
import RefViewer.Index
import RefViewer.Query.Compiled

/-!
# Filter engine

The engine holds an index and keeps the entries that a query selects, in index order. An entry
is selected when the query holds on one of its views; the first evaluation that fails ends the
whole filter. Compiled queries are kept by their trimmed text, up to a capacity.
-/

namespace RefViewer

namespace Query.Compiled

/-- Whether the query holds on one of the views. Later views are not tried. -/
def holdsOnAny (query : Compiled) : List Record → Except Error Bool
  | [] => .ok false
  | view :: rest => do if ← query.holds view then return true else query.holdsOnAny rest

def select (query : Compiled) : List Entry → Except Error (List Entry)
  | [] => .ok []
  | entry :: rest => do
    let selected ← query.holdsOnAny entry.views
    let others ← query.select rest
    return if selected then entry :: others else others

end Query.Compiled

structure QueryCache where
  capacity : Nat
  compiled : List (String × Query.Compiled)
  deriving DecidableEq

namespace QueryCache

def empty (capacity : Nat) : QueryCache := ⟨capacity, []⟩

/-- A full cache is emptied before the next query goes in. -/
def insert (cache : QueryCache) (key : String) (query : Query.Compiled) : QueryCache :=
  if cache.capacity = 0 then cache
  else if cache.capacity ≤ cache.compiled.length then { cache with compiled := [(key, query)] }
  else { cache with compiled := (key, query) :: cache.compiled }

/-- A query that does not compile is not kept. -/
def compile (cache : QueryCache) (text : String) :
    Except Query.Error Query.Compiled × QueryCache :=
  let key := Unicode.trim text
  match cache.compiled.lookup key with
  | some query => (.ok query, cache)
  | none =>
    match Query.Compiled.ofTrimmed key with
    | .ok query => (.ok query, cache.insert key query)
    | .error error => (.error error, cache)

end QueryCache

structure Engine where
  index : Index
  cache : QueryCache
  /-- Set while a filter runs. -/
  filtering : Bool
  deriving DecidableEq

namespace Engine

def defaultCapacity : Nat := 64

def new (capacity : Nat) : Engine := ⟨.empty, .empty capacity, false⟩

/-- Compiled queries outlive the dataset. -/
def load (engine : Engine) (dataset : Dataset) : Engine :=
  { engine with index := .ofDataset dataset }

def begin? (engine : Engine) : Option Engine :=
  if engine.filtering then none else some { engine with filtering := true }

def finish (engine : Engine) : Engine := { engine with filtering := false }

def run (engine : Engine) (text : String) : Except Query.Error (List Entry) × Engine :=
  let (compiled, cache) := engine.cache.compile text
  let result := do (← compiled).select engine.index.entries
  (result, { engine with cache })

def filter (engine : Engine) (text : String) : Except Failure (List Entry) × Engine :=
  match engine.begin? with
  | none => (.error .busy, engine)
  | some begun =>
    let (result, ran) := begun.run text
    (result.mapError Failure.ofQuery, ran.finish)

end Engine

end RefViewer
