import RefViewer.Failure
import RefViewer.Index

/-!
# Incremental rendering

The renderer holds a whole result and hands it to a target one batch at a time. A batch is
claimed first and completed later; only one is open at a time, and a batch that was claimed
from an earlier result changes nothing. Results are told apart by counting them without a bound;
that a counter of 64 bits comes round after `2 ^ 64` results is not modelled.
-/

namespace RefViewer

class Target (T : Type) where
  /-- Whether everything that the target writes to is there. -/
  ready : T → Except Failure Unit
  clear : T → T
  append : List Entry → T → T
  showNoResults : T → T
  /-- Tells how much is shown; the indicator goes away once all is. -/
  showProgress : (rendered total : Nat) → T → T

structure ScrollPosition where
  viewportHeight : Number
  scrollY : Number
  documentHeight : Number
  deriving DecidableEq, Repr

/-- The share of the document above the lower edge of the viewport; all of a document
without height. -/
def ScrollPosition.fraction (position : ScrollPosition) : Number :=
  let order := position.documentHeight.order .zero
  if order = some .lt || order = some .eq then .ofNat 1
  else (position.viewportHeight.add position.scrollY).div position.documentHeight

structure Batch where
  generation : Nat
  first : Nat
  last : Nat
  deriving DecidableEq, Repr

def Batch.size (batch : Batch) : Nat := batch.last - batch.first

structure Renderer where
  results : List Entry
  /-- Counts the results held so far. -/
  generation : Nat
  rendered : Nat
  batchSize : Nat
  scrollThreshold : Number
  loadingMore : Bool
  deriving DecidableEq, Repr

namespace Renderer

def defaultBatchSize : Nat := 50

def defaultScrollThreshold : Number := .ofRatio false 4 5

def new (batchSize : Nat) (scrollThreshold : Number) : Renderer :=
  ⟨[], 0, 0, max batchSize 1, scrollThreshold, false⟩

def total (renderer : Renderer) : Nat := renderer.results.length

def hasMore (renderer : Renderer) : Bool := renderer.rendered < renderer.total

def setResults (renderer : Renderer) (results : List Entry) : Renderer :=
  { renderer with
    results, generation := renderer.generation + 1, rendered := 0, loadingMore := false }

/-- Claims the next batch, unless one is open or everything is rendered. -/
def beginBatch? (renderer : Renderer) : Option (Batch × Renderer) :=
  if renderer.loadingMore || !renderer.hasMore then none
  else
    let last := min (renderer.rendered + renderer.batchSize) renderer.total
    some (⟨renderer.generation, renderer.rendered, last⟩, { renderer with loadingMore := true })

def completeBatch (renderer : Renderer) (batch : Batch) : Bool × Renderer :=
  if batch.generation = renderer.generation then
    (true, { renderer with rendered := min batch.last renderer.total, loadingMore := false })
  else (false, renderer)

def entriesOf (renderer : Renderer) (batch : Batch) : List Entry :=
  (renderer.results.drop batch.first).take batch.size

section

variable {T : Type} [Target T]

def renderNext (renderer : Renderer) (target : T) : Nat × Renderer × T :=
  match renderer.beginBatch? with
  | none => (0, renderer, target)
  | some (batch, begun) =>
    let target := Target.append (begun.entriesOf batch) target
    let (_, done) := begun.completeBatch batch
    (batch.size, done, Target.showProgress done.rendered done.total target)

def present (renderer : Renderer) (results : List Entry) (target : T) : Nat × Renderer × T :=
  let renderer := renderer.setResults results
  let target := Target.clear target
  if results = [] then (0, renderer, Target.showNoResults target)
  else renderer.renderNext target

/-- The mark at the end of the shown content came into view or left it. -/
def onVisibility (renderer : Renderer) (visible : Bool) (target : T) : Nat × Renderer × T :=
  if visible && renderer.hasMore then renderer.renderNext target else (0, renderer, target)

def onScroll (renderer : Renderer) (position : ScrollPosition) (target : T) :
    Nat × Renderer × T :=
  if position.fraction.order renderer.scrollThreshold = some .gt then
    renderer.renderNext target
  else (0, renderer, target)

end

end Renderer

end RefViewer
