import RefViewer.Render

/-!
# Runs of a renderer

A host claims batches and completes them later, in any order and any number of times, for a
batch is a value that can be copied. It pulls triggers, which claim and complete one batch at
once, and gives new results whenever it likes. A ledger keeps what has been claimed from the
present results and what of it has been completed.
-/

namespace RefViewer

inductive Trigger where
  | next
  /-- The mark at the end of the shown content came into view or left it. -/
  | visible (on : Bool)
  | scroll (position : ScrollPosition)
  deriving DecidableEq

inductive RenderAction where
  | replace (results : List Entry)
  | present (results : List Entry)
  | claim
  /-- Completes the batch that was handed out at a place, or a copy of it. -/
  | complete (place : Nat)
  | pull (trigger : Trigger)
  deriving DecidableEq

inductive BatchEvent where
  | claimed (batch : Batch)
  | completed (batch : Batch)
  /-- Claimed and completed in one turn. -/
  | rendered (batch : Batch)
  deriving DecidableEq

structure RenderTurn where
  action : RenderAction
  event : Option BatchEvent
  before : Renderer
  after : Renderer
  deriving DecidableEq

structure RenderWorld (T : Type) where
  renderer : Renderer
  target : T
  /-- The batches that were handed out to the host, the oldest first. -/
  held : List Batch

def RenderAction.replaces : RenderAction → Bool
  | .replace _ | .present _ => true
  | .claim | .complete _ | .pull _ => false

def BatchEvent.handed : BatchEvent → Option Batch
  | .claimed batch => some batch
  | .completed _ | .rendered _ => none

-- ---------------------------------------------------------------------------
-- Turns
-- ---------------------------------------------------------------------------

namespace Renderer

def nextBatch (renderer : Renderer) : Batch :=
  ⟨renderer.generation, renderer.rendered,
    min (renderer.rendered + renderer.batchSize) renderer.total⟩

def nextBatch? (renderer : Renderer) : Option Batch := renderer.beginBatch?.map Prod.fst

def begun (renderer : Renderer) : Renderer := { renderer with loadingMore := true }

def hears (renderer : Renderer) : Trigger → Bool
  | .next => true
  | .visible on => on
  | .scroll position => position.fraction.order renderer.scrollThreshold = some .gt

theorem beginBatch?_cases (renderer : Renderer) :
    ((renderer.loadingMore = true ∨ renderer.total ≤ renderer.rendered) ∧
      renderer.beginBatch? = none) ∨
    (renderer.loadingMore = false ∧ renderer.rendered < renderer.total ∧
      renderer.beginBatch? = some (renderer.nextBatch, renderer.begun)) := by
  cases hl : renderer.loadingMore with
  | true => exact .inl ⟨.inl rfl, by simp [beginBatch?, hl]⟩
  | false =>
    by_cases hm : renderer.rendered < renderer.total
    · exact .inr ⟨rfl, hm, by simp [beginBatch?, hl, hasMore, hm, nextBatch, begun]⟩
    · exact .inl ⟨.inr (Nat.not_lt.mp hm), by simp [beginBatch?, hl, hasMore, hm]⟩

section

variable {T : Type} [Target T]

def pull (renderer : Renderer) (trigger : Trigger) (target : T) : Nat × Renderer × T :=
  match trigger with
  | .next => renderer.renderNext target
  | .visible on => renderer.onVisibility on target
  | .scroll position => renderer.onScroll position target

theorem renderNext_none {renderer : Renderer} (hb : renderer.beginBatch? = none) (target : T) :
    renderer.renderNext target = (0, renderer, target) := by
  simp [renderNext, hb]

theorem renderNext_some {renderer begun : Renderer} {batch : Batch}
    (hb : renderer.beginBatch? = some (batch, begun)) (target : T) :
    renderer.renderNext target = (batch.size, (begun.completeBatch batch).2,
      Target.showProgress (begun.completeBatch batch).2.rendered
        (begun.completeBatch batch).2.total (Target.append (begun.entriesOf batch) target)) := by
  simp [renderNext, hb]

/-- Triggers differ in when they ask for a batch, not in what they do then. -/
theorem pull_eq (renderer : Renderer) (trigger : Trigger) (target : T) :
    renderer.pull trigger target =
      if renderer.hears trigger then renderer.renderNext target else (0, renderer, target) := by
  cases trigger with
  | next => rfl
  | visible on =>
    cases on with
    | false => simp [pull, onVisibility, hears]
    | true =>
      cases hm : renderer.hasMore with
      | true => simp [pull, onVisibility, hears, hm]
      | false =>
        have hnone : renderer.beginBatch? = none := by simp [beginBatch?, hm]
        simp [pull, onVisibility, hears, hm, renderNext_none hnone]
  | scroll position => simp [pull, onScroll, hears]

theorem present_cons {results : List Entry} (renderer : Renderer) (target : T)
    (hr : results ≠ []) :
    renderer.present results target =
      (renderer.setResults results).renderNext (Target.clear target) := by
  simp [present, hr]

end

end Renderer

namespace RenderWorld

variable {T : Type}

def turn (world : RenderWorld T) (action : RenderAction) (event : Option BatchEvent)
    (renderer : Renderer) (target : T) : RenderTurn × RenderWorld T :=
  (⟨action, event, world.renderer, renderer⟩,
    ⟨renderer, target, world.held ++ (event.bind BatchEvent.handed).toList⟩)

/-- Nothing where the host completes a batch that it does not hold. -/
def act [Target T] (world : RenderWorld T) (action : RenderAction) :
    Option (RenderTurn × RenderWorld T) :=
  match action with
  | .replace results =>
    some (world.turn action none (world.renderer.setResults results) world.target)
  | .present results =>
    let event := (world.renderer.setResults results).nextBatch?.map .rendered
    let (_, renderer, target) := world.renderer.present results world.target
    some (world.turn action event renderer target)
  | .claim =>
    some <| match world.renderer.beginBatch? with
      | none => world.turn action none world.renderer world.target
      | some (batch, begun) => world.turn action (some (.claimed batch)) begun world.target
  | .complete place =>
    world.held[place]?.map fun batch =>
      world.turn action (some (.completed batch)) (world.renderer.completeBatch batch).2
        world.target
  | .pull trigger =>
    let event :=
      if world.renderer.hears trigger then world.renderer.nextBatch?.map .rendered else none
    let (_, renderer, target) := world.renderer.pull trigger world.target
    some (world.turn action event renderer target)

def perform [Target T] (trace : List RenderTurn) (world : RenderWorld T) :
    List RenderAction → Option (List RenderTurn × RenderWorld T)
  | [] => some (trace, world)
  | action :: rest => (world.act action).bind fun (turn, next) => next.perform (turn :: trace) rest

end RenderWorld

/-- Runs from a new renderer, with their turns, the newest first. -/
inductive RenderRun {T : Type} [Target T] (batchSize : Nat) (threshold : Number) :
    List RenderTurn → RenderWorld T → Prop where
  | start (target : T) : RenderRun batchSize threshold [] ⟨.new batchSize threshold, target, []⟩
  | next : RenderRun batchSize threshold trace world → world.act action = some (turn, after) →
    RenderRun batchSize threshold (turn :: trace) after

section

variable {T : Type} [Target T]

theorem RenderRun.perform {world : RenderWorld T} (h : RenderRun batchSize threshold trace world)
    (hp : world.perform trace actions = some (turns, after)) :
    RenderRun batchSize threshold turns after := by
  induction actions generalizing trace world with
  | nil =>
    obtain ⟨rfl, rfl⟩ : trace = turns ∧ world = after := by simpa [RenderWorld.perform] using hp
    exact h
  | cons action rest ih =>
    simp only [RenderWorld.perform, Option.bind_eq_some_iff] at hp
    obtain ⟨⟨turn, next⟩, ha, hp⟩ := hp
    exact ih (h.next ha) hp

theorem RenderRun.of_perform (batchSize : Nat) (threshold : Number) (target : T)
    (actions : List RenderAction) (p : List RenderTurn → RenderWorld T → Bool)
    (hp : (RenderWorld.perform [] ⟨.new batchSize threshold, target, []⟩ actions).any
      fun (turns, world) => p turns world) :
    ∃ trace world, RenderRun (T := T) batchSize threshold trace world ∧ p trace world = true := by
  obtain ⟨⟨trace, world⟩, ha, hp⟩ := (Option.any_eq_true _ _).mp hp
  exact ⟨trace, world, (RenderRun.start target).perform ha, hp⟩

end

-- ---------------------------------------------------------------------------
-- The ledger
-- ---------------------------------------------------------------------------

/-- Batches by the results they were claimed from, the oldest first. -/
structure Ledger where
  /-- Claimed from results that have been replaced. -/
  former : List Batch
  claims : List Batch
  /-- Completed after they were claimed from the present results. -/
  completions : List Batch
  deriving DecidableEq

namespace Ledger

def empty : Ledger := ⟨[], [], []⟩

def renew (ledger : Ledger) : Ledger := ⟨ledger.former ++ ledger.claims, [], []⟩

def claim (ledger : Ledger) (batch : Batch) : Ledger :=
  { ledger with claims := ledger.claims ++ [batch] }

def complete (ledger : Ledger) (batch : Batch) : Ledger :=
  if batch ∈ ledger.claims then { ledger with completions := ledger.completions ++ [batch] }
  else ledger

def record (ledger : Ledger) : BatchEvent → Ledger
  | .claimed batch => ledger.claim batch
  | .completed batch => ledger.complete batch
  | .rendered batch => (ledger.claim batch).complete batch

def enter (ledger : Ledger) (turn : RenderTurn) : Ledger :=
  let ledger := if turn.action.replaces then ledger.renew else ledger
  turn.event.elim ledger ledger.record

def ofTrace : List RenderTurn → Ledger
  | [] => .empty
  | turn :: earlier => (ofTrace earlier).enter turn

def openBatches (ledger : Ledger) : List Batch :=
  ledger.claims.filter fun batch => batch ∉ ledger.completions

end Ledger

end RefViewer
