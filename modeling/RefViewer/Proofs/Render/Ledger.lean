import RefViewer.Proofs.Render.World
import Mathlib.Data.List.Chain

/-!
# What a renderer has claimed

As long as the host completes only the open batch, or the latest one again, the claims from
the present results lie one behind the other: the completed ones reach up to the cursor, and
an open one begins there. `RenderRun.tallied`.
-/

namespace RefViewer

-- ---------------------------------------------------------------------------
-- Rows of batches
-- ---------------------------------------------------------------------------

/-- Batches that lie one behind the other in results of a given length, all of the full size
but the last one of the results. -/
def Tiles (generation size total : Nat) : Nat → List Batch → Nat → Prop
  | first, [], last => first = last
  | first, batch :: rest, last =>
    first < total ∧ batch = ⟨generation, first, min (first + size) total⟩ ∧
      Tiles generation size total batch.last rest last

namespace Tiles

variable {generation size total first last : Nat} {batches : List Batch}

theorem snoc (h : Tiles generation size total first batches last) (hl : last < total) :
    Tiles generation size total first
      (batches ++ [⟨generation, last, min (last + size) total⟩]) (min (last + size) total) := by
  induction batches generalizing first with
  | nil =>
    obtain rfl : first = last := h
    exact ⟨hl, rfl, rfl⟩
  | cons batch rest ih =>
    obtain ⟨hf, hb, ht⟩ := h
    exact ⟨hf, hb, ih ht⟩

theorem le (h : Tiles generation size total first batches last) (hs : 0 < size) :
    first ≤ last := by
  induction batches generalizing first with
  | nil => exact Nat.le_of_eq h
  | cons batch rest ih =>
    obtain ⟨hf, rfl, ht⟩ := h
    have hle := ih ht
    simp only at hle
    omega

theorem le_total (h : Tiles generation size total first batches last) (hf : first ≤ total) :
    last ≤ total := by
  induction batches generalizing first with
  | nil =>
    obtain rfl : first = last := h
    exact hf
  | cons batch rest ih =>
    obtain ⟨-, rfl, ht⟩ := h
    exact ih ht (Nat.min_le_right _ _)

/-- What is known of a batch by its place in a row. -/
structure Holds (generation size total first last : Nat) (batch : Batch) : Prop where
  generation_eq : batch.generation = generation
  first_le : first ≤ batch.first
  nonempty : batch.first < batch.last
  size_le : batch.size ≤ size
  le_last : batch.last ≤ last
  le_total : batch.last ≤ total

theorem mem (h : Tiles generation size total first batches last) (hs : 0 < size)
    (hb : batch ∈ batches) : Holds generation size total first last batch := by
  induction batches generalizing first with
  | nil => cases hb
  | cons head rest ih =>
    obtain ⟨hf, rfl, ht⟩ := h
    rcases List.mem_cons.mp hb with rfl | hb
    · refine ⟨rfl, Nat.le_refl _, ?_, ?_, ht.le hs, Nat.min_le_right _ _⟩
      · simp only
        omega
      · simp only [Batch.size]
        omega
    · obtain ⟨hgen, hfirst, hne, hsize, hlast, htotal⟩ := ih ht hb
      refine ⟨hgen, ?_, hne, hsize, hlast, htotal⟩
      simp only at hfirst
      omega

theorem pairwise (h : Tiles generation size total first batches last) (hs : 0 < size) :
    batches.Pairwise fun a b => a.last ≤ b.first := by
  induction batches generalizing first with
  | nil => exact .nil
  | cons batch rest ih =>
    obtain ⟨-, -, ht⟩ := h
    exact .cons (fun b hb => (ht.mem hs hb).first_le) (ih ht)

theorem consecutive (h : Tiles generation size total first batches last) :
    batches.IsChain fun a b => a.last = b.first := by
  induction batches generalizing first with
  | nil => exact .nil
  | cons batch rest ih =>
    obtain ⟨-, -, ht⟩ := h
    cases rest with
    | nil => exact .singleton batch
    | cons second more =>
      have hsecond : batch.last = second.first := by rw [ht.2.1]
      exact .cons_cons hsecond (ih ht)

theorem head (h : Tiles generation size total first batches last)
    (hb : batches.head? = some batch) : batch.first = first := by
  cases batches with
  | nil => cases hb
  | cons head rest =>
    obtain ⟨-, hh, -⟩ := h
    obtain rfl : head = batch := by simpa using hb
    rw [hh]

theorem eq_of_last (h : Tiles generation size total first batches last) (hs : 0 < size)
    (ha : a ∈ batches) (hb : b ∈ batches) (he : a.last = b.last) : a = b := by
  induction batches generalizing first with
  | nil => cases ha
  | cons head rest ih =>
    obtain ⟨-, -, ht⟩ := h
    -- A later batch ends behind the first one.
    have hbehind {later : Batch} (hl : later ∈ rest) : head.last < later.last :=
      Nat.lt_of_le_of_lt (ht.mem hs hl).first_le (ht.mem hs hl).nonempty
    rcases List.mem_cons.mp ha with ha | ha
    · rcases List.mem_cons.mp hb with hb | hb
      · exact ha.trans hb.symm
      · exact absurd (ha ▸ he) (Nat.ne_of_lt (hbehind hb))
    · rcases List.mem_cons.mp hb with hb | hb
      · exact absurd (hb ▸ he.symm) (Nat.ne_of_lt (hbehind ha))
      · exact ih ht ha hb

end Tiles

-- ---------------------------------------------------------------------------
-- Steps
-- ---------------------------------------------------------------------------

/-- How a renderer changes where its results stay. -/
inductive Renderer.Moves (renderer : Renderer) : Option BatchEvent → Renderer → Prop where
  | rest : renderer.Moves none renderer
  | claim : renderer.loadingMore = false → renderer.rendered < renderer.total →
    renderer.Moves (some (.claimed renderer.nextBatch)) renderer.begun
  | complete (batch : Batch) :
    renderer.Moves (some (.completed batch)) (renderer.completeBatch batch).2
  | render : renderer.loadingMore = false → renderer.rendered < renderer.total →
    renderer.Moves (some (.rendered renderer.nextBatch))
      (renderer.begun.completeBatch renderer.nextBatch).2

/-- A turn gives new results or not, and then moves the renderer. -/
structure RenderStep {T : Type} (world : RenderWorld T) (turn : RenderTurn)
    (after : RenderWorld T) (base : Renderer) : Prop where
  before_eq : turn.before = world.renderer
  after_eq : turn.after = after.renderer
  kept : turn.action.replaces = false → base = world.renderer
  renewed : turn.action.replaces = true → ∃ results, base = world.renderer.setResults results
  moves : base.Moves turn.event after.renderer
  held_eq : after.held = world.held ++ (turn.event.bind BatchEvent.handed).toList
  place : turn.event = some (.completed batch) →
    ∃ place, turn.action = .complete place ∧ world.held[place]? = some batch

section

variable {T : Type} [Target T] {world after : RenderWorld T} {turn : RenderTurn}

theorem Renderer.moves_renderNext (renderer : Renderer) (target : T) :
    renderer.Moves (renderer.nextBatch?.map .rendered) (renderer.renderNext target).2.1 := by
  rcases renderer.beginBatch?_cases with ⟨-, hb⟩ | ⟨hl, hm, hb⟩
  · rw [Renderer.renderNext_none hb, Renderer.nextBatch?, hb]
    exact .rest
  · rw [Renderer.renderNext_some hb, Renderer.nextBatch?, hb]
    exact .render hl hm

theorem Option.map_rendered_ne {o : Option Batch} :
    o.map BatchEvent.rendered ≠ some (.completed batch) := by
  cases o <;> simp

theorem Option.map_rendered_handed {o : Option Batch} :
    (o.map BatchEvent.rendered).bind BatchEvent.handed = none := by
  cases o <;> rfl

theorem RenderWorld.act_step (ha : world.act action = some (turn, after)) :
    ∃ base, RenderStep world turn after base := by
  cases action with
  | replace results =>
    obtain ⟨rfl, rfl⟩ : _ ∧ _ := by simpa [RenderWorld.act, RenderWorld.turn] using ha
    exact ⟨_, rfl, rfl, nofun, fun _ => ⟨results, rfl⟩, .rest, by simp, nofun⟩
  | present results =>
    obtain ⟨rfl, rfl⟩ : _ ∧ _ := by simpa [RenderWorld.act, RenderWorld.turn] using ha
    refine ⟨world.renderer.setResults results, rfl, rfl, nofun, fun _ => ⟨results, rfl⟩, ?_,
      by simp [Option.map_rendered_handed], fun he => absurd he Option.map_rendered_ne⟩
    by_cases hr : results = []
    · subst hr
      exact .rest
    · rw [Renderer.present_cons _ _ hr]
      exact Renderer.moves_renderNext _ _
  | claim =>
    rcases world.renderer.beginBatch?_cases with ⟨-, hb⟩ | ⟨hl, hm, hb⟩
    · obtain ⟨rfl, rfl⟩ : _ ∧ _ := by simpa [RenderWorld.act, RenderWorld.turn, hb] using ha
      exact ⟨_, rfl, rfl, fun _ => rfl, nofun, .rest, by simp, nofun⟩
    · obtain ⟨rfl, rfl⟩ : _ ∧ _ := by simpa [RenderWorld.act, RenderWorld.turn, hb] using ha
      exact ⟨_, rfl, rfl, fun _ => rfl, nofun, .claim hl hm, by simp [BatchEvent.handed], nofun⟩
  | complete place =>
    simp only [RenderWorld.act, RenderWorld.turn, Option.map_eq_some_iff, Prod.mk.injEq] at ha
    obtain ⟨batch, hheld, rfl, rfl⟩ := ha
    refine ⟨_, rfl, rfl, fun _ => rfl, nofun, .complete batch, by simp [BatchEvent.handed], ?_⟩
    intro other he
    obtain rfl : batch = other := by simpa using he
    exact ⟨place, rfl, hheld⟩
  | pull trigger =>
    obtain ⟨rfl, rfl⟩ : _ ∧ _ := by simpa [RenderWorld.act, RenderWorld.turn] using ha
    cases hh : world.renderer.hears trigger with
    | false =>
      exact ⟨world.renderer, rfl, rfl, fun _ => rfl, nofun,
        by simpa [Renderer.pull_eq, hh] using .rest, by simp, by simp⟩
    | true =>
      refine ⟨world.renderer, rfl, rfl, fun _ => rfl, nofun, ?_,
        by simp [Option.map_rendered_handed], fun he => ?_⟩
      · simpa [Renderer.pull_eq, hh] using Renderer.moves_renderNext _ _
      · simp at he

end

-- ---------------------------------------------------------------------------
-- The ledger and the cursor
-- ---------------------------------------------------------------------------

def Renderer.openBatch? (renderer : Renderer) : Option Batch :=
  if renderer.loadingMore then some renderer.nextBatch else none

def Batch.endOf (batches : List Batch) : Nat := (batches.getLast?.map Batch.last).getD 0

namespace Ledger

/-- Completing a batch of the present results is in order when it is the open one, or when
none is open and it is the latest one again. -/
def Allows (ledger : Ledger) (batch : Batch) : Prop :=
  batch ∈ ledger.claims →
    batch ∈ ledger.openBatches ∨
      (ledger.openBatches = [] ∧ ledger.completions.getLast? = some batch)

/-- The completed claims reach up to the cursor, and the open one begins there. -/
structure Settles (ledger : Ledger) (renderer : Renderer) (settled : List Batch) : Prop where
  size_pos : 0 < renderer.batchSize
  tiles : Tiles renderer.generation renderer.batchSize renderer.total 0 settled renderer.rendered
  claims : ledger.claims = settled ++ renderer.openBatch?.toList
  completions : batch ∈ ledger.completions ↔ batch ∈ settled
  cursor : renderer.rendered = Batch.endOf ledger.completions
  more : renderer.loadingMore = true → renderer.rendered < renderer.total

namespace Settles

variable {ledger : Ledger} {renderer : Renderer} {settled : List Batch} {batch : Batch}

theorem renew (ledger : Ledger) (results : List Entry) (hs : 0 < renderer.batchSize) :
    ledger.renew.Settles (renderer.setResults results) [] :=
  ⟨hs, rfl, rfl, .rfl, rfl, nofun⟩

theorem holds (h : ledger.Settles renderer settled) (hb : batch ∈ settled) :
    Tiles.Holds renderer.generation renderer.batchSize renderer.total 0 renderer.rendered batch :=
  h.tiles.mem h.size_pos hb

theorem tiles_claims (h : ledger.Settles renderer settled) :
    ∃ last, Tiles renderer.generation renderer.batchSize renderer.total 0 ledger.claims last := by
  rw [h.claims]
  cases hl : renderer.loadingMore with
  | false => exact ⟨_, by simpa [Renderer.openBatch?, hl] using h.tiles⟩
  | true =>
    exact ⟨_, by simpa [Renderer.openBatch?, hl, Renderer.nextBatch] using h.tiles.snoc (h.more hl)⟩

theorem mem_claims (h : ledger.Settles renderer settled) (hb : batch ∈ ledger.claims) :
    batch.generation = renderer.generation ∧ batch.last ≤ renderer.total := by
  obtain ⟨last, ht⟩ := h.tiles_claims
  exact ⟨(ht.mem h.size_pos hb).generation_eq, (ht.mem h.size_pos hb).le_total⟩

theorem nextBatch_not_mem (h : ledger.Settles renderer settled)
    (hm : renderer.rendered < renderer.total) : renderer.nextBatch ∉ settled := by
  intro hb
  have hlast := (h.holds hb).le_last
  have hpos := h.size_pos
  simp only [Renderer.nextBatch] at hlast
  omega

theorem openBatches (h : ledger.Settles renderer settled) :
    ledger.openBatches = renderer.openBatch?.toList := by
  have hsettled : settled.filter (fun batch => batch ∉ ledger.completions) = [] := by
    rw [List.filter_eq_nil_iff]
    intro batch hb
    simpa using h.completions.mpr hb
  rw [Ledger.openBatches, h.claims, List.filter_append, hsettled]
  cases hl : renderer.loadingMore with
  | false => simp [Renderer.openBatch?, hl]
  | true =>
    have hnew : renderer.nextBatch ∉ ledger.completions := fun hb =>
      h.nextBatch_not_mem (h.more hl) (h.completions.mp hb)
    simp [Renderer.openBatch?, hl, hnew]

theorem claim (h : ledger.Settles renderer settled) (hl : renderer.loadingMore = false)
    (hm : renderer.rendered < renderer.total) :
    (ledger.claim renderer.nextBatch).Settles renderer.begun settled where
  size_pos := h.size_pos
  tiles := h.tiles
  claims := by
    simp only [Ledger.claim, h.claims, Renderer.openBatch?, hl]
    simp [Renderer.begun, Renderer.nextBatch, Renderer.total]
  completions := h.completions
  cursor := h.cursor
  more _ := hm

/-- The open batch takes the cursor to its end. -/
theorem complete_open (h : ledger.Settles renderer settled) (hl : renderer.loadingMore = true) :
    (ledger.complete renderer.nextBatch).Settles (renderer.completeBatch renderer.nextBatch).2
      (settled ++ [renderer.nextBatch]) := by
  have hclaims : ledger.claims = settled ++ [renderer.nextBatch] := by
    simp [h.claims, Renderer.openBatch?, hl]
  have hmem : renderer.nextBatch ∈ ledger.claims := by simp [hclaims]
  have hdone : (renderer.completeBatch renderer.nextBatch).2 =
      { renderer with
        rendered := min (renderer.rendered + renderer.batchSize) renderer.total,
        loadingMore := false } := by
    simp [Renderer.completeBatch, Renderer.nextBatch]
  rw [hdone, Ledger.complete, if_pos hmem]
  exact {
    size_pos := h.size_pos
    tiles := h.tiles.snoc (h.more hl)
    claims := by simp [hclaims, Renderer.openBatch?]
    completions := by simp [h.completions]
    cursor := by simp [Batch.endOf, Renderer.nextBatch]
    more := fun hm => absurd hm Bool.false_ne_true }

/-- The latest batch leaves the cursor where it is. -/
theorem complete_again (h : ledger.Settles renderer settled) (hl : renderer.loadingMore = false)
    (hc : ledger.completions.getLast? = some batch) :
    (ledger.complete batch).Settles (renderer.completeBatch batch).2 settled := by
  have hsettled : batch ∈ settled := h.completions.mp (List.mem_of_getLast? hc)
  have hmem : batch ∈ ledger.claims := by simp [h.claims, hsettled]
  have hcursor : batch.last = renderer.rendered := by
    rw [h.cursor, Batch.endOf, hc]
    rfl
  have hsame : (renderer.completeBatch batch).2 = renderer := by
    have htotal : min renderer.rendered renderer.total = renderer.rendered :=
      Nat.min_eq_left (hcursor ▸ (h.mem_claims hmem).2)
    cases renderer
    simp_all [Renderer.completeBatch, (h.mem_claims hmem).1]
  rw [hsame, Ledger.complete, if_pos hmem]
  exact {
    size_pos := h.size_pos
    tiles := h.tiles
    claims := h.claims
    completions := by
      intro other
      simp only [List.mem_append, List.mem_singleton, h.completions]
      exact ⟨fun ho => ho.elim id fun he => he ▸ hsettled, .inl⟩
    cursor := by simp [Batch.endOf, hcursor]
    more := h.more }

theorem complete_former (h : ledger.Settles renderer settled)
    (hg : batch.generation ≠ renderer.generation) :
    (ledger.complete batch).Settles (renderer.completeBatch batch).2 settled := by
  have hmem : batch ∉ ledger.claims := fun hb => hg (h.mem_claims hb).1
  rw [Ledger.complete, if_neg hmem, Renderer.completeBatch, if_neg hg]
  exact h

theorem complete (h : ledger.Settles renderer settled) (ha : ledger.Allows batch)
    (hp : batch.generation = renderer.generation → batch ∈ ledger.claims) :
    ∃ settled, (ledger.complete batch).Settles (renderer.completeBatch batch).2 settled := by
  by_cases hg : batch.generation = renderer.generation
  · rcases ha (hp hg) with ho | ⟨hnone, hc⟩
    · rw [h.openBatches] at ho
      cases hl : renderer.loadingMore with
      | false => simp [Renderer.openBatch?, hl] at ho
      | true =>
        obtain rfl : batch = renderer.nextBatch := by simpa [Renderer.openBatch?, hl] using ho
        exact ⟨_, h.complete_open hl⟩
    · rw [h.openBatches] at hnone
      cases hl : renderer.loadingMore with
      | false => exact ⟨_, h.complete_again hl hc⟩
      | true => simp [Renderer.openBatch?, hl] at hnone
  · exact ⟨_, h.complete_former hg⟩

/-- Every move of the renderer is a move of its ledger. -/
theorem moves (h : ledger.Settles renderer settled) (hm : renderer.Moves event after)
    (ha : ∀ batch, event = some (.completed batch) → ledger.Allows batch ∧
      (batch.generation = renderer.generation → batch ∈ ledger.claims)) :
    ∃ settled, (event.elim ledger ledger.record).Settles after settled := by
  cases hm with
  | rest => exact ⟨settled, h⟩
  | claim hl hm => exact ⟨settled, h.claim hl hm⟩
  | complete batch => exact h.complete (ha batch rfl).1 (ha batch rfl).2
  | render hl hm => exact ⟨_, (h.claim hl hm).complete_open rfl⟩

end Settles

end Ledger

-- ---------------------------------------------------------------------------
-- Runs
-- ---------------------------------------------------------------------------

def Regular : List RenderTurn → Prop
  | [] => True
  | turn :: earlier => Regular earlier ∧
    ∀ batch, turn.event = some (.completed batch) → (Ledger.ofTrace earlier).Allows batch

/-- How a world stands to its ledger. The host holds batches of the present results only if
they are in the ledger, and each of them once. -/
structure RenderWorld.Tallies {T : Type} (world : RenderWorld T) (ledger : Ledger) : Prop where
  settles : ∃ settled, ledger.Settles world.renderer settled
  older : batch ∈ world.held → batch.generation ≤ world.renderer.generation
  present : batch ∈ world.held → batch.generation = world.renderer.generation →
    batch ∈ ledger.claims
  former : batch ∈ ledger.former → batch.generation < world.renderer.generation
  nodup : world.held.Nodup

section

variable {T : Type} {world after : RenderWorld T} {renderer moved : Renderer}
  {event : Option BatchEvent} {ledger : Ledger} {turn : RenderTurn}

theorem Renderer.Moves.generation_eq (hm : renderer.Moves event moved) :
    moved.generation = renderer.generation := by
  cases hm with
  | rest | claim => rfl
  | complete batch =>
    unfold Renderer.completeBatch
    split <;> rfl
  | render => simp [Renderer.completeBatch, Renderer.begun, Renderer.nextBatch]

theorem Renderer.Moves.batchSize_eq (hm : renderer.Moves event moved) :
    moved.batchSize = renderer.batchSize := by
  cases hm with
  | rest | claim => rfl
  | complete batch =>
    unfold Renderer.completeBatch
    split <;> rfl
  | render => simp [Renderer.completeBatch, Renderer.begun, Renderer.nextBatch]

theorem RenderStep.base_batchSize (hs : RenderStep world turn after base) :
    base.batchSize = world.renderer.batchSize := by
  cases hn : turn.action.replaces with
  | false => rw [hs.kept hn]
  | true =>
    obtain ⟨results, rfl⟩ := hs.renewed hn
    rfl

theorem Renderer.Moves.claimed (hm : renderer.Moves (some (.claimed batch)) moved) :
    renderer.loadingMore = false ∧ renderer.rendered < renderer.total ∧
      batch = renderer.nextBatch := by
  cases hm with
  | claim hl hm => exact ⟨hl, hm, rfl⟩

theorem Renderer.Moves.rendered (hm : renderer.Moves (some (.rendered batch)) moved) :
    renderer.loadingMore = false ∧ renderer.rendered < renderer.total ∧
      batch = renderer.nextBatch := by
  cases hm with
  | render hl hm => exact ⟨hl, hm, rfl⟩

theorem RenderStep.held_cases {place : Nat} (hs : RenderStep world turn after base)
    (hp : after.held[place]? = some batch) :
    world.held[place]? = some batch ∨ turn.event = some (.claimed batch) := by
  rw [hs.held_eq, List.getElem?_append] at hp
  split at hp
  · exact .inl hp
  · have hmem := List.mem_of_getElem? hp
    rcases he : turn.event with - | ⟨other⟩ | ⟨other⟩ | ⟨other⟩ <;>
      simp [he, BatchEvent.handed] at hmem
    exact .inr (by rw [hmem])

namespace Ledger

theorem complete_claims (ledger : Ledger) (batch : Batch) :
    (ledger.complete batch).claims = ledger.claims := by
  unfold complete
  split <;> rfl

theorem complete_former (ledger : Ledger) (batch : Batch) :
    (ledger.complete batch).former = ledger.former := by
  unfold complete
  split <;> rfl

theorem mem_claims_record (hb : batch ∈ ledger.claims) :
    batch ∈ (event.elim ledger ledger.record).claims := by
  rcases event with - | ⟨other⟩ | ⟨other⟩ | ⟨other⟩
  · exact hb
  · exact List.mem_append_left _ hb
  · exact (ledger.complete_claims other).symm ▸ hb
  · exact ((ledger.claim other).complete_claims other).symm ▸ List.mem_append_left _ hb

theorem former_record : (event.elim ledger ledger.record).former = ledger.former := by
  rcases event with - | ⟨other⟩ | ⟨other⟩ | ⟨other⟩
  · rfl
  · rfl
  · exact ledger.complete_former other
  · exact (ledger.claim other).complete_former other

end Ledger

namespace RenderWorld.Tallies

theorem start (batchSize : Nat) (threshold : Number) (target : T) :
    Tallies ⟨.new batchSize threshold, target, []⟩ .empty where
  settles := ⟨[], Nat.lt_of_lt_of_le Nat.one_pos (Nat.le_max_right _ _), rfl, rfl, .rfl, rfl, nofun⟩
  older := nofun
  present := nofun
  former := nofun
  nodup := .nil

theorem renew (h : world.Tallies ledger) (results : List Entry) :
    Tallies { world with renderer := world.renderer.setResults results } ledger.renew := by
  obtain ⟨settled, hs⟩ := h.settles
  refine ⟨⟨[], .renew ledger results hs.size_pos⟩, fun hb => ?_, fun hb hg => ?_, fun hb => ?_,
    h.nodup⟩
  · exact Nat.le_succ_of_le (h.older hb)
  · have hlt := Nat.lt_succ_of_le (h.older hb)
    exact absurd hg (Nat.ne_of_lt hlt)
  · rcases List.mem_append.mp hb with hb | hb
    · exact Nat.lt_succ_of_lt (h.former hb)
    · exact Nat.lt_succ_of_le (Nat.le_of_eq (hs.mem_claims hb).1)

theorem nextBatch_not_mem (h : world.Tallies ledger) (hl : world.renderer.loadingMore = false)
    (hm : world.renderer.rendered < world.renderer.total) :
    world.renderer.nextBatch ∉ world.held := by
  intro hb
  obtain ⟨settled, hs⟩ := h.settles
  have hclaims := h.present hb rfl
  simp only [hs.claims, Renderer.openBatch?, hl] at hclaims
  exact hs.nextBatch_not_mem hm (by simpa using hclaims)

theorem claim (h : world.Tallies ledger) (hl : world.renderer.loadingMore = false)
    (hm : world.renderer.rendered < world.renderer.total) (target : T) :
    Tallies ⟨world.renderer.begun, target, world.held ++ [world.renderer.nextBatch]⟩
      (ledger.claim world.renderer.nextBatch) where
  settles := h.settles.imp fun _ hs => hs.claim hl hm
  older hb := by
    rcases List.mem_append.mp hb with hb | hb
    · exact h.older hb
    · rw [List.mem_singleton.mp hb]
      exact Nat.le_refl _
  present hb hg := by
    rcases List.mem_append.mp hb with hb | hb
    · exact List.mem_append_left _ (h.present hb hg)
    · exact List.mem_append_right _ hb
  former hb := h.former hb
  nodup := by
    refine List.nodup_append.mpr ⟨h.nodup, by simp, fun a ha b hb he => ?_⟩
    rw [List.mem_singleton.mp hb] at he
    exact h.nextBatch_not_mem hl hm (he ▸ ha)

theorem unhanded (h : world.Tallies ledger) (hm : world.renderer.Moves event moved)
    (ha : ∀ batch, event = some (.completed batch) → batch ∈ world.held ∧ ledger.Allows batch)
    (target : T) :
    Tallies ⟨moved, target, world.held⟩ (event.elim ledger ledger.record) where
  settles := by
    obtain ⟨settled, hs⟩ := h.settles
    exact hs.moves hm fun batch he => ⟨(ha batch he).2, h.present (ha batch he).1⟩
  older hb := hm.generation_eq ▸ h.older hb
  present hb hg := Ledger.mem_claims_record (h.present hb (hg.trans hm.generation_eq))
  former hb := by
    rw [Ledger.former_record] at hb
    exact hm.generation_eq ▸ h.former hb
  nodup := h.nodup

theorem moves (h : world.Tallies ledger) (hm : world.renderer.Moves event moved)
    (ha : ∀ batch, event = some (.completed batch) → batch ∈ world.held ∧ ledger.Allows batch)
    (target : T) :
    Tallies ⟨moved, target, world.held ++ (event.bind BatchEvent.handed).toList⟩
      (event.elim ledger ledger.record) := by
  cases hm with
  | claim hl hm => exact h.claim hl hm target
  | rest => simpa using h.unhanded .rest ha target
  | complete batch => simpa [BatchEvent.handed] using h.unhanded (.complete batch) ha target
  | render hl hm => simpa [BatchEvent.handed] using h.unhanded (.render hl hm) ha target

theorem atBase (h : world.Tallies ledger) (hs : RenderStep world turn after base) :
    Tallies { world with renderer := base }
      (if turn.action.replaces then ledger.renew else ledger) := by
  cases hn : turn.action.replaces with
  | false =>
    obtain rfl := hs.kept hn
    exact h
  | true =>
    obtain ⟨results, rfl⟩ := hs.renewed hn
    exact h.renew results

theorem step (h : world.Tallies (Ledger.ofTrace trace)) (hs : RenderStep world turn after base)
    (hr : Regular (turn :: trace)) : after.Tallies (Ledger.ofTrace (turn :: trace)) := by
  have hmoved : after = ⟨after.renderer, after.target,
      world.held ++ (turn.event.bind BatchEvent.handed).toList⟩ := by rw [← hs.held_eq]
  rw [hmoved]
  refine (h.atBase hs).moves hs.moves (fun batch he => ?_) after.target
  obtain ⟨place, hp, hb⟩ := hs.place he
  have hkept : turn.action.replaces = false := by rw [hp]; rfl
  rw [hkept]
  exact ⟨List.mem_of_getElem? hb, hr.2 batch he⟩

end RenderWorld.Tallies

variable [Target T]

theorem RenderRun.tallies (h : RenderRun batchSize threshold trace world) (hr : Regular trace) :
    world.Tallies (Ledger.ofTrace trace) := by
  induction h with
  | start target => exact .start batchSize threshold target
  | next _ ha ih =>
    obtain ⟨base, hs⟩ := RenderWorld.act_step ha
    exact (ih hr.1).step hs hr

end

end RefViewer
