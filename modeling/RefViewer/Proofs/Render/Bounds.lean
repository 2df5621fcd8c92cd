import Mathlib.Algebra.Group.Nat.Defs
import RefViewer.Card.Targets
import RefViewer.Proofs.Render.Order

/-!
# Bounds of the batches

A batch ends at the sum of the cursor and the batch size, which is formed in a word of 64 bits
before it is compared with the length of the results, and its entries are cut out of the
results between its ends. `run_in_bounds`: whatever the host completes, and however often, the
cursor stands at a multiple of the batch size or at the end of the results. So the sum never
leaves the word, and no batch reaches beyond the results.
-/

namespace RefViewer

def RenderAction.results? : RenderAction → Option (List Entry)
  | .replace results | .present results => some results
  | .claim | .complete _ | .pull _ => none

/-- Whether every list of results that the host gave has fewer entries than a limit. -/
def ResultsBelow (limit : Nat) (trace : List RenderTurn) : Prop :=
  ∀ turn ∈ trace, ∀ results, turn.action.results? = some results → results.length < limit

/-- Whether the batch was claimed in the turn, be it completed at once or not. -/
def RenderTurn.Claims (turn : RenderTurn) (batch : Batch) : Prop :=
  turn.event = some (.claimed batch) ∨ turn.event = some (.rendered batch)

def Batch.Within (batch : Batch) (total : Nat) : Prop :=
  batch.first ≤ batch.last ∧ batch.last ≤ total

structure Renderer.InBounds (renderer : Renderer) (size : Nat) : Prop where
  cursor : renderer.rendered = 0 ∨ size ∣ renderer.rendered ∨ renderer.rendered = renderer.total
  le_total : renderer.rendered ≤ renderer.total
  /-- The end of the batch that would be claimed next. -/
  sum_lt : renderer.hasMore = true → renderer.rendered + renderer.batchSize < 2 ^ 64

structure RenderTurn.InBounds (turn : RenderTurn) (size : Nat) : Prop where
  before : turn.before.InBounds size
  after : turn.after.InBounds size
  sum_lt : turn.Claims batch → batch.first + size < 2 ^ 64
  within : turn.Claims batch → batch.Within turn.after.total
  /-- Nothing is missing from the entries of the batch. -/
  entries : turn.Claims batch → (turn.after.entriesOf batch).length = batch.size

-- ---------------------------------------------------------------------------
-- Places
-- ---------------------------------------------------------------------------

structure OnGrid (size total place : Nat) : Prop where
  regular : size ∣ place ∨ place = total
  le_total : place ≤ total

namespace OnGrid

variable {size total place : Nat}

theorem zero (size total : Nat) : OnGrid size total 0 :=
  ⟨.inl (Nat.dvd_zero size), Nat.zero_le total⟩

theorem dvd (h : OnGrid size total place) (hm : place < total) : size ∣ place :=
  h.regular.resolve_right (Nat.ne_of_lt hm)

theorem next (h : OnGrid size total place) (hm : place < total) :
    OnGrid size total (min (place + size) total) := by
  refine ⟨?_, Nat.min_le_right _ _⟩
  rcases Nat.le_total (place + size) total with hle | hle
  · rw [Nat.min_eq_left hle]
    exact .inl (Nat.dvd_add (h.dvd hm) (Nat.dvd_refl size))
  · exact .inr (Nat.min_eq_right hle)

/-- Behind the first batch the size is not more than what has been passed, so the sum is less
than twice the length. -/
theorem sum_lt (h : OnGrid size total place) (hm : place < total) (hs : size < 2 ^ 64)
    (ht : total < 2 ^ 63) : place + size < 2 ^ 64 := by
  rcases Nat.eq_zero_or_pos place with rfl | hpos
  · simpa using hs
  · have hle : size ≤ place := Nat.le_of_dvd hpos (h.dvd hm)
    omega

end OnGrid

-- ---------------------------------------------------------------------------
-- Steps
-- ---------------------------------------------------------------------------

/-- The cursor stands on the grid, and a batch of the present results takes it nowhere else. -/
structure Renderer.Bounds (renderer : Renderer) (held : List Batch) : Prop where
  cursor : OnGrid renderer.batchSize renderer.total renderer.rendered
  older : ∀ batch ∈ held, batch.generation ≤ renderer.generation
  ends : ∀ batch ∈ held, batch.generation = renderer.generation →
    batch.first ≤ batch.last ∧ OnGrid renderer.batchSize renderer.total batch.last

namespace Renderer.Bounds

variable {renderer moved : Renderer} {held : List Batch} {event : Option BatchEvent}

theorem start (batchSize : Nat) (threshold : Number) : (new batchSize threshold).Bounds [] :=
  ⟨.zero _ _, nofun, nofun⟩

theorem renew (h : renderer.Bounds held) (results : List Entry) :
    (renderer.setResults results).Bounds held := by
  refine ⟨.zero _ _, ?_, ?_⟩
  · intro batch hb
    exact Nat.le_succ_of_le (h.older batch hb)
  · intro batch hb hg
    have hlt := Nat.lt_succ_of_le (h.older batch hb)
    exact absurd hg (Nat.ne_of_lt hlt)

theorem nextBatch_ends (h : renderer.Bounds held) (hm : renderer.rendered < renderer.total) :
    renderer.nextBatch.first ≤ renderer.nextBatch.last ∧
      OnGrid renderer.batchSize renderer.total renderer.nextBatch.last := by
  refine ⟨?_, h.cursor.next hm⟩
  simp only [nextBatch]
  omega

theorem claim (h : renderer.Bounds held) (hm : renderer.rendered < renderer.total) :
    renderer.begun.Bounds (held ++ [renderer.nextBatch]) := by
  refine ⟨h.cursor, ?_, ?_⟩
  · intro batch hb
    rcases List.mem_append.mp hb with hb | hb
    · exact h.older batch hb
    · obtain rfl := List.mem_singleton.mp hb
      exact Nat.le_refl _
  · intro batch hb hg
    rcases List.mem_append.mp hb with hb | hb
    · exact h.ends batch hb hg
    · obtain rfl := List.mem_singleton.mp hb
      exact h.nextBatch_ends hm

/-- Where the batch is stale nothing happens, else the cursor goes to its end, be that ahead or
behind. -/
theorem complete (h : renderer.Bounds held) {batch : Batch} (hb : batch ∈ held) :
    (renderer.completeBatch batch).2.Bounds held := by
  unfold completeBatch
  split
  · next hg =>
    obtain ⟨-, hend⟩ := h.ends batch hb hg
    refine ⟨?_, h.older, h.ends⟩
    simp only [Nat.min_eq_left hend.le_total]
    exact hend
  · exact h

theorem moves (h : renderer.Bounds held) (hm : renderer.Moves event moved)
    (hc : ∀ batch, event = some (.completed batch) → batch ∈ held) :
    moved.Bounds (held ++ (event.bind BatchEvent.handed).toList) := by
  cases hm with
  | rest => simpa using h
  | claim _ hm => exact h.claim hm
  | complete batch =>
    have hb := hc batch rfl
    simpa [BatchEvent.handed] using h.complete hb
  | render _ hm =>
    have hlast : renderer.nextBatch ∈ held ++ [renderer.nextBatch] := by simp
    obtain ⟨hcursor, holder, hends⟩ := (h.claim hm).complete hlast
    refine ⟨hcursor, ?_, ?_⟩
    · intro batch hb
      exact holder batch (List.mem_append_left _ (by simpa [BatchEvent.handed] using hb))
    · intro batch hb
      exact hends batch (List.mem_append_left _ (by simpa [BatchEvent.handed] using hb))

theorem inBounds (h : renderer.Bounds held) (hs : renderer.batchSize < 2 ^ 64)
    (ht : renderer.total < 2 ^ 63) : renderer.InBounds renderer.batchSize := by
  refine ⟨.inr h.cursor.regular, h.cursor.le_total, ?_⟩
  intro hm
  exact h.cursor.sum_lt (by simpa [hasMore] using hm) hs ht

end Renderer.Bounds

section

variable {T : Type} {world after : RenderWorld T} {turn : RenderTurn} {base : Renderer}

theorem Renderer.Moves.total_eq {renderer moved : Renderer} {event : Option BatchEvent}
    (hm : renderer.Moves event moved) : moved.total = renderer.total := by
  cases hm with
  | rest | claim => rfl
  | complete batch =>
    unfold Renderer.completeBatch
    split <;> rfl
  | render => simp [Renderer.completeBatch, Renderer.begun, Renderer.nextBatch, Renderer.total]

theorem RenderStep.nextBatch_of_claims (hs : RenderStep world turn after base)
    (hc : turn.Claims batch) : base.rendered < base.total ∧ batch = base.nextBatch := by
  have hmoves := hs.moves
  rcases hc with he | he
  · rw [he] at hmoves
    exact hmoves.claimed.2
  · rw [he] at hmoves
    exact hmoves.rendered.2

theorem RenderStep.base_bounds (hs : RenderStep world turn after base)
    (h : world.renderer.Bounds world.held) : base.Bounds world.held := by
  cases hn : turn.action.replaces with
  | false =>
    rw [hs.kept hn]
    exact h
  | true =>
    obtain ⟨results, rfl⟩ := hs.renewed hn
    exact h.renew results

theorem RenderStep.after_bounds (hs : RenderStep world turn after base)
    (h : world.renderer.Bounds world.held) : after.renderer.Bounds after.held := by
  rw [hs.held_eq]
  refine (hs.base_bounds h).moves hs.moves ?_
  intro batch he
  obtain ⟨place, -, hb⟩ := hs.place he
  exact List.mem_of_getElem? hb

theorem RenderStep.claims_bounds (hs : RenderStep world turn after base)
    (h : world.renderer.Bounds world.held) (hsize : base.batchSize < 2 ^ 64)
    (htotal : after.renderer.total < 2 ^ 63) (hc : turn.Claims batch) :
    batch.first + base.batchSize < 2 ^ 64 ∧ batch.Within after.renderer.total ∧
      (after.renderer.entriesOf batch).length = batch.size := by
  obtain ⟨hm, rfl⟩ := hs.nextBatch_of_claims hc
  have hbase := hs.base_bounds h
  have hsame := hs.moves.total_eq
  have hwithin : base.nextBatch.Within after.renderer.total := by
    obtain ⟨hle, hend⟩ := hbase.nextBatch_ends hm
    exact ⟨hle, hsame ▸ hend.le_total⟩
  refine ⟨hbase.cursor.sum_lt hm hsize (hsame ▸ htotal), hwithin, ?_⟩
  have hlast : base.nextBatch.last ≤ after.renderer.results.length := hwithin.2
  simp only [Renderer.entriesOf, List.length_take, List.length_drop, Batch.size]
  omega

-- ---------------------------------------------------------------------------
-- Runs
-- ---------------------------------------------------------------------------

variable [Target T]

theorem RenderRun.bounds (h : RenderRun batchSize threshold trace world) :
    world.renderer.Bounds world.held := by
  induction h with
  | start => exact .start batchSize threshold
  | next _ ha ih =>
    obtain ⟨base, hs⟩ := RenderWorld.act_step ha
    exact hs.after_bounds ih

theorem RenderWorld.act_action (ha : world.act action = some (turn, after)) :
    turn.action = action := by
  cases action with
  | replace results | present results | pull trigger =>
    obtain ⟨rfl, -⟩ : _ ∧ _ := by simpa [act, RenderWorld.turn] using ha
    rfl
  | claim =>
    simp only [act, Option.some.injEq] at ha
    split at ha
    · exact (congrArg (·.1.action) ha).symm
    · exact (congrArg (·.1.action) ha).symm
  | complete place =>
    simp only [act, Option.map_eq_some_iff] at ha
    obtain ⟨batch, -, ha⟩ := ha
    exact (congrArg (·.1.action) ha).symm

theorem RenderWorld.act_total (ha : world.act action = some (turn, after)) :
    after.renderer.total = (action.results?.map List.length).getD world.renderer.total := by
  have hkept (hr : action.replaces = false) : after.renderer.total = world.renderer.total := by
    obtain ⟨base, hs⟩ := act_step ha
    rw [hs.moves.total_eq, hs.kept (act_action ha ▸ hr)]
  cases action with
  | replace results =>
    obtain ⟨-, rfl⟩ : _ ∧ _ := by simpa [act, RenderWorld.turn] using ha
    rfl
  | present results =>
    obtain ⟨-, rfl⟩ : _ ∧ _ := by simpa [act, RenderWorld.turn] using ha
    by_cases hr : results = []
    · subst hr
      rfl
    · simp only [Renderer.present_cons _ _ hr]
      exact ((world.renderer.setResults results).moves_renderNext _).total_eq
  | claim | complete | pull => exact hkept rfl

theorem ResultsBelow.earlier (hr : ResultsBelow limit (turn :: trace)) :
    ResultsBelow limit trace :=
  fun turn ht => hr turn (List.mem_cons_of_mem _ ht)

theorem effective_lt (hs : batchSize < 2 ^ 64) : max batchSize 1 < 2 ^ 64 :=
  Nat.max_lt.mpr ⟨hs, Nat.one_lt_two_pow (by decide)⟩

namespace RenderRun

theorem total_lt (h : RenderRun batchSize threshold trace world) (hl : 0 < limit)
    (hr : ResultsBelow limit trace) : world.renderer.total < limit := by
  induction h with
  | start => exact hl
  | @next earlier world action turn after _ ha ih =>
    rw [RenderWorld.act_total ha]
    cases hn : action.results? with
    | none => exact ih hr.earlier
    | some results => exact hr turn List.mem_cons_self results (RenderWorld.act_action ha ▸ hn)

theorem inBounds (h : RenderRun batchSize threshold trace world) (hs : batchSize < 2 ^ 64)
    (hr : ResultsBelow (2 ^ 63) trace) : world.renderer.InBounds (max batchSize 1) := by
  have hword : world.renderer.batchSize < 2 ^ 64 := by
    rw [h.batchSize_eq]
    exact effective_lt hs
  have htotal := h.total_lt (Nat.two_pow_pos 63) hr
  rw [← h.batchSize_eq]
  exact h.bounds.inBounds hword htotal

theorem turn_inBounds (h : RenderRun batchSize threshold trace world) (hs : batchSize < 2 ^ 64)
    (ha : world.act action = some (turn, after)) (hr : ResultsBelow (2 ^ 63) (turn :: trace)) :
    turn.InBounds (max batchSize 1) := by
  obtain ⟨base, hstep⟩ := RenderWorld.act_step ha
  have hsize : base.batchSize = max batchSize 1 := hstep.base_batchSize.trans h.batchSize_eq
  have hword : base.batchSize < 2 ^ 64 := by
    rw [hsize]
    exact effective_lt hs
  have htotal := (h.next ha).total_lt (Nat.two_pow_pos 63) hr
  have hclaims {batch : Batch} (hc : turn.Claims batch) :=
    hstep.claims_bounds h.bounds hword htotal hc
  rw [hsize] at hclaims
  have hbefore := h.inBounds hs hr.earlier
  have hafter := (h.next ha).inBounds hs hr
  rw [← hstep.before_eq] at hbefore
  rw [← hstep.after_eq] at hafter hclaims
  refine ⟨hbefore, hafter, ?_, ?_, ?_⟩
  · intro batch hc
    exact (hclaims hc).1
  · intro batch hc
    exact (hclaims hc).2.1
  · intro batch hc
    exact (hclaims hc).2.2

end RenderRun

/-- As long as no list of results has 2 ^ 63 entries, the cursor of a renderer with a batch size
of 64 bits and the batches that are claimed stay within the results, and no sum of a cursor and
the batch size leaves the word, whatever batches the host completes. -/
theorem run_in_bounds (h : RenderRun batchSize threshold trace world)
    (hs : batchSize < 2 ^ 64) (hr : ResultsBelow (2 ^ 63) trace) :
    world.renderer.InBounds (max batchSize 1) ∧
      (∀ batch ∈ world.held, batch.generation = world.renderer.generation →
        batch.Within world.renderer.total) ∧
      ∀ turn ∈ trace, turn.InBounds (max batchSize 1) := by
  refine ⟨h.inBounds hs hr, ?_, ?_⟩
  · intro batch hb hg
    obtain ⟨hle, hend⟩ := h.bounds.ends batch hb hg
    exact ⟨hle, hend.le_total⟩
  · induction h with
    | start =>
      intro turn ht
      cases ht
    | next hrun ha ih =>
      intro turn ht
      rcases List.mem_cons.mp ht with rfl | ht
      · exact hrun.turn_inBounds hs ha hr
      · exact ih hr.earlier turn ht

end

/-- With the largest word as the batch size the sum is the largest word as well. A batch of
replaced results is completed, and one of the present results twice. -/
theorem run_in_bounds_largest : ∃ trace world,
    RenderRun (T := HtmlPage) (2 ^ 64 - 1) .zero trace world ∧ 2 ^ 64 - 1 < 2 ^ 64 ∧
    ResultsBelow (2 ^ 63) trace ∧
    world.renderer.rendered = 3 ∧ world.held = [⟨1, 0, 2⟩, ⟨3, 0, 3⟩] ∧
    world.renderer.InBounds (max (2 ^ 64 - 1) 1) ∧
    (∀ batch ∈ world.held, batch.generation = world.renderer.generation →
      batch.Within world.renderer.total) ∧
    ∀ turn ∈ trace, turn.InBounds (max (2 ^ 64 - 1) 1) := by
  let entry : Entry := .enumType ⟨"Material", []⟩
  obtain ⟨trace, world, hrun, hend⟩ := RenderRun.of_perform (2 ^ 64 - 1) .zero HtmlPage.empty
    [.replace [entry, entry], .claim, .complete 0, .present [], .replace [entry, entry, entry],
      .complete 0, .claim, .complete 1, .complete 1, .pull .next]
    (fun trace world =>
      trace.all (fun turn => turn.action.results?.all fun results => results.length < 2 ^ 63) &&
      world.renderer.rendered = 3 && world.held = [⟨1, 0, 2⟩, ⟨3, 0, 3⟩])
    (by decide +kernel)
  simp only [Bool.and_eq_true, decide_eq_true_eq] at hend
  obtain ⟨⟨hall, hcursor⟩, hheld⟩ := hend
  have hword : 2 ^ 64 - 1 < 2 ^ 64 := by decide
  have hbelow : ResultsBelow (2 ^ 63) trace := by
    intro turn ht results he
    simpa [he] using List.all_eq_true.mp hall turn ht
  exact ⟨trace, world, hrun, hword, hbelow, hcursor, hheld, run_in_bounds hrun hword hbelow⟩

end RefViewer
