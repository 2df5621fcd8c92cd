import RefViewer.Card.Targets
import RefViewer.Proofs.Render.Ledger

/-!
# Batches in order

`run_orderly`: as long as every claimed batch is completed at most once, the batches claimed
from one result lie one behind the other from its start, at most one of them is open, and
each trigger renders at most one batch, with exactly the entries that it claimed.
-/

namespace RefViewer

def RenderTurn.completedPlace (turn : RenderTurn) : Option Nat :=
  match turn.action with
  | .complete place => some place
  | _ => none

def CompletesOnce (trace : List RenderTurn) : Prop :=
  (trace.filterMap RenderTurn.completedPlace).Nodup

def Renderer.renderTimes {T : Type} [Target T] : Nat → Renderer → T → Renderer × T
  | 0, renderer, target => (renderer, target)
  | count + 1, renderer, target =>
    let (_, renderer, target) := renderer.renderNext target
    renderTimes count renderer target

/-- One batch is claimed and completed, and the target gets the entries of its range. -/
def Renderer.RendersOne {T : Type} [Target T] (renderer : Renderer) (target : T)
    (outcome : Nat × Renderer × T) : Prop :=
  ∃ batch begun done, renderer.beginBatch? = some (batch, begun) ∧
    begun.completeBatch batch = (true, done) ∧
    outcome = (batch.size, done, Target.showProgress done.rendered done.total
      (Target.append ((renderer.results.drop batch.first).take batch.size) target))

/-- How a renderer with batches of a size stands to the batches that were claimed. -/
structure RenderWorld.Orderly {T : Type} [Target T] (world : RenderWorld T) (ledger : Ledger)
    (size : Nat) : Prop where
  nonempty : ∀ batch ∈ ledger.claims, batch.first < batch.last
  size_le : ∀ batch ∈ ledger.claims, batch.size ≤ size
  within : ∀ batch ∈ ledger.claims, batch.last ≤ world.renderer.total
  fromStart : ∀ batch, ledger.claims.head? = some batch → batch.first = 0
  consecutive : ledger.claims.IsChain fun a b => a.last = b.first
  disjoint : ledger.claims.Pairwise fun a b => a.last ≤ b.first
  single : ledger.openBatches.length ≤ 1
  loading : world.renderer.loadingMore = true ↔ ledger.openBatches ≠ []
  quiet : ledger.openBatches ≠ [] →
    ∀ trigger, world.renderer.pull trigger world.target = (0, world.renderer, world.target)
  cursor : world.renderer.rendered = Batch.endOf ledger.completions
  former : ∀ batch ∈ ledger.former, world.renderer.completeBatch batch = (false, world.renderer)
  handed : ∀ trigger,
    world.renderer.pull trigger world.target = (0, world.renderer, world.target) ∨
    world.renderer.RendersOne world.target (world.renderer.pull trigger world.target)
  presented : ∀ results,
    let renewed := world.renderer.setResults results
    let cleared := Target.clear world.target
    let outcome := world.renderer.present results world.target
    if results = [] then outcome = (0, renewed, Target.showNoResults cleared)
    else renewed.RendersOne cleared outcome
  /-- Without an open batch every call renders a batch until nothing is left. -/
  calls : ledger.openBatches = [] → ∀ (count : Nat) (target : T),
    (world.renderer.renderTimes count target).1.rendered =
      min world.renderer.total (world.renderer.rendered + count * size)

section

variable {T : Type} [Target T] {world : RenderWorld T} {ledger : Ledger}

-- ---------------------------------------------------------------------------
-- Completing once is completing in order
-- ---------------------------------------------------------------------------

theorem Ledger.mem_completions_record {event : Option BatchEvent}
    (hb : batch ∈ (event.elim ledger ledger.record).completions) :
    batch ∈ ledger.completions ∨ event = some (.completed batch) ∨
      event = some (.rendered batch) := by
  have hcomplete (ledger : Ledger) {other : Batch}
      (hb : batch ∈ (ledger.complete other).completions) :
      batch ∈ ledger.completions ∨ other = batch := by
    unfold Ledger.complete at hb
    split at hb
    · rcases List.mem_append.mp hb with hb | hb
      · exact .inl hb
      · exact .inr (List.mem_singleton.mp hb).symm
    · exact .inl hb
  rcases event with - | ⟨other⟩ | ⟨other⟩ | ⟨other⟩
  · exact .inl hb
  · exact .inl hb
  · exact (hcomplete ledger hb).imp id fun he => .inl (by rw [he])
  · exact (hcomplete (ledger.claim other) hb).imp id fun he => .inr (by rw [he])

/-- A batch that is held and completed was completed from the place where it is held. -/
theorem RenderRun.spent (h : RenderRun batchSize threshold trace world) (hr : Regular trace)
    (hp : world.held[place]? = some batch)
    (hb : batch ∈ (Ledger.ofTrace trace).completions) :
    place ∈ trace.filterMap RenderTurn.completedPlace := by
  induction h generalizing place batch with
  | start => simp at hp
  | @next earlier world action turn after hrun ha ih =>
    obtain ⟨base, hs⟩ := RenderWorld.act_step ha
    have htallies := hrun.tallies hr.1
    have hbase := htallies.atBase hs
    -- A batch at the cursor is neither held nor completed.
    have hnew (he : turn.event = some (.rendered batch)) : batch ∉ world.held := by
      have hmoves := hs.moves
      rw [he] at hmoves
      obtain ⟨hl, hm, rfl⟩ := hmoves.rendered
      exact hbase.nextBatch_not_mem hl hm
    rcases Ledger.mem_completions_record hb with hb | he | he
    · have hkept : turn.action.replaces = false := by
        cases hn : turn.action.replaces with
        | false => rfl
        | true => simp [hn, Ledger.renew] at hb
      rw [hkept] at hb
      have hheld : world.held[place]? = some batch := by
        refine (hs.held_cases hp).resolve_right fun he => ?_
        have hmoves := hs.moves
        rw [he] at hmoves
        obtain ⟨hl, hm, rfl⟩ := hmoves.claimed
        obtain ⟨settled, hsettles⟩ := hbase.settles
        rw [hkept] at hsettles
        exact hsettles.nextBatch_not_mem hm (hsettles.completions.mp hb)
      rw [List.filterMap_cons]
      split
      · exact ih hr.1 hheld hb
      · exact List.mem_cons_of_mem _ (ih hr.1 hheld hb)
    · obtain ⟨other, hother, hat⟩ := hs.place he
      have hheld : world.held[place]? = some batch :=
        (hs.held_cases hp).resolve_right (by simp [he])
      have hplace : other = place :=
        (List.getElem?_inj (List.getElem?_eq_some_iff.mp hat).1 htallies.nodup).mp
          (hat.trans hheld.symm)
      exact List.mem_filterMap.mpr ⟨turn, List.mem_cons_self, by
        rw [RenderTurn.completedPlace, hother, hplace]⟩
    · exact absurd (List.mem_of_getElem? ((hs.held_cases hp).resolve_right (by simp [he])))
        (hnew he)

theorem RenderRun.regular_of_once (h : RenderRun batchSize threshold trace world)
    (once : CompletesOnce trace) : Regular trace := by
  induction h with
  | start => trivial
  | @next earlier world action turn after hrun ha ih =>
    obtain ⟨base, hs⟩ := RenderWorld.act_step ha
    have honce : CompletesOnce earlier := by
      rw [CompletesOnce, List.filterMap_cons] at once
      split at once
      · exact once
      · exact (List.nodup_cons.mp once).2
    refine ⟨ih honce, fun batch he hclaims => .inl ?_⟩
    obtain ⟨place, hp, hb⟩ := hs.place he
    have hunspent : place ∉ earlier.filterMap RenderTurn.completedPlace := by
      rw [CompletesOnce, List.filterMap_cons, RenderTurn.completedPlace, hp] at once
      exact (List.nodup_cons.mp once).1
    have hnew : batch ∉ (Ledger.ofTrace earlier).completions :=
      fun hc => hunspent (hrun.spent (ih honce) hb hc)
    simp [Ledger.openBatches, hclaims, hnew]

-- ---------------------------------------------------------------------------
-- Triggers
-- ---------------------------------------------------------------------------

theorem Renderer.pull_none {renderer : Renderer} (hb : renderer.beginBatch? = none)
    (trigger : Trigger) (target : T) :
    renderer.pull trigger target = (0, renderer, target) := by
  rw [Renderer.pull_eq, Renderer.renderNext_none hb]
  exact ite_self _

theorem Renderer.completeBatch_next (renderer : Renderer) :
    renderer.begun.completeBatch renderer.nextBatch = (true, { renderer with
      rendered := min (renderer.rendered + renderer.batchSize) renderer.total,
      loadingMore := false }) := by
  simp [Renderer.completeBatch, Renderer.begun, Renderer.nextBatch, Renderer.total]

theorem Renderer.rendersOne {renderer : Renderer} (hl : renderer.loadingMore = false)
    (hm : renderer.rendered < renderer.total) (target : T) :
    renderer.RendersOne target (renderer.renderNext target) := by
  rcases renderer.beginBatch?_cases with ⟨hc, -⟩ | ⟨-, -, hb⟩
  · rcases hc with hc | hc
    · simp [hl] at hc
    · exact absurd hm (Nat.not_lt.mpr hc)
  · refine ⟨_, _, _, hb, renderer.completeBatch_next, ?_⟩
    rw [Renderer.renderNext_some hb, renderer.completeBatch_next]
    rfl

theorem Renderer.renderTimes_rendered (count : Nat) {renderer : Renderer}
    (hl : renderer.loadingMore = false) (hr : renderer.rendered ≤ renderer.total) (target : T) :
    (renderer.renderTimes count target).1.rendered =
      min renderer.total (renderer.rendered + count * renderer.batchSize) := by
  induction count generalizing renderer target with
  | zero => simpa [renderTimes] using (Nat.min_eq_right hr).symm
  | succ count ih =>
    rcases renderer.beginBatch?_cases with ⟨hc, hb⟩ | ⟨-, hm, hb⟩
    · have hdone : renderer.rendered = renderer.total := by
        rcases hc with hc | hc
        · simp [hl] at hc
        · exact Nat.le_antisymm hr hc
      simp only [renderTimes, Renderer.renderNext_none hb, ih hl hr]
      omega
    · simp only [renderTimes, Renderer.renderNext_some hb, renderer.completeBatch_next]
      rw [ih rfl (Nat.min_le_right _ _), Nat.succ_mul]
      simp only [Renderer.total]
      omega

-- ---------------------------------------------------------------------------
-- Runs
-- ---------------------------------------------------------------------------

theorem RenderRun.batchSize_eq (h : RenderRun batchSize threshold trace world) :
    world.renderer.batchSize = max batchSize 1 := by
  induction h with
  | start => rfl
  | next _ ha ih =>
    obtain ⟨base, hs⟩ := RenderWorld.act_step ha
    rw [hs.moves.batchSize_eq, hs.base_batchSize, ih]

theorem RenderWorld.Tallies.orderly (h : world.Tallies ledger) :
    world.Orderly ledger world.renderer.batchSize := by
  obtain ⟨settled, hs⟩ := h.settles
  obtain ⟨last, ht⟩ := hs.tiles_claims
  have hholds (batch : Batch) (hb : batch ∈ ledger.claims) := ht.mem hs.size_pos hb
  have hopen : ledger.openBatches ≠ [] ↔ world.renderer.loadingMore = true := by
    rw [hs.openBatches, Renderer.openBatch?]
    split <;> simp_all
  exact {
    nonempty := fun batch hb => (hholds batch hb).nonempty
    size_le := fun batch hb => (hholds batch hb).size_le
    within := fun batch hb => (hholds batch hb).le_total
    fromStart := fun batch hb => ht.head hb
    consecutive := ht.consecutive
    disjoint := ht.pairwise hs.size_pos
    single := by
      rw [hs.openBatches, Renderer.openBatch?]
      split <;> simp
    loading := hopen.symm
    quiet := fun ho trigger => by
      have hnone : world.renderer.beginBatch? = none := by
        simp [Renderer.beginBatch?, hopen.mp ho]
      exact Renderer.pull_none hnone trigger world.target
    cursor := hs.cursor
    former := fun batch hb => by
      rw [Renderer.completeBatch, if_neg (Nat.ne_of_lt (h.former hb))]
    handed := fun trigger => by
      rcases world.renderer.beginBatch?_cases with ⟨-, hb⟩ | ⟨hl, hm, -⟩
      · exact .inl (Renderer.pull_none hb trigger world.target)
      · rw [Renderer.pull_eq]
        split
        · exact .inr (Renderer.rendersOne hl hm world.target)
        · exact .inl rfl
    presented := fun results => by
      simp only
      split
      · next he =>
        subst he
        rfl
      · next hne =>
        rw [Renderer.present_cons _ _ hne]
        exact Renderer.rendersOne rfl (List.length_pos_iff.mpr hne) _
    calls := fun ho count target => by
      have hl : world.renderer.loadingMore = false := by
        simpa using mt hopen.mpr (not_not.mpr ho)
      exact Renderer.renderTimes_rendered count hl
        (hs.tiles.le_total (Nat.zero_le _)) target }

/-- A host that completes no batch twice gets the results batch by batch, each entry once. -/
theorem run_orderly (h : RenderRun batchSize threshold trace world)
    (once : CompletesOnce trace) :
    world.Orderly (Ledger.ofTrace trace) (max batchSize 1) := by
  rw [← h.batchSize_eq]
  exact (h.tallies (h.regular_of_once once)).orderly

end

/-- A batch of replaced results is still open when the host completes it, to no effect; the
batches of the new results follow each other. -/
theorem run_orderly_after_stale : ∃ trace world,
    RenderRun (T := HtmlPage) 2 .zero trace world ∧ CompletesOnce trace ∧
    (Ledger.ofTrace trace).former = [⟨1, 0, 2⟩] ∧
    (Ledger.ofTrace trace).claims = [⟨2, 0, 2⟩, ⟨2, 2, 3⟩] ∧
    world.Orderly (Ledger.ofTrace trace) 2 := by
  let entry : Entry := .enumType ⟨"Material", []⟩
  obtain ⟨trace, world, hrun, hend⟩ := RenderRun.of_perform 2 .zero HtmlPage.empty
    [.replace [entry, entry], .claim, .replace [entry, entry, entry], .complete 0, .claim,
      .complete 1, .pull .next]
    (fun trace _ => (trace.filterMap RenderTurn.completedPlace).Nodup &&
      (Ledger.ofTrace trace).former = [⟨1, 0, 2⟩] &&
      (Ledger.ofTrace trace).claims = [⟨2, 0, 2⟩, ⟨2, 2, 3⟩])
    (by decide +kernel)
  simp only [Bool.and_eq_true, decide_eq_true_eq] at hend
  obtain ⟨⟨honce, hformer⟩, hclaims⟩ := hend
  exact ⟨trace, world, hrun, honce, hformer, hclaims, run_orderly hrun honce⟩

end RefViewer
