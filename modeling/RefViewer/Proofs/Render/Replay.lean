import RefViewer.Card.Targets
import RefViewer.Proofs.Render.Ledger

/-!
# Batches completed again

A batch can be completed as often as the host likes, and only the results it was claimed from
are checked. `advances_iff_regular`: the cursor stays or advances and the open batch stays
open exactly as long as every completed batch is the open one, the latest one again, or of
earlier results. An older batch takes the cursor back: `replay_takes_back`.
-/

namespace RefViewer

/-- Within the same results the cursor does not go back, and only the batch in progress, the
last one claimed, ends the progress. -/
def RenderTurn.Advances (turn : RenderTurn) (ledger : Ledger) : Prop :=
  turn.action.replaces = false →
    turn.before.rendered ≤ turn.after.rendered ∧
    ∀ batch, turn.event = some (.completed batch) → ledger.claims.getLast? ≠ some batch →
      turn.before.loadingMore = true → turn.after.loadingMore = true

def Advances : List RenderTurn → Prop
  | [] => True
  | turn :: earlier => Advances earlier ∧ turn.Advances (Ledger.ofTrace earlier)

instance RenderTurn.decidableCompleted (turn : RenderTurn) {p : Batch → Prop} [DecidablePred p] :
    Decidable (∀ batch, turn.event = some (.completed batch) → p batch) :=
  match h : turn.event with
  | some (.completed batch) => decidable_of_iff (p batch) (by simp)
  | none | some (.claimed _) | some (.rendered _) => isTrue (by simp)

instance (turn : RenderTurn) (ledger : Ledger) : Decidable (turn.Advances ledger) :=
  inferInstanceAs (Decidable (_ → _ ∧ _))

instance (ledger : Ledger) (batch : Batch) : Decidable (ledger.Allows batch) :=
  inferInstanceAs (Decidable (_ → _))

instance decidableAdvances : (trace : List RenderTurn) → Decidable (Advances trace)
  | [] => isTrue trivial
  | turn :: earlier =>
    have := decidableAdvances earlier
    inferInstanceAs (Decidable (_ ∧ turn.Advances _))

instance decidableRegular : (trace : List RenderTurn) → Decidable (Regular trace)
  | [] => isTrue trivial
  | turn :: earlier =>
    have := decidableRegular earlier
    inferInstanceAs (Decidable (_ ∧ ∀ batch, turn.event = some (.completed batch) → _))

theorem Renderer.Moves.completed {renderer moved : Renderer} {batch : Batch}
    (hm : renderer.Moves (some (.completed batch)) moved) :
    moved = (renderer.completeBatch batch).2 := by
  cases hm
  rfl

namespace Ledger.Settles

variable {ledger : Ledger} {renderer : Renderer} {settled : List Batch} {batch : Batch}

theorem completeBatch_claimed (h : ledger.Settles renderer settled) (hb : batch ∈ ledger.claims) :
    (renderer.completeBatch batch).2 =
      { renderer with rendered := batch.last, loadingMore := false } := by
  obtain ⟨hg, hl⟩ := h.mem_claims hb
  rw [Renderer.completeBatch, if_pos hg, Nat.min_eq_left hl]

theorem getLast?_claims (h : ledger.Settles renderer settled)
    (hl : renderer.loadingMore = true) : ledger.claims.getLast? = some renderer.nextBatch := by
  simp [h.claims, Renderer.openBatch?, hl]

theorem getLast?_completions (h : ledger.Settles renderer settled) (hb : batch ∈ settled)
    (hr : renderer.rendered ≤ batch.last) : ledger.completions.getLast? = some batch := by
  have hne : ledger.completions ≠ [] := List.ne_nil_of_mem (h.completions.mpr hb)
  obtain ⟨latest, hlatest⟩ : ∃ latest, ledger.completions.getLast? = some latest :=
    ⟨_, List.getLast?_eq_some_getLast hne⟩
  have hsettled : latest ∈ settled := h.completions.mp (List.mem_of_getLast? hlatest)
  have hcursor : latest.last = renderer.rendered := by
    rw [h.cursor, Batch.endOf, hlatest]
    rfl
  have hend : latest.last = batch.last :=
    Nat.le_antisymm (hcursor ▸ hr) (hcursor ▸ (h.holds hb).le_last)
  rw [hlatest, h.tiles.eq_of_last h.size_pos hsettled hb hend]

/-- What neither takes the cursor back nor ends the progress of another batch is in order. -/
theorem allows_of_advances (h : ledger.Settles renderer settled)
    (hr : renderer.rendered ≤ (renderer.completeBatch batch).2.rendered)
    (hk : ledger.claims.getLast? ≠ some batch → renderer.loadingMore = true →
      (renderer.completeBatch batch).2.loadingMore = true) : ledger.Allows batch := by
  intro hb
  rw [h.completeBatch_claimed hb] at hr hk
  rw [h.openBatches]
  cases hl : renderer.loadingMore with
  | true =>
    have hlast : ledger.claims.getLast? = some batch := by
      by_contra hne
      simpa using hk hne hl
    rw [h.getLast?_claims hl] at hlast
    exact .inl (by simpa [Renderer.openBatch?, hl] using (Option.some.inj hlast).symm)
  | false =>
    have hsettled : batch ∈ settled := by simpa [h.claims, Renderer.openBatch?, hl] using hb
    exact .inr ⟨by simp [Renderer.openBatch?, hl], h.getLast?_completions hsettled hr⟩

theorem advances_of_allows (h : ledger.Settles renderer settled) (hb : batch ∈ ledger.claims)
    (ha : ledger.Allows batch) :
    renderer.rendered ≤ (renderer.completeBatch batch).2.rendered ∧
      (ledger.claims.getLast? ≠ some batch → renderer.loadingMore = true →
        (renderer.completeBatch batch).2.loadingMore = true) := by
  rw [h.completeBatch_claimed hb]
  rcases ha hb with ho | ⟨hnone, hc⟩
  · rw [h.openBatches] at ho
    cases hl : renderer.loadingMore with
    | false => simp [Renderer.openBatch?, hl] at ho
    | true =>
      obtain rfl : batch = renderer.nextBatch := by simpa [Renderer.openBatch?, hl] using ho
      refine ⟨?_, fun hne => absurd (h.getLast?_claims hl) hne⟩
      have hm := h.more hl
      simp only [Renderer.nextBatch]
      omega
  · have hcursor : renderer.rendered = batch.last := by
      rw [h.cursor, Batch.endOf, hc]
      rfl
    refine ⟨Nat.le_of_eq hcursor, fun _ hl => ?_⟩
    rw [h.openBatches] at hnone
    simp [Renderer.openBatch?, hl] at hnone

end Ledger.Settles

section

variable {T : Type} {world after : RenderWorld T} {turn : RenderTurn}

theorem Renderer.Moves.rendered_le {renderer moved : Renderer} {event : Option BatchEvent}
    (hm : renderer.Moves event moved) (hn : ∀ batch, event ≠ some (.completed batch)) :
    renderer.rendered ≤ moved.rendered := by
  cases hm with
  | rest | claim => exact Nat.le_refl _
  | complete batch => exact absurd rfl (hn batch)
  | render _ hm =>
    have hnext : (renderer.begun.completeBatch renderer.nextBatch).2.rendered =
        min (renderer.rendered + renderer.batchSize) renderer.total := by
      simp [Renderer.completeBatch, Renderer.begun, Renderer.nextBatch, Renderer.total]
    rw [hnext]
    omega

theorem RenderStep.completed {batch : Batch} (hs : RenderStep world turn after base)
    (he : turn.event = some (.completed batch)) :
    turn.action.replaces = false ∧ batch ∈ world.held ∧
      after.renderer = (world.renderer.completeBatch batch).2 := by
  obtain ⟨place, hp, hb⟩ := hs.place he
  have hkept : turn.action.replaces = false := by rw [hp]; rfl
  have hmoves := hs.moves
  rw [he, hs.kept hkept] at hmoves
  exact ⟨hkept, List.mem_of_getElem? hb, hmoves.completed⟩

theorem RenderStep.allows_of_advances {ledger : Ledger} {batch : Batch}
    (hs : RenderStep world turn after base) (ht : world.Tallies ledger)
    (ha : turn.Advances ledger) (he : turn.event = some (.completed batch)) :
    ledger.Allows batch := by
  obtain ⟨settled, hsettles⟩ := ht.settles
  obtain ⟨hkept, -, hafter⟩ := hs.completed he
  obtain ⟨hcursor, hopen⟩ := ha hkept
  rw [hs.before_eq, hs.after_eq, hafter] at hcursor hopen
  exact hsettles.allows_of_advances hcursor (hopen batch he)

theorem RenderStep.advances_of_allows {ledger : Ledger} (hs : RenderStep world turn after base)
    (ht : world.Tallies ledger)
    (ha : ∀ batch, turn.event = some (.completed batch) → ledger.Allows batch) :
    turn.Advances ledger := by
  obtain ⟨settled, hsettles⟩ := ht.settles
  intro hkept
  rw [hs.before_eq, hs.after_eq]
  by_cases hn : ∃ batch, turn.event = some (.completed batch)
  · obtain ⟨batch, he⟩ := hn
    obtain ⟨-, hheld, hafter⟩ := hs.completed he
    have hadvances : world.renderer.rendered ≤ after.renderer.rendered ∧
        (ledger.claims.getLast? ≠ some batch → world.renderer.loadingMore = true →
          after.renderer.loadingMore = true) := by
      by_cases hg : batch.generation = world.renderer.generation
      · rw [hafter]
        exact hsettles.advances_of_allows (ht.present hheld hg) (ha batch he)
      · have hsame : after.renderer = world.renderer := by
          rw [hafter, Renderer.completeBatch, if_neg hg]
        rw [hsame]
        exact ⟨Nat.le_refl _, fun _ hl => hl⟩
    refine ⟨hadvances.1, fun other ho => ?_⟩
    obtain rfl : batch = other := by simpa [he] using ho
    exact hadvances.2
  · have hmoves := hs.kept hkept ▸ hs.moves
    exact ⟨hmoves.rendered_le fun batch he => hn ⟨batch, he⟩, fun batch he => absurd ⟨batch, he⟩ hn⟩

variable [Target T]

/-- The cursor keeps advancing and the open batch stays open exactly as long as the host
completes no older batch of the present results again, and then no entry is claimed twice. -/
theorem advances_iff_regular (h : RenderRun batchSize threshold trace world) :
    (Advances trace ↔ Regular trace) ∧
    (Advances trace → (Ledger.ofTrace trace).claims.Pairwise fun a b => a.last ≤ b.first) := by
  have hiff : Advances trace ↔ Regular trace := by
    induction h with
    | start => exact .rfl
    | next hrun ha ih =>
      obtain ⟨base, hs⟩ := RenderWorld.act_step ha
      constructor
      · rintro ⟨hearlier, hturn⟩
        have hr := ih.mp hearlier
        exact ⟨hr, fun batch he => hs.allows_of_advances (hrun.tallies hr) hturn he⟩
      · rintro ⟨hr, hturn⟩
        exact ⟨ih.mpr hr, hs.advances_of_allows (hrun.tallies hr) hturn⟩
  refine ⟨hiff, fun ha => ?_⟩
  obtain ⟨settled, hs⟩ := (h.tallies (hiff.mp ha)).settles
  obtain ⟨last, ht⟩ := hs.tiles_claims
  exact ht.pairwise hs.size_pos

end

/-- The latest batch is completed again, and a batch of replaced results while another is
open. -/
theorem advances_iff_regular_after_repeats : ∃ trace world,
    RenderRun (T := HtmlPage) 1 .zero trace world ∧
    (Ledger.ofTrace trace).claims = [⟨2, 0, 1⟩, ⟨2, 1, 2⟩] ∧ Regular trace ∧ Advances trace ∧
    (Ledger.ofTrace trace).claims.Pairwise fun a b => a.last ≤ b.first := by
  let entry : Entry := .enumType ⟨"Material", []⟩
  obtain ⟨trace, world, hrun, hend⟩ := RenderRun.of_perform 1 .zero HtmlPage.empty
    [.replace [entry], .claim, .replace [entry, entry, entry], .claim, .complete 1, .complete 1,
      .claim, .complete 0]
    (fun trace _ => (Ledger.ofTrace trace).claims = [⟨2, 0, 1⟩, ⟨2, 1, 2⟩] && Regular trace)
    (by decide +kernel)
  simp only [Bool.and_eq_true, decide_eq_true_eq] at hend
  obtain ⟨hiff, hdisjoint⟩ := advances_iff_regular hrun
  have hadvances := hiff.mpr hend.2
  exact ⟨trace, world, hrun, hend.1, hend.2, hadvances, hdisjoint hadvances⟩

/-- While the third batch is open, the first one is completed again: the cursor goes back to
its end and the third batch is not open any more. -/
theorem replay_takes_back : ¬ ∀ trace world,
    RenderRun (T := HtmlPage) 1 .zero trace world → Advances trace := by
  intro hall
  let entry : Entry := .enumType ⟨"Material", []⟩
  obtain ⟨trace, world, hrun, hend⟩ := RenderRun.of_perform 1 .zero HtmlPage.empty
    [.replace [entry, entry, entry], .claim, .complete 0, .claim, .complete 1, .claim,
      .complete 0]
    (fun trace _ => !Advances trace)
    (by decide +kernel)
  exact absurd (hall trace world hrun) (by simpa using hend)

end RefViewer
