import RefViewer.Card.Targets
import RefViewer.Viewer

/-!
# What a page displays

A page goes with a view when it shows the rendered part of the results, says how much that is,
and has nothing of them beside an error line. Every trigger and every event keeps it so; only
results have to come while no error line is up.
-/

namespace RefViewer

-- ---------------------------------------------------------------------------
-- One batch
-- ---------------------------------------------------------------------------

namespace Renderer

variable {T : Type} [Target T]

def advanced (renderer : Renderer) : Renderer :=
  { renderer with
    rendered := min (renderer.rendered + renderer.batchSize) renderer.total, loadingMore := false }

def upcoming (renderer : Renderer) : List Entry :=
  (renderer.results.drop renderer.rendered).take (renderer.advanced.rendered - renderer.rendered)

theorem renderNext_cases (renderer : Renderer) (target : T) :
    ((renderer.loadingMore = true ∨ renderer.total ≤ renderer.rendered) ∧
      renderer.renderNext target = (0, renderer, target)) ∨
    (renderer.loadingMore = false ∧ renderer.rendered < renderer.total ∧
      (renderer.renderNext target).2 = (renderer.advanced,
        Target.showProgress renderer.advanced.rendered renderer.total
          (Target.append renderer.upcoming target))) := by
  cases hl : renderer.loadingMore with
  | true => exact .inl ⟨.inl rfl, by simp [renderNext, beginBatch?, hl]⟩
  | false =>
    by_cases hm : renderer.rendered < renderer.total
    · have hmore : renderer.hasMore = true := decide_eq_true hm
      have hbegun : renderer.beginBatch? =
          some (⟨renderer.generation, renderer.rendered, renderer.advanced.rendered⟩,
            { renderer with loadingMore := true }) := by
        simp [beginBatch?, hl, hmore, advanced]
      refine .inr ⟨rfl, hm, ?_⟩
      simp [renderNext, hbegun, completeBatch, advanced, upcoming, entriesOf, Batch.size, total]
    · refine .inl ⟨.inr (Nat.not_lt.mp hm), ?_⟩
      simp [renderNext, beginBatch?, hl, hasMore, hm]

theorem take_advanced (renderer : Renderer) (hr : renderer.rendered ≤ renderer.total) :
    renderer.results.take renderer.rendered ++ renderer.upcoming =
      renderer.results.take renderer.advanced.rendered := by
  have hle : renderer.rendered ≤ renderer.advanced.rendered := by
    simp only [advanced]
    omega
  rw [upcoming, ← List.take_add, Nat.add_sub_cancel' hle]

theorem onVisibility_eq (renderer : Renderer) (visible : Bool) (target : T) :
    (renderer.onVisibility visible target).2 = (renderer, target) ∨
      renderer.onVisibility visible target = renderer.renderNext target := by
  unfold onVisibility
  split
  · exact .inr rfl
  · exact .inl rfl

theorem onScroll_eq (renderer : Renderer) (position : ScrollPosition) (target : T) :
    (renderer.onScroll position target).2 = (renderer, target) ∨
      renderer.onScroll position target = renderer.renderNext target := by
  unfold onScroll
  split
  · exact .inr rfl
  · exact .inl rfl

end Renderer

-- ---------------------------------------------------------------------------
-- A page and its renderer
-- ---------------------------------------------------------------------------

/-- The page shows what the renderer has rendered. A renderer counts what it was given to
show, and says that there are no results only after that. -/
structure HtmlPage.Shows (page : HtmlPage) (renderer : Renderer) : Prop where
  closed : renderer.loadingMore = false
  within : renderer.rendered ≤ renderer.total
  cards : page.cards = (renderer.results.take renderer.rendered).map Card.html
  indicator : page.indicator =
    if renderer.rendered < renderer.total then
      some ("Showing " ++ toString renderer.rendered ++ " of " ++ toString renderer.total ++
        " results. Scroll to load more...")
    else none
  noResults : page.noResults = true ↔ renderer.generation ≠ 0 ∧ renderer.results = []

namespace HtmlPage.Shows

variable {page : HtmlPage} {renderer : Renderer}

theorem start (batchSize : Nat) (threshold : Number) :
    HtmlPage.empty.Shows (.new batchSize threshold) :=
  ⟨rfl, Nat.le_refl 0, rfl, rfl, ⟨nofun, fun h => absurd rfl h.1⟩⟩

theorem renderNext (h : page.Shows renderer) :
    (renderer.renderNext page).2.2.Shows (renderer.renderNext page).2.1 := by
  rcases renderer.renderNext_cases page with ⟨-, he⟩ | ⟨-, -, he⟩
  · rw [he]
    exact h
  · rw [he]
    refine ⟨rfl, ?_, ?_, rfl, h.noResults⟩
    · exact Nat.min_le_right _ _
    · have hcards : (Target.append renderer.upcoming page).cards =
          page.cards ++ renderer.upcoming.map Card.html := rfl
      change (Target.append renderer.upcoming page).cards = _
      rw [hcards, h.cards, ← List.map_append, renderer.take_advanced h.within]
      rfl

/-- A new result rebuilds the page, whatever was on it. -/
theorem present (page : HtmlPage) (renderer : Renderer) (results : List Entry) :
    (renderer.present results page).2.2.Shows (renderer.present results page).2.1 ∧
      (renderer.present results page).2.1.results = results := by
  unfold Renderer.present
  simp only
  split
  · next hn =>
    subst hn
    exact ⟨⟨rfl, Nat.le_refl 0, rfl, rfl, ⟨fun _ => ⟨Nat.succ_ne_zero _, rfl⟩, fun _ => rfl⟩⟩, rfl⟩
  · next hn =>
    have hlength : 0 < (renderer.setResults results).total := List.length_pos_iff.mpr hn
    rcases (renderer.setResults results).renderNext_cases (Target.clear page) with
      ⟨hnone | hnone, -⟩ | ⟨-, -, he⟩
    · cases hnone
    · exact absurd hlength (Nat.not_lt.mpr hnone)
    · rw [he]
      refine ⟨⟨rfl, Nat.min_le_right _ _, ?_, rfl, ?_⟩, rfl⟩
      · exact congrArg (List.map Card.html)
          ((renderer.setResults results).take_advanced (Nat.zero_le _))
      · exact ⟨nofun, fun h => absurd h.2 hn⟩

end HtmlPage.Shows

-- ---------------------------------------------------------------------------
-- A view
-- ---------------------------------------------------------------------------

/-- The page of a view shows its results, the counts are theirs, and an error line stands
alone. -/
structure View.Displays (view : View HtmlPage) : Prop where
  page : view.target.Shows view.renderer
  stats : view.stats = .ofEntries view.renderer.results
  alone : view.error ≠ none → view.renderer.results = []

namespace View.Displays

variable {view : View HtmlPage}

theorem start (batchSize : Nat) (threshold : Number) :
    (View.new (.new batchSize threshold) HtmlPage.empty).Displays :=
  ⟨.start batchSize threshold, rfl, fun _ => rfl⟩

theorem clearError (h : view.Displays) : View.Displays { view with error := none } :=
  ⟨h.page, h.stats, fun he => absurd rfl he⟩

theorem present (view : View HtmlPage) (results : List Entry)
    (ha : view.error ≠ none → results = []) : (view.present results).Displays := by
  obtain ⟨hpage, hresults⟩ := HtmlPage.Shows.present view.target view.renderer results
  refine ⟨hpage, ?_, fun he => ?_⟩
  · exact congrArg Stats.ofEntries hresults.symm
  · exact hresults.trans (ha he)

theorem failed (view : View HtmlPage) (failure : Failure) :
    (view.hear (.failed failure)).Displays :=
  present _ [] fun _ => rfl

/-- Results may only come while no error line is up. -/
theorem respond (h : view.Displays) (response : Response)
    (hn : ∀ results, response = .filterComplete results → view.error = none) :
    (view.hear (Channel.eventOf response)).Displays := by
  cases response with
  | initComplete => exact h
  | filterComplete results => exact present view results fun he => absurd (hn results rfl) he
  | filterError error => exact failed view _

theorem trigger (h : view.Displays) {shown : Nat × Renderer × HtmlPage}
    (hs : shown.2 = (view.renderer, view.target) ∨ shown = view.renderer.renderNext view.target) :
    View.Displays { view with renderer := shown.2.1, target := shown.2.2 } := by
  rcases hs with he | rfl
  · rw [he]
    exact h
  · have hpage := h.page.renderNext
    have hsame : (view.renderer.renderNext view.target).2.1.results = view.renderer.results := by
      rcases view.renderer.renderNext_cases view.target with ⟨-, he⟩ | ⟨-, -, he⟩
      · rw [he]
      · rw [he]
        rfl
    refine ⟨hpage, ?_, fun he => ?_⟩
    · exact h.stats.trans (congrArg Stats.ofEntries hsame.symm)
    · exact hsame.trans (h.alone he)

end View.Displays

end RefViewer
