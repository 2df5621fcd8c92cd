import RefViewer.Proofs.Channel.Pairing
import RefViewer.Proofs.Viewer.World

/-!
# A viewer stays consistent

A viewer that waits for results has no error line, since every submission takes it away, and
results only come while it waits. So what its page displays always goes with its state:
`run_displays`, whatever viewer and worker do.
-/

namespace RefViewer

structure Steady (viewer : Viewer HtmlPage) : Prop where
  displays : viewer.view.Displays
  waiting : viewer.channel.state = .filtering → viewer.view.error = none

namespace Steady

variable {viewer : Viewer HtmlPage}

theorem settled_ne_filtering (state : ChannelState) : Channel.settled state ≠ .filtering := by
  cases state <;> simp [Channel.settled]

theorem start (created : Viewer.new channel HtmlPage.empty settings = .ok viewer) :
    Steady viewer := by
  cases created
  exact ⟨.start settings.batchSize settings.scrollThreshold, fun _ => rfl⟩

-- ---------------------------------------------------------------------------
-- The channel and what it tells
-- ---------------------------------------------------------------------------

theorem lose (viewer : Viewer HtmlPage) (fault : TransportFault) (channel : Channel) :
    Steady (viewer.follow [.failed fault.failure] channel.lost) :=
  ⟨.failed viewer.view _, fun hs => absurd hs (settled_ne_filtering channel.state)⟩

/-- A submission needs nothing of the error line, which it takes away. -/
theorem submit (viewer : Viewer HtmlPage) (h : viewer.view.Displays) : Steady viewer.submit.2 := by
  have hcleared := h.clearError
  unfold Viewer.submit
  simp only
  rcases viewer.channel.filter_cases viewer.query with ⟨-, he⟩ | ⟨-, -, he⟩ | ⟨-, -, he⟩
  · rw [he]
    exact ⟨hcleared, fun _ => rfl⟩
  · rw [he]
    exact ⟨hcleared, fun _ => rfl⟩
  · rw [he]
    exact lose { viewer with view := { viewer.view with error := none } } _ _

theorem load (h : Steady viewer) (dataset : Dataset) : Steady (viewer.load dataset).2 := by
  unfold Viewer.load
  simp only
  rcases viewer.channel.load_cases dataset with ⟨-, he⟩ | ⟨-, -, he⟩ | ⟨-, -, he⟩
  · rw [he]
    exact ⟨h.displays, h.waiting⟩
  · rw [he]
    exact ⟨h.displays, nofun⟩
  · rw [he]
    exact lose { viewer with metadata := dataset.metadata } _ _

theorem disconnect (h : Steady viewer) : Steady viewer.disconnect := by
  unfold Viewer.disconnect
  rcases viewer.channel.disconnect_cases with ⟨-, he⟩ | ⟨-, he⟩
  · rw [he]
    exact ⟨h.displays, h.waiting⟩
  · rw [he]
    exact lose viewer _ _

theorem restart (h : Steady viewer) : Steady viewer.restart.2 := by
  unfold Viewer.restart
  simp only
  cases hd : viewer.channel.dataset with
  | none =>
    rw [Channel.restart_none hd]
    exact ⟨h.displays, nofun⟩
  | some dataset =>
    rw [Channel.restart_some hd]
    exact ⟨h.displays, nofun⟩

theorem deliver (h : Steady viewer)
    (due : Due dataset query viewer.channel.state (.response response)) (rest : List Response) :
    Steady (viewer.follow [Channel.eventOf response] (viewer.channel.delivered rest)) := by
  refine ⟨h.displays.respond response ?_, nofun⟩
  rintro results rfl
  exact h.waiting due.1

theorem andStart {events : List Event} {channel : Channel}
    (h : Steady (viewer.follow events channel)) : Steady (viewer.followAndStart events channel) := by
  unfold Viewer.followAndStart
  simp only
  split
  · exact submit _ h.displays
  · exact h

theorem pump (h : Steady viewer) (hp : Paired dataset query ⟨viewer.channel, worker⟩) :
    Steady viewer.pump.2 := by
  unfold Viewer.pump
  simp only
  rcases hp.arrived with hr | ⟨response, hr, due⟩
  · rw [Channel.pump_nil hr]
    cases viewer.channel.link.responsesOpen with
    | true => exact andStart ⟨h.displays, h.waiting⟩
    | false => exact andStart h.disconnect
  · have hdelivered := h.deliver due []
    rw [Channel.pump_singleton hr]
    cases viewer.channel.link.responsesOpen with
    | true => exact andStart hdelivered
    | false =>
      -- The response is heard first, then the loss.
      exact andStart hdelivered.disconnect

-- ---------------------------------------------------------------------------
-- Typing and triggers
-- ---------------------------------------------------------------------------

theorem tick (h : Steady viewer) (now : Nat) : Steady (viewer.tick now).2 := by
  unfold Viewer.tick
  simp only
  split
  · exact submit { viewer with debouncer := (viewer.debouncer.poll now).2 } h.displays
  · exact ⟨h.displays, h.waiting⟩

theorem trigger (h : Steady viewer) (step : Renderer → HtmlPage → Nat × Renderer × HtmlPage)
    (hs : (step viewer.view.renderer viewer.view.target).2 =
        (viewer.view.renderer, viewer.view.target) ∨
      step viewer.view.renderer viewer.view.target =
        viewer.view.renderer.renderNext viewer.view.target) :
    Steady (viewer.trigger step).2 :=
  ⟨h.displays.trigger hs, h.waiting⟩

-- ---------------------------------------------------------------------------
-- Any action
-- ---------------------------------------------------------------------------

theorem act {world : ViewerWorld} (h : Steady world.viewer)
    (hp : Paired dataset query world.below) (ha : world.act action = some after) :
    Steady after.viewer := by
  have hreceive {response : Response} {rest : List Response}
      (hr : world.viewer.channel.link.responses = response :: rest) :
      Steady (world.viewer.followAndStart [Channel.eventOf response]
        (world.viewer.channel.delivered rest)) := by
    obtain ⟨-, due, -⟩ := hp.deliver hr
    exact andStart (h.deliver due rest)
  cases action with
  | load data =>
    obtain rfl := Option.some.inj ha
    exact h.load data
  | submit =>
    obtain rfl := Option.some.inj ha
    exact submit world.viewer h.displays
  | setQuery text =>
    obtain rfl := Option.some.inj ha
    exact submit { world.viewer with
      query := text, debouncer := world.viewer.debouncer.cancel } h.displays
  | reset =>
    obtain rfl := Option.some.inj ha
    exact submit { world.viewer with
      query := "", debouncer := world.viewer.debouncer.cancel } h.displays
  | input text now =>
    obtain rfl := Option.some.inj ha
    exact ⟨h.displays, h.waiting⟩
  | tick now =>
    obtain rfl := Option.some.inj ha
    exact h.tick now
  | scroll position =>
    obtain rfl := Option.some.inj ha
    exact h.trigger (fun renderer => renderer.onScroll position)
      (Renderer.onScroll_eq _ position _)
  | visible on =>
    obtain rfl := Option.some.inj ha
    exact h.trigger (fun renderer => renderer.onVisibility on)
      (Renderer.onVisibility_eq _ on _)
  | loadMore =>
    obtain rfl := Option.some.inj ha
    exact h.trigger (fun renderer => renderer.renderNext) (.inr rfl)
  | pump =>
    obtain rfl := Option.some.inj ha
    exact h.pump hp
  | wait =>
    rcases ViewerWorld.act_wait ha with ⟨response, rest, hr, rfl⟩ | ⟨-, -, rfl⟩
    · exact hreceive hr
    · exact andStart h.disconnect
  | receive =>
    obtain ⟨response, rest, hr, rfl⟩ := ViewerWorld.act_receive ha
    exact hreceive hr
  | disconnect =>
    obtain ⟨-, -, rfl⟩ := ViewerWorld.act_disconnect ha
    exact h.disconnect
  | restart =>
    obtain rfl := Option.some.inj ha
    exact h.restart
  | worker step =>
    obtain ⟨turn, hfar, hsame⟩ := ViewerWorld.act_worker ha
    have hstate := ViewerWorld.worker_state hfar
    rw [hsame]
    exact ⟨h.displays, fun hs => h.waiting (hstate.symm.trans hs)⟩

end Steady

theorem ViewerRun.steady (h : ViewerRun trace world) : Steady world.viewer := by
  induction h with
  | start _ _ created => exact .start created
  | next hrun ha ih =>
    obtain ⟨turns, hturns⟩ := hrun.channelRun
    exact ih.act hturns.paired ha

/-- On every run the counts are those of the held results, no more is rendered than there is,
and the page has the cards of what is rendered, with an indicator exactly while some is left.
Once the renderer has been given anything to show, the page says that there are no results
exactly if there are none. An error line never stands beside results. -/
theorem run_displays (h : ViewerRun trace world) :
    world.viewer.view.stats = .ofEntries world.viewer.view.renderer.results ∧
    world.viewer.view.renderer.rendered ≤ world.viewer.view.renderer.total ∧
    world.viewer.view.target.cards =
      (world.viewer.view.renderer.results.take world.viewer.view.renderer.rendered).map Card.html ∧
    world.viewer.view.target.indicator =
      (if world.viewer.view.renderer.rendered < world.viewer.view.renderer.total then
        some ("Showing " ++ toString world.viewer.view.renderer.rendered ++ " of " ++
          toString world.viewer.view.renderer.total ++ " results. Scroll to load more...")
      else none) ∧
    (world.viewer.view.target.noResults = true ↔
      world.viewer.view.renderer.generation ≠ 0 ∧ world.viewer.view.renderer.results = []) ∧
    (world.viewer.view.error ≠ none →
      world.viewer.view.renderer.results = [] ∧ world.viewer.view.stats = .zero) := by
  obtain ⟨⟨hpage, hstats, halone⟩, -⟩ := h.steady
  refine ⟨hstats, hpage.within, hpage.cards, hpage.indicator, hpage.noResults, fun he => ?_⟩
  have hnone := halone he
  refine ⟨hnone, ?_⟩
  rw [hstats, hnone]
  rfl

/-- One of two results is shown, one at a time; then the worker dies under the next query, and
an error line stands in place of the results. -/
theorem run_displays_loss :
    (∃ trace world, ViewerRun trace world ∧
      world.viewer.view.renderer.rendered = 1 ∧ world.viewer.view.renderer.total = 2 ∧
      world.viewer.view.target.indicator =
        some "Showing 1 of 2 results. Scroll to load more...") ∧
    (∃ trace world, ViewerRun trace world ∧ world.viewer.view.error ≠ none ∧
      world.viewer.view.renderer.generation = 2 ∧ world.viewer.view.renderer.results = [] ∧
      world.viewer.view.target.noResults = true) := by
  let answered : List ViewerAction := [.worker .take, .worker .answer, .wait]
  constructor
  · obtain ⟨trace, world, hrun, hend⟩ := ViewerRun.of_perform 8 8
      ⟨1, Renderer.defaultScrollThreshold, 300⟩
      (.load partAndColor :: (answered ++ answered))
      (fun world => world.viewer.view.renderer.rendered = 1 &&
        world.viewer.view.renderer.total = 2)
      (by decide +kernel)
    simp only [Bool.and_eq_true, decide_eq_true_eq] at hend
    obtain ⟨hrendered, htotal⟩ := hend
    obtain ⟨-, -, -, hindicator, -⟩ := run_displays hrun
    rw [hrendered, htotal] at hindicator
    exact ⟨trace, world, hrun, hrendered, htotal, hindicator⟩
  · obtain ⟨trace, world, hrun, hend⟩ := ViewerRun.of_perform 8 8
      ⟨1, Renderer.defaultScrollThreshold, 300⟩
      (.load partAndColor :: (answered ++ answered ++ [.setQuery "hidden", .worker .die, .pump]))
      (fun world => world.viewer.view.error.isSome &&
        world.viewer.view.renderer.generation = 2)
      (by decide +kernel)
    simp only [Bool.and_eq_true, decide_eq_true_eq] at hend
    obtain ⟨herror, hshown⟩ := hend
    have hline : world.viewer.view.error ≠ none := Option.isSome_iff_ne_none.mp herror
    obtain ⟨-, -, -, -, hnoResults, halone⟩ := run_displays hrun
    obtain ⟨hnone, -⟩ := halone hline
    have hmarked := hnoResults.mpr ⟨by rw [hshown]; decide, hnone⟩
    exact ⟨trace, world, hrun, hline, hshown, hnone, hmarked⟩

end RefViewer
