import RefViewer.Proofs.Channel.Pairing

/-!
# A lost transport

A channel tells the loss of its transport once, and from then on it does not free itself any
more. `pump_busy_iff`: when nothing can arrive, a pump leaves the channel waiting exactly when
a submission has still gone out after the loss had been told. That happens:
`pump_can_leave_filtering`.
-/

namespace RefViewer

def Event.isLoss : Event → Bool
  | .failed (.channel _) => true
  | _ => false

def lossTold : List Turn → Bool
  | [] => false
  | turn :: earlier =>
    if turn.action = .restart then false else turn.events.any Event.isLoss || lossTold earlier

def sentAfterLoss : List Turn → Bool
  | [] => false
  | turn :: earlier =>
    if turn.action = .restart then false
    else (turn.submission = some .sent && lossTold earlier) || sentAfterLoss earlier

/-- How a world stands to what has been told. After the loss nothing can be delivered any
more, and the channel waits only for what has been sent in spite of it. -/
structure Reported (told stranded : Bool) (world : World) : Prop where
  flag : world.channel.disconnected = told
  order : stranded = true → told = true
  quiet : told = true → world.link.responses = [] ∧
    (world.link.responsesOpen = true → world.link.requestsOpen = false ∧ world.inFlight = [])
  busy : told = true → (¬ world.channel.state.Free ↔ stranded = true)

namespace Reported

variable {told stranded : Bool} {world : World}

theorem free_settled (state : ChannelState) : (Channel.settled state).Free := by
  cases state <;> simp [Channel.settled, ChannelState.Free]

/-- Before the loss is told only the flag matters. -/
theorem of_untold (hf : world.channel.disconnected = false) (ho : stranded ≠ true) :
    Reported false stranded world :=
  ⟨hf, fun h => absurd h ho, nofun, nofun⟩

theorem start (channelCapacity workerCapacity : Nat) :
    Reported false false ⟨.new channelCapacity, .new workerCapacity⟩ := .of_untold rfl nofun

theorem not_stranded (h : Reported told stranded world) (hf : world.channel.state.Free) :
    stranded ≠ true :=
  fun hs => (h.busy (h.order hs)).mpr hs hf

theorem far {after : World} (h : Reported told stranded world)
    (hd : after.channel.disconnected = world.channel.disconnected)
    (hs : after.channel.state = world.channel.state)
    (hq : told = true → after.link.responses = [] ∧
      (after.link.responsesOpen = true → after.link.requestsOpen = false ∧ after.inFlight = [])) :
    Reported told stranded after :=
  ⟨hd.trans h.flag, h.order, hq, fun ht => hs ▸ h.busy ht⟩

/-- A request that goes out after the loss leaves the channel waiting for good. -/
theorem post (after : Option Dataset) {request : Request} (h : Reported told stranded world)
    (ho : world.link.requestsOpen = true) (hb : ¬ state.Free) :
    Reported told (told || stranded)
      { world with channel := { world.channel with dataset := after }.posted state request } where
  flag := h.flag
  order hs := by
    rcases Bool.or_eq_true_iff.mp hs with ht | hs
    · exact ht
    · exact h.order hs
  quiet ht := by
    obtain ⟨hr, hq⟩ := h.quiet ht
    refine ⟨hr, fun hopen => ?_⟩
    -- An open sender beside an open receiver would mean that no loss was told.
    have hclosed : world.link.requestsOpen = false := (hq hopen).1
    simp [ho] at hclosed
  busy ht := by
    simp only [ht, Bool.true_or, iff_true]
    exact hb

theorem lose (after : Option Dataset)
    (hn : stranded ≠ true) (hr : world.link.responses = [])
    (hq : world.link.responsesOpen = true →
      world.link.requestsOpen = false ∧ world.inFlight = []) :
    Reported true stranded
      { world with channel := { world.channel with dataset := after }.lost } where
  flag := rfl
  order hs := absurd hs hn
  quiet _ := ⟨hr, hq⟩
  busy _ := ⟨fun hb => absurd (free_settled world.channel.state) hb, fun hs => absurd hs hn⟩

theorem disconnect (h : Reported told stranded world) (hr : world.link.responses = [])
    (hc : world.link.responsesOpen = false) :
    Reported (world.channel.disconnect.1.any Event.isLoss || told) stranded
      { world with channel := world.channel.disconnect.2 } := by
  rcases world.channel.disconnect_cases with ⟨hd, he⟩ | ⟨hd, he⟩
  · rw [he]
    exact h
  · rw [he]
    have htold : told = false := h.flag.symm.trans hd
    have hn : stranded ≠ true := fun hs => by simpa [htold] using h.order hs
    exact lose world.channel.dataset hn hr (by simp [hc])

theorem deliver (h : Reported told stranded world) (hr : world.link.responses = response :: rest) :
    (Channel.eventOf response).isLoss = false ∧
      Reported told stranded { world with channel := world.channel.delivered rest } := by
  have htold : told = false := by
    cases told with
    | false => rfl
    | true => simp [(h.quiet rfl).1] at hr
  subst htold
  refine ⟨by cases response <;> rfl, .of_untold h.flag fun hs => ?_⟩
  simpa using h.order hs

theorem pump (h : Reported told stranded world) (hp : Paired dataset query world) :
    Reported (world.channel.pump.2.1.any Event.isLoss || told) stranded
      { world with channel := world.channel.pump.2.2 } := by
  rcases hp.arrived with hr | ⟨response, hr, -⟩
  · rw [Channel.pump_nil hr]
    cases ho : world.channel.link.responsesOpen with
    | true => exact h
    | false => exact h.disconnect hr ho
  · obtain ⟨hloss, hafter⟩ := h.deliver hr
    rw [Channel.pump_singleton hr]
    cases ho : world.channel.link.responsesOpen with
    | true => simpa [hloss] using hafter
    | false => simpa [hloss] using hafter.disconnect rfl ho

theorem load (h : Reported told stranded world) (hp : Paired dataset query world)
    (data : Dataset) :
    Reported ((world.channel.load data).2.1.any Event.isLoss || told)
      (((world.channel.load data).1 = .sent && told) || stranded)
      { world with channel := (world.channel.load data).2.2 } := by
  rcases world.channel.load_cases data with ⟨-, he⟩ | ⟨-, ho, he⟩ | ⟨hs, ho, he⟩
  · rw [he]
    exact h
  · rw [he]
    exact h.post _ ho (by simp [ChannelState.Free])
  · rw [he]
    exact lose _ (h.not_stranded (.inl hs)) (hp.no_responses (.inl hs)) fun hopen =>
      ⟨ho, hp.nothing_inFlight (.inl hs) hopen⟩

theorem filter (h : Reported told stranded world) (hp : Paired dataset query world)
    (text : String) :
    Reported ((world.channel.filter text).2.1.any Event.isLoss || told)
      (((world.channel.filter text).1 = .sent && told) || stranded)
      { world with channel := (world.channel.filter text).2.2 } := by
  rcases world.channel.filter_cases text with ⟨-, he⟩ | ⟨-, ho, he⟩ | ⟨hs, ho, he⟩
  · rw [he]
    exact h
  · rw [he]
    exact h.post world.channel.dataset ho (by simp [ChannelState.Free])
  · rw [he]
    exact lose world.channel.dataset (h.not_stranded (.inr hs))
      (hp.no_responses (.inr hs)) fun hopen => ⟨ho, hp.nothing_inFlight (.inr hs) hopen⟩

theorem restarted (channel : Channel) :
    Reported false false ⟨channel.restart.2.2, .new channel.restart.2.2.cacheCapacity⟩ := by
  refine .of_untold ?_ nofun
  cases hd : channel.dataset with
  | none => rw [Channel.restart_none hd]
  | some dataset =>
    rw [Channel.restart_some hd]
    rfl

theorem take (h : Reported told stranded world) :
    Reported told stranded
      (World.setLink { world with worker := (world.worker.take world.link).1 }
        (world.worker.take world.link).2) := by
  rcases world.worker.take_cases world.link with he | ⟨request, rest, hh, hr, he⟩
  · rw [he]
    exact h
  · rw [he]
    refine h.far rfl rfl fun ht => ⟨(h.quiet ht).1, fun hopen => ?_⟩
    have hn := ((h.quiet ht).2 hopen).2
    simp [World.inFlight, hr] at hn

theorem answer (h : Reported told stranded world) :
    Reported told stranded
      (World.setLink { world with worker := (world.worker.answer world.link).1 }
        (world.worker.answer world.link).2) := by
  rcases world.worker.answer_cases world.link with ⟨-, he⟩ | ⟨request, hh, hw, hl⟩
  · rw [he]
    exact h
  · rw [hw, hl]
    refine h.far rfl rfl fun ht => ?_
    obtain ⟨hr, hq⟩ := h.quiet ht
    cases ho : world.link.responsesOpen with
    | false =>
      refine ⟨hr, fun hopen => absurd hopen ?_⟩
      simpa [World.setLink, World.link] using ho
    | true =>
      have hn := (hq ho).2
      simp [World.inFlight, hh] at hn

theorem closeRequests (h : Reported told stranded world) :
    Reported told stranded (world.setLink world.link.closeRequests) := by
  refine h.far rfl rfl fun ht => ⟨(h.quiet ht).1, fun hopen => ⟨rfl, ?_⟩⟩
  have hn := ((h.quiet ht).2 hopen).2
  simp [World.inFlight, World.link] at hn
  simp [World.inFlight, World.setLink, World.link, Link.closeRequests, hn]

theorem closeResponses (h : Reported told stranded world) :
    Reported told stranded (world.setLink world.link.closeResponses) :=
  h.far rfl rfl fun ht => ⟨(h.quiet ht).1, nofun⟩

theorem die (h : Reported told stranded world) :
    Reported told stranded
      (World.setLink { world with worker := { world.worker with handling := none } }
        world.link.closeRequests.closeResponses) :=
  h.far rfl rfl fun ht => ⟨(h.quiet ht).1, nofun⟩

end Reported

theorem Reported.act {world : World} (h : Reported (lossTold trace) (sentAfterLoss trace) world)
    (hp : Paired dataset query world) (ha : world.act action = some (turn, after)) :
    Reported (lossTold (turn :: trace)) (sentAfterLoss (turn :: trace)) after := by
  simp only [lossTold, sentAfterLoss]
  cases action with
  | load data =>
    obtain ⟨rfl, rfl⟩ : _ ∧ _ := by simpa [World.act] using ha
    simpa using h.load hp data
  | filter text =>
    obtain ⟨rfl, rfl⟩ : _ ∧ _ := by simpa [World.act] using ha
    simpa using h.filter hp text
  | pump =>
    obtain ⟨rfl, rfl⟩ : _ ∧ _ := by simpa [World.act] using ha
    simpa using h.pump hp
  | wait =>
    rcases World.act_wait ha with ⟨response, rest, hr, rfl, rfl⟩ | ⟨hr, hc, rfl, rfl⟩
    · obtain ⟨hloss, hafter⟩ := h.deliver hr
      simpa [hloss] using hafter
    · simpa using h.disconnect hr hc
  | receive =>
    obtain ⟨response, rest, hr, rfl, rfl⟩ := World.act_receive ha
    obtain ⟨hloss, hafter⟩ := h.deliver hr
    simpa [hloss] using hafter
  | disconnect =>
    obtain ⟨hr, hc, rfl, rfl⟩ := World.act_disconnect ha
    simpa using h.disconnect hr hc
  | restart =>
    obtain ⟨rfl, rfl⟩ : _ ∧ _ := by simpa [World.act] using ha
    simpa using Reported.restarted world.channel
  | take =>
    obtain ⟨rfl, rfl⟩ : _ ∧ _ := by simpa [World.act, World.silent] using ha
    simpa using h.take
  | answer =>
    obtain ⟨rfl, rfl⟩ : _ ∧ _ := by simpa [World.act, World.silent] using ha
    simpa using h.answer
  | closeRequests =>
    obtain ⟨rfl, rfl⟩ : _ ∧ _ := by simpa [World.act, World.silent] using ha
    simpa using h.closeRequests
  | closeResponses =>
    obtain ⟨rfl, rfl⟩ : _ ∧ _ := by simpa [World.act, World.silent] using ha
    simpa using h.closeResponses
  | die =>
    obtain ⟨rfl, rfl⟩ : _ ∧ _ := by simpa [World.act, World.silent] using ha
    simpa using h.die

theorem Run.reported (h : Run trace world) :
    Reported (lossTold trace) (sentAfterLoss trace) world := by
  induction h with
  | start channelCapacity workerCapacity => exact .start channelCapacity workerCapacity
  | next hrun ha ih => exact ih.act hrun.paired ha

/-- When nothing can arrive any more, one pump frees the channel unless a submission has gone
out on this transport after its loss was told; then the channel goes on waiting. -/
theorem pump_busy_iff (h : Run trace world) (hr : world.link.responses = [])
    (hc : world.link.responsesOpen = false) :
    (world.channel.pump.2.2.state = .initializing ∨ world.channel.pump.2.2.state = .filtering) ↔
      sentAfterLoss trace = true := by
  have hreported := h.reported
  have hbusy (state : ChannelState) :
      (state = .initializing ∨ state = .filtering) ↔ ¬ state.Free := by
    cases state <;> simp [ChannelState.Free]
  have hp : world.channel.pump.2.2 = world.channel.disconnect.2 := by
    rw [Channel.pump_nil hr]
    simp [show world.channel.link.responsesOpen = false from hc]
  rw [hbusy, hp]
  rcases world.channel.disconnect_cases with ⟨hd, he⟩ | ⟨hd, he⟩
  · rw [he]
    exact hreported.busy (hreported.flag.symm.trans hd)
  · rw [he]
    have htold : lossTold trace = false := hreported.flag.symm.trans hd
    refine ⟨fun hb => absurd (Reported.free_settled world.channel.state) hb, fun hs => ?_⟩
    simpa [htold] using hreported.order hs

/-- A worker that dies as a whole takes the request along, and the next pump frees the channel. -/
theorem pump_busy_iff_after_death : ∃ trace world, Run trace world ∧
    world.channel.state = .filtering ∧ world.link.responses = [] ∧
    world.link.responsesOpen = false ∧ sentAfterLoss trace = false ∧
    ¬ (world.channel.pump.2.2.state = .initializing ∨
      world.channel.pump.2.2.state = .filtering) := by
  obtain ⟨trace, world, hrun, hend⟩ := Run.of_perform 8 8
    [.load .empty, .take, .answer, .wait, .filter "hidden", .die]
    (fun trace world => world.channel.state = .filtering && world.link.responses = [] &&
      !world.link.responsesOpen && !sentAfterLoss trace)
    (by decide +kernel)
  simp only [Bool.and_eq_true, decide_eq_true_eq, Bool.not_eq_true'] at hend
  obtain ⟨⟨⟨hstate, hr⟩, hc⟩, hnone⟩ := hend
  have hbusy := pump_busy_iff hrun hr hc
  simp only [hnone, Bool.false_eq_true, iff_false] at hbusy
  exact ⟨trace, world, hrun, hstate, hr, hc, hnone, hbusy⟩

/-- The sender of the worker is gone and the loss is told, but its receiver still takes a
query. Nothing ever frees the channel of that query but a restart. -/
theorem pump_can_leave_filtering : ¬ ∀ trace world, Run trace world →
    world.link.responses = [] → world.link.responsesOpen = false →
    world.channel.pump.2.2.state = .idle ∨ world.channel.pump.2.2.state = .ready := by
  intro hfree
  obtain ⟨trace, world, hrun, hend⟩ := Run.of_perform 8 8
    [.load .empty, .take, .answer, .pump, .closeResponses, .pump, .filter "hidden"]
    (fun _ world => world.link.responses = [] && !world.link.responsesOpen &&
      world.channel.pump.2.2.state = .filtering)
    (by decide +kernel)
  simp only [Bool.and_eq_true, decide_eq_true_eq, Bool.not_eq_true'] at hend
  obtain ⟨⟨hr, hc⟩, hstate⟩ := hend
  rcases hfree trace world hrun hr hc with hidle | hready
  · simp [hstate] at hidle
  · simp [hstate] at hready

end RefViewer
