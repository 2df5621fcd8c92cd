import RefViewer.Proofs.Channel.World
import RefViewer.Proofs.Viewer.Display

/-!
# Runs of a viewer and its worker

What can be asked of a viewer, on any target, and what it does to the channel:
`Viewer.call?_below`. A viewer that shows a page, with the worker at the far end of its
channel. Everything that can happen on either side happens in any order.
`ViewerRun.channelRun`: what its channel goes through is a run of a channel and its worker.
-/

namespace RefViewer

inductive WorkerStep where
  | take
  | answer
  | closeRequests
  | closeResponses
  | die
  deriving DecidableEq

def WorkerStep.action : WorkerStep → Action
  | .take => .take
  | .answer => .answer
  | .closeRequests => .closeRequests
  | .closeResponses => .closeResponses
  | .die => .die

theorem WorkerStep.channel_eq {world after : World} {step : WorkerStep}
    (ha : world.act step.action = some (turn, after)) :
    after.channel = { world.channel with link := after.link } := by
  cases step <;>
    · obtain ⟨-, rfl⟩ : _ ∧ _ := by simpa [WorkerStep.action, World.act, World.silent] using ha
      rfl

inductive ViewerAction where
  | load (dataset : Dataset)
  | submit
  | setQuery (text : String)
  | reset
  | input (text : String) (now : Nat)
  | tick (now : Nat)
  | scroll (position : ScrollPosition)
  | visible (on : Bool)
  | loadMore
  | pump
  /-- Blocks until a response has come or none can come any more. -/
  | wait
  /-- Takes a response out of the queue and handles it. -/
  | receive
  /-- Reports the loss of the transport, once nothing can come any more. -/
  | disconnect
  | restart
  | worker (step : WorkerStep)
  deriving DecidableEq

section

variable {T : Type} [Target T]

/-- A call of the viewer with the answer to its submission. Nothing where it has to wait or is
not allowed, and for a step of the worker. -/
def Viewer.call? (viewer : Viewer T) (action : ViewerAction) :
    Option (Option Submission × Viewer T) :=
  match action with
  | .load dataset =>
    let (submission, viewer) := viewer.load dataset
    some (some submission, viewer)
  | .submit =>
    let (submission, viewer) := viewer.submit
    some (some submission, viewer)
  | .setQuery text =>
    let (submission, viewer) := viewer.setQuery text
    some (some submission, viewer)
  | .reset =>
    let (submission, viewer) := viewer.reset
    some (some submission, viewer)
  | .input text now => some (none, viewer.input text now)
  | .tick now => some (viewer.tick now)
  | .scroll position => some (none, (viewer.onScroll position).2)
  | .visible on => some (none, (viewer.onVisible on).2)
  | .loadMore => some (none, viewer.loadMore.2)
  | .pump => some (none, viewer.pump.2)
  | .wait => viewer.wait?.map fun (_, viewer) => (none, viewer)
  | .receive =>
    match viewer.channel.link.receive with
    | .response response link =>
      some (none, { viewer with channel := { viewer.channel with link } }.handle response)
    | _ => none
  | .disconnect =>
    match viewer.channel.link.receive with
    | .closed => some (none, viewer.disconnect)
    | _ => none
  | .restart =>
    let (submission, viewer) := viewer.restart
    some (some submission, viewer)
  | .worker _ => none

namespace Viewer

variable {viewer : Viewer T}

theorem call?_receive (h : viewer.call? .receive = some (submission, after)) :
    ∃ response rest, viewer.channel.link.responses = response :: rest ∧ submission = none ∧
      after = viewer.followAndStart [Channel.eventOf response] (viewer.channel.delivered rest) := by
  cases hr : viewer.channel.link.responses with
  | nil => cases ho : viewer.channel.link.responsesOpen <;> simp [call?, Link.receive, hr, ho] at h
  | cons response rest =>
    simp only [call?, Link.receive, hr, Option.some.injEq, Prod.mk.injEq] at h
    exact ⟨response, rest, rfl, h.1.symm, h.2.symm⟩

theorem call?_disconnect (h : viewer.call? .disconnect = some (submission, after)) :
    viewer.channel.link.responses = [] ∧ viewer.channel.link.responsesOpen = false ∧
      submission = none ∧ after = viewer.disconnect := by
  cases hr : viewer.channel.link.responses with
  | cons response rest => simp [call?, Link.receive, hr] at h
  | nil =>
    cases ho : viewer.channel.link.responsesOpen with
    | true => simp [call?, Link.receive, hr, ho] at h
    | false =>
      simp only [call?, Link.receive, hr, ho, Bool.false_eq_true, ↓reduceIte, Option.some.injEq,
        Prod.mk.injEq] at h
      exact ⟨rfl, rfl, h.1.symm, h.2.symm⟩

theorem call?_wait (h : viewer.call? .wait = some (submission, after)) :
    submission = none ∧
      ((∃ response rest, viewer.channel.link.responses = response :: rest ∧
        after = viewer.followAndStart [Channel.eventOf response]
          (viewer.channel.delivered rest)) ∨
      (viewer.channel.link.responses = [] ∧ viewer.channel.link.responsesOpen = false ∧
        after = viewer.followAndStart viewer.channel.disconnect.1
          viewer.channel.disconnect.2)) := by
  cases hr : viewer.channel.link.responses with
  | cons response rest =>
    simp only [call?, wait?, Channel.wait?_cons hr, Option.map_some, Option.some.injEq,
      Prod.mk.injEq] at h
    exact ⟨h.1.symm, .inl ⟨response, rest, rfl, h.2.symm⟩⟩
  | nil =>
    cases ho : viewer.channel.link.responsesOpen with
    | true => simp [call?, wait?, Channel.wait?_open hr ho] at h
    | false =>
      simp only [call?, wait?, Channel.wait?_closed hr ho, Option.map_some, Option.some.injEq,
        Prod.mk.injEq] at h
      exact ⟨h.1.symm, .inr ⟨rfl, rfl, h.2.symm⟩⟩

end Viewer

-- ---------------------------------------------------------------------------
-- The run of the channel
-- ---------------------------------------------------------------------------

variable (viewer : Viewer T) {worker : Worker}

theorem Run.submit (h : Run turns ⟨viewer.channel, worker⟩) :
    ∃ later, Run later ⟨viewer.submit.2.channel, worker⟩ := by
  have ha : World.act ⟨viewer.channel, worker⟩ (.filter viewer.query) = some (_, _) := rfl
  exact ⟨_, h.next ha⟩

theorem Run.followAndStart (h : Run turns ⟨channel, worker⟩) (events : List Event) :
    ∃ later, Run later ⟨(viewer.followAndStart events channel).channel, worker⟩ := by
  unfold Viewer.followAndStart
  simp only
  split
  · exact Run.submit (viewer.follow events channel) h
  · exact ⟨turns, h⟩

theorem Run.tick (h : Run turns ⟨viewer.channel, worker⟩) (now : Nat) :
    ∃ later, Run later ⟨(viewer.tick now).2.channel, worker⟩ := by
  unfold Viewer.tick
  simp only
  split
  · exact Run.submit { viewer with debouncer := (viewer.debouncer.poll now).2 } h
  · exact ⟨turns, h⟩

end

theorem Run.received {world : World} (h : Run turns world)
    (hr : world.link.responses = response :: rest) :
    ∃ later, Run later { world with channel := world.channel.delivered rest } := by
  have ha : world.act .receive = some (⟨.receive, none, [Channel.eventOf response]⟩,
      { world with channel := world.channel.delivered rest }) := by
    simp only [World.act, Link.receive, hr]
    rfl
  exact ⟨_, h.next ha⟩

theorem Run.disconnected {world : World} (h : Run turns world) (hr : world.link.responses = [])
    (ho : world.link.responsesOpen = false) :
    ∃ later, Run later { world with channel := world.channel.disconnect.2 } := by
  have ha : world.act .disconnect = some (⟨.disconnect, none, world.channel.disconnect.1⟩,
      { world with channel := world.channel.disconnect.2 }) := by
    simp [World.act, Link.receive, hr, ho]
  exact ⟨_, h.next ha⟩

/-- A call is a row of turns of the channel, often none. -/
theorem Viewer.call?_below {T : Type} [Target T] {viewer after : Viewer T} {worker : Worker}
    (h : Run turns ⟨viewer.channel, worker⟩)
    (hc : viewer.call? action = some (submission, after)) (hr : action ≠ .restart) :
    ∃ later, Run later ⟨after.channel, worker⟩ := by
  cases action with
  | load dataset =>
    cases hc
    have hload : World.act ⟨viewer.channel, worker⟩ (.load dataset) = some (_, _) := rfl
    exact ⟨_, h.next hload⟩
  | submit =>
    cases hc
    exact Run.submit viewer h
  | setQuery text =>
    cases hc
    exact Run.submit { viewer with query := text, debouncer := viewer.debouncer.cancel } h
  | reset =>
    cases hc
    exact Run.submit { viewer with query := "", debouncer := viewer.debouncer.cancel } h
  | input text now =>
    cases hc
    exact ⟨turns, h⟩
  | tick now =>
    obtain rfl : (viewer.tick now).2 = after := congrArg Prod.snd (Option.some.inj hc)
    exact Run.tick viewer h now
  | scroll position =>
    cases hc
    exact ⟨turns, h⟩
  | visible on =>
    cases hc
    exact ⟨turns, h⟩
  | loadMore =>
    cases hc
    exact ⟨turns, h⟩
  | pump =>
    cases hc
    have hpump : World.act ⟨viewer.channel, worker⟩ .pump = some (_, _) := rfl
    exact Run.followAndStart viewer (h.next hpump) _
  | wait =>
    obtain ⟨-, ⟨response, rest, hr, rfl⟩ | ⟨hr, ho, rfl⟩⟩ := Viewer.call?_wait hc
    · obtain ⟨later, hlater⟩ := h.received hr
      exact Run.followAndStart viewer hlater _
    · obtain ⟨later, hlater⟩ := h.disconnected hr ho
      exact Run.followAndStart viewer hlater _
  | receive =>
    obtain ⟨response, rest, hr, -, rfl⟩ := Viewer.call?_receive hc
    obtain ⟨later, hlater⟩ := h.received hr
    exact Run.followAndStart viewer hlater _
  | disconnect =>
    obtain ⟨hr, ho, -, rfl⟩ := Viewer.call?_disconnect hc
    exact h.disconnected hr ho
  | restart => exact absurd rfl hr
  | worker step => cases hc

-- ---------------------------------------------------------------------------
-- A page and its worker
-- ---------------------------------------------------------------------------

structure ViewerWorld where
  viewer : Viewer HtmlPage
  worker : Worker

namespace ViewerWorld

def below (world : ViewerWorld) : World := ⟨world.viewer.channel, world.worker⟩

def act (world : ViewerWorld) (action : ViewerAction) : Option ViewerWorld :=
  match action with
  | .load dataset => some { world with viewer := (world.viewer.load dataset).2 }
  | .submit => some { world with viewer := world.viewer.submit.2 }
  | .setQuery text => some { world with viewer := (world.viewer.setQuery text).2 }
  | .reset => some { world with viewer := world.viewer.reset.2 }
  | .input text now => some { world with viewer := world.viewer.input text now }
  | .tick now => some { world with viewer := (world.viewer.tick now).2 }
  | .scroll position => some { world with viewer := (world.viewer.onScroll position).2 }
  | .visible on => some { world with viewer := (world.viewer.onVisible on).2 }
  | .loadMore => some { world with viewer := world.viewer.loadMore.2 }
  | .pump => some { world with viewer := world.viewer.pump.2 }
  | .wait => world.viewer.wait?.map fun (_, viewer) => { world with viewer }
  | .receive =>
    match world.viewer.channel.link.receive with
    | .response response link =>
      let channel := { world.viewer.channel with link }
      some { world with viewer := { world.viewer with channel }.handle response }
    | _ => none
  | .disconnect =>
    match world.viewer.channel.link.receive with
    | .closed => some { world with viewer := world.viewer.disconnect }
    | _ => none
  | .restart =>
    let (_, viewer) := world.viewer.restart
    some ⟨viewer, .new viewer.channel.cacheCapacity⟩
  | .worker step =>
    (world.below.act step.action).map fun (_, after) =>
      ⟨{ world.viewer with channel := after.channel }, after.worker⟩

def perform (trace : List ViewerAction) (world : ViewerWorld) :
    List ViewerAction → Option (List ViewerAction × ViewerWorld)
  | [] => some (trace, world)
  | action :: rest => (world.act action).bind fun next => next.perform (action :: trace) rest

end ViewerWorld

/-- Runs from a viewer with an empty page, a new channel and a new worker, with their actions,
the newest first. -/
inductive ViewerRun : List ViewerAction → ViewerWorld → Prop where
  | start (channelCapacity workerCapacity : Nat)
      (created : Viewer.new (.new channelCapacity) HtmlPage.empty settings = .ok viewer) :
      ViewerRun [] ⟨viewer, .new workerCapacity⟩
  | next : ViewerRun trace world → world.act action = some after → ViewerRun (action :: trace) after

theorem ViewerRun.perform {world : ViewerWorld} (h : ViewerRun trace world)
    (hp : world.perform trace actions = some (later, after)) : ViewerRun later after := by
  induction actions generalizing trace world with
  | nil =>
    obtain ⟨rfl, rfl⟩ : trace = later ∧ world = after := by simpa [ViewerWorld.perform] using hp
    exact h
  | cons action rest ih =>
    simp only [ViewerWorld.perform, Option.bind_eq_some_iff] at hp
    obtain ⟨next, ha, hp⟩ := hp
    exact ih (h.next ha) hp

theorem ViewerRun.of_perform (c w : Nat) (settings : ViewerSettings)
    (actions : List ViewerAction) (p : ViewerWorld → Bool)
    (hp : ((Viewer.new (.new c) HtmlPage.empty settings).toOption.bind fun viewer =>
      ViewerWorld.perform [] ⟨viewer, .new w⟩ actions).any fun (_, world) => p world) :
    ∃ trace world, ViewerRun trace world ∧ p world = true := by
  obtain ⟨⟨trace, world⟩, ha, hp⟩ := (Option.any_eq_true _ _).mp hp
  obtain ⟨viewer, hv, ha⟩ := Option.bind_eq_some_iff.mp ha
  have created : Viewer.new (.new c) HtmlPage.empty settings = .ok viewer := by
    cases hv
    rfl
  exact ⟨trace, world, (ViewerRun.start c w created).perform ha, hp⟩

namespace ViewerWorld

theorem act_call {world : ViewerWorld} (ha : world.act action = some after)
    (hr : action ≠ .restart) (hw : ∀ step, action ≠ .worker step) :
    ∃ submission, world.viewer.call? action = some (submission, after.viewer) ∧
      after = { world with viewer := after.viewer } := by
  have hact : world.act action =
      (world.viewer.call? action).map fun (_, viewer) => { world with viewer } := by
    cases action with
    | wait => simp [act, Viewer.call?, Function.comp_def]
    | receive =>
      simp only [act, Viewer.call?]
      split <;> rfl
    | disconnect =>
      simp only [act, Viewer.call?]
      split <;> rfl
    | restart => exact absurd rfl hr
    | worker step => exact absurd rfl (hw step)
    | _ => rfl
  rw [hact] at ha
  obtain ⟨⟨submission, viewer⟩, hc, rfl⟩ := Option.map_eq_some_iff.mp ha
  exact ⟨submission, hc, rfl⟩

theorem act_receive {world : ViewerWorld} (ha : world.act .receive = some after) :
    ∃ response rest, world.viewer.channel.link.responses = response :: rest ∧
      after = { world with
        viewer := world.viewer.followAndStart [Channel.eventOf response]
          (world.viewer.channel.delivered rest) } := by
  obtain ⟨_, hc, he⟩ := act_call ha nofun nofun
  obtain ⟨response, rest, hr, -, hv⟩ := Viewer.call?_receive hc
  exact ⟨response, rest, hr, hv ▸ he⟩

theorem act_disconnect {world : ViewerWorld} (ha : world.act .disconnect = some after) :
    world.viewer.channel.link.responses = [] ∧
      world.viewer.channel.link.responsesOpen = false ∧
      after = { world with viewer := world.viewer.disconnect } := by
  obtain ⟨_, hc, he⟩ := act_call ha nofun nofun
  obtain ⟨hr, ho, -, hv⟩ := Viewer.call?_disconnect hc
  exact ⟨hr, ho, hv ▸ he⟩

theorem act_wait {world : ViewerWorld} (ha : world.act .wait = some after) :
    (∃ response rest, world.viewer.channel.link.responses = response :: rest ∧
      after = { world with
        viewer := world.viewer.followAndStart [Channel.eventOf response]
          (world.viewer.channel.delivered rest) }) ∨
    (world.viewer.channel.link.responses = [] ∧
      world.viewer.channel.link.responsesOpen = false ∧
      after = { world with
        viewer := world.viewer.followAndStart world.viewer.channel.disconnect.1
          world.viewer.channel.disconnect.2 }) := by
  obtain ⟨_, hc, he⟩ := act_call ha nofun nofun
  obtain ⟨-, ⟨response, rest, hr, hv⟩ | ⟨hr, ho, hv⟩⟩ := Viewer.call?_wait hc
  · exact .inl ⟨response, rest, hr, hv ▸ he⟩
  · exact .inr ⟨hr, ho, hv ▸ he⟩

theorem act_worker {world : ViewerWorld} (ha : world.act (.worker step) = some after) :
    ∃ turn, world.below.act step.action = some (turn, after.below) ∧
      after.viewer = { world.viewer with channel := after.below.channel } := by
  simp only [act, Option.map_eq_some_iff] at ha
  obtain ⟨⟨turn, far⟩, hfar, rfl⟩ := ha
  exact ⟨turn, hfar, rfl⟩

theorem worker_state {world after : World} {step : WorkerStep}
    (ha : world.act step.action = some (turn, after)) :
    after.channel.state = world.channel.state := by rw [WorkerStep.channel_eq ha]

end ViewerWorld

theorem ViewerWorld.act_below {world : ViewerWorld} (h : Run turns world.below)
    (ha : world.act action = some after) : ∃ later, Run later after.below := by
  cases action with
  | restart =>
    obtain rfl := Option.some.inj ha
    have hrestart : world.below.act .restart = some (_, _) := rfl
    exact ⟨_, h.next hrestart⟩
  | worker step =>
    obtain ⟨turn, hfar, -⟩ := ViewerWorld.act_worker ha
    exact ⟨_, h.next hfar⟩
  | _ =>
    obtain ⟨_, hc, he⟩ := ViewerWorld.act_call ha nofun nofun
    rw [he]
    exact Viewer.call?_below h hc nofun

theorem ViewerRun.channelRun (h : ViewerRun trace world) : ∃ turns, Run turns world.below := by
  induction h with
  | start channelCapacity workerCapacity created =>
    cases created
    exact ⟨[], .start channelCapacity workerCapacity⟩
  | next _ ha ih =>
    obtain ⟨turns, hturns⟩ := ih
    exact ViewerWorld.act_below hturns ha

end RefViewer
