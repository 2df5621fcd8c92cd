import RefViewer.Proofs.Channel.Operations

/-!
# Runs of a channel and its worker

A world is a channel together with the worker at the far end of its link. Viewer and worker
act in any order. The worker may let go of either end of the link at any time, of both at once
when it dies. A pump during which the worker acts is a row of `wait` turns.
-/

namespace RefViewer

structure World where
  channel : Channel
  worker : Worker
  deriving DecidableEq

inductive Action where
  | load (dataset : Dataset)
  | filter (query : String)
  | pump
  /-- Blocks until a response has come or none can come any more. -/
  | wait
  /-- Takes a response out of the queue and dispatches it. -/
  | receive
  /-- Reports the loss of the transport, once nothing can come any more. -/
  | disconnect
  | restart
  | take
  | answer
  | closeRequests
  | closeResponses
  | die
  deriving DecidableEq

/-- An action with what the viewer gets back: the answer to a submission and the events. -/
structure Turn where
  action : Action
  submission : Option Submission
  events : List Event
  deriving DecidableEq

namespace World

def link (world : World) : Link := world.channel.link

def setLink (world : World) (link : Link) : World :=
  { world with channel := { world.channel with link } }

def silent (action : Action) (world : World) : Option (Turn × World) :=
  some (⟨action, none, []⟩, world)

/-- Nothing where the action has to wait or is not allowed. -/
def act (world : World) (action : Action) : Option (Turn × World) :=
  match action with
  | .load dataset =>
    let (submission, events, channel) := world.channel.load dataset
    some (⟨action, some submission, events⟩, { world with channel })
  | .filter query =>
    let (submission, events, channel) := world.channel.filter query
    some (⟨action, some submission, events⟩, { world with channel })
  | .pump =>
    let (_, events, channel) := world.channel.pump
    some (⟨action, none, events⟩, { world with channel })
  | .wait =>
    world.channel.wait?.map fun (_, events, channel) =>
      (⟨action, none, events⟩, { world with channel })
  | .receive =>
    match world.link.receive with
    | .response response link =>
      let (events, channel) := { world.channel with link }.dispatch response
      some (⟨action, none, events⟩, { world with channel })
    | _ => none
  | .disconnect =>
    match world.link.receive with
    | .closed =>
      let (events, channel) := world.channel.disconnect
      some (⟨action, none, events⟩, { world with channel })
    | _ => none
  | .restart =>
    let (submission, events, channel) := world.channel.restart
    some (⟨action, some submission, events⟩, ⟨channel, .new channel.cacheCapacity⟩)
  | .take =>
    let (worker, link) := world.worker.take world.link
    silent action (setLink { world with worker } link)
  | .answer =>
    let (worker, link) := world.worker.answer world.link
    silent action (setLink { world with worker } link)
  | .closeRequests => silent action (world.setLink world.link.closeRequests)
  | .closeResponses => silent action (world.setLink world.link.closeResponses)
  | .die =>
    silent action (setLink { world with worker := { world.worker with handling := none } }
      world.link.closeRequests.closeResponses)

theorem act_receive {world : World} (ha : world.act .receive = some (turn, after)) :
    ∃ response rest, world.link.responses = response :: rest ∧
      turn = ⟨.receive, none, [Channel.eventOf response]⟩ ∧
      after = { world with channel := world.channel.delivered rest } := by
  cases hr : world.link.responses with
  | nil => cases ho : world.link.responsesOpen <;> simp [act, Link.receive, hr, ho] at ha
  | cons response rest =>
    simp only [act, Link.receive, hr, Option.some.injEq, Prod.mk.injEq] at ha
    exact ⟨response, rest, rfl, ha.1.symm, ha.2.symm⟩

theorem act_disconnect {world : World} (ha : world.act .disconnect = some (turn, after)) :
    world.link.responses = [] ∧ world.link.responsesOpen = false ∧
      turn = ⟨.disconnect, none, world.channel.disconnect.1⟩ ∧
      after = { world with channel := world.channel.disconnect.2 } := by
  cases hr : world.link.responses with
  | cons response rest => simp [act, Link.receive, hr] at ha
  | nil =>
    cases ho : world.link.responsesOpen with
    | true => simp [act, Link.receive, hr, ho] at ha
    | false =>
      simp only [act, Link.receive, hr, ho, Bool.false_eq_true, ↓reduceIte, Option.some.injEq,
        Prod.mk.injEq] at ha
      exact ⟨rfl, rfl, ha.1.symm, ha.2.symm⟩

theorem act_wait {world : World} (ha : world.act .wait = some (turn, after)) :
    (∃ response rest, world.link.responses = response :: rest ∧
      turn = ⟨.wait, none, [Channel.eventOf response]⟩ ∧
      after = { world with channel := world.channel.delivered rest }) ∨
    (world.link.responses = [] ∧ world.link.responsesOpen = false ∧
      turn = ⟨.wait, none, world.channel.disconnect.1⟩ ∧
      after = { world with channel := world.channel.disconnect.2 }) := by
  cases hr : world.link.responses with
  | cons response rest =>
    simp only [act, Channel.wait?_cons hr, Option.map_some, Option.some.injEq,
      Prod.mk.injEq] at ha
    exact .inl ⟨response, rest, rfl, ha.1.symm, ha.2.symm⟩
  | nil =>
    cases ho : world.link.responsesOpen with
    | true => simp [act, Channel.wait?_open hr ho] at ha
    | false =>
      simp only [act, Channel.wait?_closed hr ho, Option.map_some, Option.some.injEq,
        Prod.mk.injEq] at ha
      exact .inr ⟨rfl, rfl, ha.1.symm, ha.2.symm⟩

def perform (trace : List Turn) (world : World) : List Action → Option (List Turn × World)
  | [] => some (trace, world)
  | action :: rest => (world.act action).bind fun (turn, next) => next.perform (turn :: trace) rest

end World

/-- Runs from a new channel and a new worker, with their turns, the newest first. -/
inductive Run : List Turn → World → Prop where
  | start (channelCapacity workerCapacity : Nat) :
    Run [] ⟨.new channelCapacity, .new workerCapacity⟩
  | next : Run trace world → world.act action = some (turn, after) → Run (turn :: trace) after

theorem Run.perform {world : World} (h : Run trace world)
    (hp : world.perform trace actions = some (turns, after)) : Run turns after := by
  induction actions generalizing trace world with
  | nil =>
    obtain ⟨rfl, rfl⟩ : trace = turns ∧ world = after := by simpa [World.perform] using hp
    exact h
  | cons action rest ih =>
    simp only [World.perform, Option.bind_eq_some_iff] at hp
    obtain ⟨⟨turn, next⟩, ha, hp⟩ := hp
    exact ih (h.next ha) hp

theorem Run.of_perform (c w : Nat) (actions : List Action) (p : List Turn → World → Bool)
    (hp : (World.perform [] ⟨.new c, .new w⟩ actions).any (fun (turns, world) => p turns world)) :
    ∃ trace world, Run trace world ∧ p trace world = true := by
  obtain ⟨⟨trace, world⟩, ha, hp⟩ := (Option.any_eq_true _ _).mp hp
  exact ⟨trace, world, (Run.start c w).perform ha, hp⟩

end RefViewer
