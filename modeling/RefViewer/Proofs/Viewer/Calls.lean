import RefViewer.Proofs.Channel.Pairing
import RefViewer.Proofs.Viewer.World

/-!
# Calls of a viewer

A viewer on any target, with the worker at the far end of its channel. Each call is kept with
what it answered and what it did to the link: the responses that it took in and the requests
that it sent. `CallRun.accounts`: on every run the two queues change by these alone.
-/

namespace RefViewer

structure Console (T : Type) where
  viewer : Viewer T
  worker : Worker

/-- A call with the answer to its submission, if it made one, the responses that it took in and
the requests that it sent. -/
structure ViewerCall where
  action : ViewerAction
  submission : Option Submission
  taken : List Response
  sent : List Request
  deriving DecidableEq

/-- What a call did to a link, as far as the queues tell. -/
def ViewerCall.on (action : ViewerAction) (submission : Option Submission)
    (before after : Link) : ViewerCall where
  action
  submission
  taken := before.responses.take (before.responses.length - after.responses.length)
  sent := after.requests.drop before.requests.length

variable {T : Type} [Target T]

namespace Console

def below (console : Console T) : World := ⟨console.viewer.channel, console.worker⟩

/-- A restart has a new link and a new worker, and what was on the old link is gone. -/
def act (console : Console T) (action : ViewerAction) : Option (ViewerCall × Console T) :=
  match action with
  | .worker step =>
    (console.below.act step.action).map fun (_, after) =>
      (⟨action, none, [], []⟩,
        ⟨{ console.viewer with channel := after.channel }, after.worker⟩)
  | .restart =>
    (console.viewer.call? .restart).map fun (submission, viewer) =>
      (.on action submission .new viewer.channel.link,
        ⟨viewer, .new viewer.channel.cacheCapacity⟩)
  | action =>
    (console.viewer.call? action).map fun (submission, viewer) =>
      (.on action submission console.viewer.channel.link viewer.channel.link,
        { console with viewer })

def perform (trace : List ViewerCall) (console : Console T) :
    List ViewerAction → Option (List ViewerCall × Console T)
  | [] => some (trace, console)
  | action :: rest =>
    (console.act action).bind fun (call, next) => next.perform (call :: trace) rest

end Console

/-- Runs from a new viewer with a new channel and a new worker, with their calls, the newest
first. -/
inductive CallRun (settings : ViewerSettings) : List ViewerCall → Console T → Prop where
  | start (target : T) (channelCapacity workerCapacity : Nat)
      (created : Viewer.new (.new channelCapacity) target settings = .ok viewer) :
      CallRun settings [] ⟨viewer, .new workerCapacity⟩
  | next : CallRun settings trace console → console.act action = some (call, after) →
      CallRun settings (call :: trace) after

theorem CallRun.perform {console : Console T} (h : CallRun settings trace console)
    (hp : console.perform trace actions = some (later, after)) : CallRun settings later after := by
  induction actions generalizing trace console with
  | nil =>
    obtain ⟨rfl, rfl⟩ : trace = later ∧ console = after := by simpa [Console.perform] using hp
    exact h
  | cons action rest ih =>
    simp only [Console.perform, Option.bind_eq_some_iff] at hp
    obtain ⟨⟨call, next⟩, ha, hp⟩ := hp
    exact ih (h.next ha) hp

theorem CallRun.of_perform (c w : Nat) (settings : ViewerSettings)
    (actions : List ViewerAction) (p : List ViewerCall → Console HtmlPage → Bool)
    (hp : ((Viewer.new (.new c) HtmlPage.empty settings).toOption.bind fun viewer =>
      Console.perform [] ⟨viewer, .new w⟩ actions).any fun (calls, console) => p calls console) :
    ∃ trace console, CallRun settings trace console ∧ p trace console = true := by
  obtain ⟨⟨trace, console⟩, ha, hp⟩ := (Option.any_eq_true _ _).mp hp
  obtain ⟨viewer, hv, ha⟩ := Option.bind_eq_some_iff.mp ha
  have created : Viewer.new (.new c) HtmlPage.empty settings = .ok viewer := by
    cases hv
    rfl
  exact ⟨trace, console, (CallRun.start HtmlPage.empty c w created).perform ha, hp⟩

-- ---------------------------------------------------------------------------
-- One step
-- ---------------------------------------------------------------------------

theorem Viewer.new_eq {target : T} (created : Viewer.new fresh target settings = .ok viewer) :
    viewer = {
      channel := fresh
      debouncer := .new settings.debounceWindow
      view := .new (.new settings.batchSize settings.scrollThreshold) target
      query := ""
      metadata := .unknown } := by
  simp only [Viewer.new] at created
  cases hready : Target.ready target with
  | error failure => simp [hready, bind, Except.bind] at created
  | ok _ =>
    simp only [hready, bind, Except.bind, pure, Except.pure, Except.ok.injEq] at created
    exact created.symm

namespace Console

variable {console after : Console T}

theorem act_cases (ha : console.act action = some (call, after)) :
    (∃ step turn, action = .worker step ∧ call = ⟨action, none, [], []⟩ ∧
      console.below.act step.action = some (turn, after.below) ∧
      after.viewer = { console.viewer with channel := after.viewer.channel }) ∨
    (action = .restart ∧
      call = .on action (some console.viewer.restart.1) .new after.viewer.channel.link ∧
      after.viewer = console.viewer.restart.2 ∧
      after.worker = .new after.viewer.channel.cacheCapacity) ∨
    (action ≠ .restart ∧ ∃ submission,
      console.viewer.call? action = some (submission, after.viewer) ∧
      call = .on action submission console.viewer.channel.link after.viewer.channel.link ∧
      after.worker = console.worker) := by
  cases action with
  | worker step =>
    obtain ⟨⟨turn, far⟩, hfar, he⟩ := Option.map_eq_some_iff.mp ha
    cases he
    exact .inl ⟨step, turn, rfl, rfl, hfar, rfl⟩
  | restart =>
    cases ha
    exact .inr (.inl ⟨rfl, rfl, rfl, rfl⟩)
  | _ =>
    simp only [act, Option.map_eq_some_iff] at ha
    obtain ⟨⟨submission, viewer⟩, hc, he⟩ := ha
    cases he
    exact .inr (.inr ⟨nofun, submission, hc, rfl, rfl⟩)

theorem act_below (h : Run turns console.below) (ha : console.act action = some (call, after)) :
    ∃ later, Run later after.below := by
  rcases act_cases ha with ⟨step, turn, -, -, hfar, -⟩ | ⟨-, -, hv, hw⟩ | ⟨hr, _, hc, -, hw⟩
  · exact ⟨_, h.next hfar⟩
  · have hrestart : console.below.act .restart = some (_, _) := rfl
    rw [below, hw, hv]
    exact ⟨_, h.next hrestart⟩
  · rw [below, hw]
    exact Viewer.call?_below h hc hr

end Console

theorem CallRun.channelRun {console : Console T} (h : CallRun settings trace console) :
    ∃ turns, Run turns console.below := by
  induction h with
  | start target channelCapacity workerCapacity created =>
    rw [Viewer.new_eq created]
    exact ⟨[], .start channelCapacity workerCapacity⟩
  | next _ ha ih =>
    obtain ⟨turns, hturns⟩ := ih
    exact Console.act_below hturns ha

-- ---------------------------------------------------------------------------
-- What a call does to the link
-- ---------------------------------------------------------------------------

def ViewerAction.receives : ViewerAction → Bool
  | .pump | .wait | .receive => true
  | _ => false

namespace Viewer

def request (viewer : Viewer T) : List Request :=
  if viewer.channel.state = .ready ∧ viewer.channel.link.requestsOpen = true then
    [.filter viewer.query]
  else []

theorem submit_link (viewer : Viewer T) :
    viewer.submit.2.channel.link = { viewer.channel.link with
      requests := viewer.channel.link.requests ++ viewer.request } := by
  have hlink : viewer.submit.2.channel = (viewer.channel.filter viewer.query).2.2 := rfl
  rw [hlink, request]
  rcases viewer.channel.filter_cases viewer.query with ⟨hs, he⟩ | ⟨hs, ho, he⟩ | ⟨hs, ho, he⟩
  · simp [he, hs]
  · simp [he, hs, ho, Channel.posted]
  · rw [he, if_neg (by simp [ho]), List.append_nil]
    rfl

theorem followAndStart_link (viewer : Viewer T) (events : List Event) (channel : Channel) :
    (viewer.followAndStart events channel).channel.link = { channel.link with
      requests := channel.link.requests ++
        if events.contains .initComplete then { viewer with channel }.request else [] } := by
  unfold followAndStart
  simp only
  split
  · exact submit_link (viewer.follow events channel)
  · simp [follow]

theorem followAndStart_kept (viewer : Viewer T) (events : List Event) (channel : Channel) :
    (viewer.followAndStart events channel).query = viewer.query ∧
      (viewer.followAndStart events channel).debouncer = viewer.debouncer ∧
      (viewer.followAndStart events channel).metadata = viewer.metadata := by
  unfold followAndStart
  simp only
  split <;> exact ⟨rfl, rfl, rfl⟩

end Viewer

theorem Channel.disconnect_link (channel : Channel) : channel.disconnect.2.link = channel.link := by
  rcases channel.disconnect_cases with ⟨-, he⟩ | ⟨-, he⟩
  · rw [he]
  · rw [he]
    rfl

theorem Channel.disconnect_not_init (channel : Channel) :
    .initComplete ∉ channel.disconnect.1 := by
  rcases channel.disconnect_cases with ⟨-, he⟩ | ⟨-, he⟩ <;> simp [he]

theorem Channel.eventOf_init_iff : eventOf response = .initComplete ↔ response = .initComplete := by
  cases response <;> simp [eventOf]

/-- How the queues of a link change by a call. Only a viewer that holds the text sends it, and
each dataset taken in is followed by one query while the worker takes requests. -/
structure ViewerCall.Moves (call : ViewerCall) (query : String) (before after : Link) : Prop where
  responses : before.responses = call.taken ++ after.responses
  requests : after.requests = before.requests ++ call.sent
  texts : ∀ text, .filter text ∈ call.sent → text = query
  starts : call.action.receives = true → before.requestsOpen = true →
    call.sent = List.replicate (call.taken.count .initComplete) (.filter query)

namespace ViewerCall.Moves

variable {query : String} {before after : Link} {action : ViewerAction}
  {submission : Option Submission}

theorem still (action : ViewerAction) (submission : Option Submission) (link : Link) :
    ViewerCall.Moves ⟨action, submission, [], []⟩ query link link :=
  ⟨rfl, by simp, nofun, fun _ _ => rfl⟩

theorem submit (viewer : Viewer T) (hr : action.receives = false) :
    ViewerCall.Moves ⟨action, submission, [], viewer.request⟩ viewer.query viewer.channel.link
      viewer.submit.2.channel.link where
  responses := by simp [viewer.submit_link]
  requests := by simp [viewer.submit_link]
  texts text ht := by
    simp only [Viewer.request] at ht
    split at ht
    · simpa using ht
    · simp at ht
  starts hreceives := by simp [hr] at hreceives

theorem quiet (viewer : Viewer T) {channel : Channel} (hl : channel.link = viewer.channel.link)
    (he : .initComplete ∉ events) :
    ∃ taken sent, ViewerCall.Moves ⟨action, submission, taken, sent⟩
      (viewer.followAndStart events channel).query viewer.channel.link
      (viewer.followAndStart events channel).channel.link := by
  have hlink : (viewer.followAndStart events channel).channel.link = viewer.channel.link := by
    simp [Viewer.followAndStart_link, hl, he]
  rw [hlink]
  exact ⟨[], [], still _ _ _⟩

/-- A response that is taken in leaves the channel ready, so that a query can follow at once. -/
theorem received (viewer : Viewer T) {channel : Channel}
    (hr : viewer.channel.link.responses = response :: rest) (hs : channel.state = .ready)
    (hl : channel.link = { viewer.channel.link with responses := rest })
    (he : .initComplete ∈ events ↔ response = .initComplete) :
    ∃ taken sent, ViewerCall.Moves ⟨action, submission, taken, sent⟩
      (viewer.followAndStart events channel).query viewer.channel.link
      (viewer.followAndStart events channel).channel.link := by
  let sent := if response = .initComplete then { viewer with channel }.request else []
  have hlink : (viewer.followAndStart events channel).channel.link =
      { viewer.channel.link with
        requests := viewer.channel.link.requests ++ sent, responses := rest } := by
    simp [Viewer.followAndStart_link, hl, he, sent]
  rw [(viewer.followAndStart_kept events channel).1]
  refine ⟨[response], sent, ⟨?_, ?_, fun text ht => ?_, fun _ ho => ?_⟩⟩
  · simp [hlink, hr]
  · simp [hlink]
  · by_cases hi : response = .initComplete
    · simp only [sent, hi, ↓reduceIte, Viewer.request] at ht
      split at ht
      · simpa using ht
      · simp at ht
    · simp [sent, hi] at ht
  · by_cases hi : response = .initComplete
    · simp [sent, hi, Viewer.request, hs, hl, ho]
    · simp [sent, hi]

theorem delivered (viewer : Viewer T) (hr : viewer.channel.link.responses = response :: rest) :
    ∃ taken sent, ViewerCall.Moves ⟨action, submission, taken, sent⟩
      (viewer.followAndStart [Channel.eventOf response] (viewer.channel.delivered rest)).query
      viewer.channel.link
      (viewer.followAndStart [Channel.eventOf response]
        (viewer.channel.delivered rest)).channel.link :=
  received viewer hr rfl rfl (by simp [eq_comm, ← Channel.eventOf_init_iff])

/-- At most one response waits; the loss of the transport may be heard right after it. -/
theorem pump (viewer : Viewer T) (hp : Paired dataset asked ⟨viewer.channel, worker⟩) :
    ∃ taken sent, ViewerCall.Moves ⟨action, submission, taken, sent⟩ viewer.pump.2.query
      viewer.channel.link viewer.pump.2.channel.link := by
  have hpump : viewer.pump.2 =
      viewer.followAndStart viewer.channel.pump.2.1 viewer.channel.pump.2.2 := rfl
  rw [hpump]
  rcases hp.arrived with hr | ⟨response, hr, -⟩
  · rw [Channel.pump_nil hr]
    cases viewer.channel.link.responsesOpen with
    | true => exact quiet viewer rfl (by simp)
    | false => exact quiet viewer viewer.channel.disconnect_link viewer.channel.disconnect_not_init
  · rw [Channel.pump_singleton hr]
    cases viewer.channel.link.responsesOpen with
    | true => exact delivered viewer hr
    | false =>
      have hready : (viewer.channel.delivered []).disconnect.2.state = .ready := by
        rcases (viewer.channel.delivered []).disconnect_cases with ⟨-, he⟩ | ⟨-, he⟩
        · rw [he]
          rfl
        · rw [he]
          rfl
      refine received viewer hr hready (Channel.disconnect_link _) ?_
      have hn := (viewer.channel.delivered []).disconnect_not_init
      simp [hn, eq_comm, ← Channel.eventOf_init_iff]

end ViewerCall.Moves

end RefViewer
