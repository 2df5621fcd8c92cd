import RefViewer.Channel.Basic
import RefViewer.Channel.Worker

/-!
# What each operation of a channel does

One description for every operation of a channel, a link and a worker. The proofs about runs
only use these.
-/

namespace RefViewer

namespace Channel

def posted (channel : Channel) (state : ChannelState) (request : Request) : Channel :=
  { channel with
    state
    link := { channel.link with requests := channel.link.requests ++ [request] } }

def lost (channel : Channel) : Channel :=
  { channel with disconnected := true, state := settled channel.state }

def delivered (channel : Channel) (rest : List Response) : Channel :=
  { channel with state := .ready, link := { channel.link with responses := rest } }

theorem load_cases (channel : Channel) (dataset : Dataset) :
    (channel.state ≠ .idle ∧ channel.load dataset = (.dropped, [], channel)) ∨
    (channel.state = .idle ∧ channel.link.requestsOpen = true ∧ channel.load dataset =
      (.sent, [], { channel with dataset := some dataset }.posted .initializing (.init dataset))) ∨
    (channel.state = .idle ∧ channel.link.requestsOpen = false ∧ channel.load dataset =
      (.failed, [.failed TransportFault.notRunning.failure],
        { channel with dataset := some dataset }.lost)) := by
  by_cases hs : channel.state = .idle
  · cases ho : channel.link.requestsOpen with
    | true => exact .inr (.inl ⟨hs, rfl, by simp [load, hs, send, Link.send?, ho, posted]⟩)
    | false =>
      refine .inr (.inr ⟨hs, rfl, ?_⟩)
      simp [load, hs, send, Link.send?, ho, transportFailed, lost, settled]
  · exact .inl ⟨hs, by simp [load, hs]⟩

theorem filter_cases (channel : Channel) (query : String) :
    (channel.state ≠ .ready ∧ channel.filter query = (.dropped, [], channel)) ∨
    (channel.state = .ready ∧ channel.link.requestsOpen = true ∧
      channel.filter query = (.sent, [], channel.posted .filtering (.filter query))) ∨
    (channel.state = .ready ∧ channel.link.requestsOpen = false ∧ channel.filter query =
      (.failed, [.failed TransportFault.notRunning.failure], channel.lost)) := by
  by_cases hs : channel.state = .ready
  · cases ho : channel.link.requestsOpen with
    | true => exact .inr (.inl ⟨hs, rfl, by simp [filter, hs, send, Link.send?, ho, posted]⟩)
    | false =>
      refine .inr (.inr ⟨hs, rfl, ?_⟩)
      simp [filter, hs, send, Link.send?, ho, transportFailed, lost, settled]
  · exact .inl ⟨hs, by simp [filter, hs]⟩

theorem disconnect_cases (channel : Channel) :
    (channel.disconnected = true ∧ channel.disconnect = ([], channel)) ∨
    (channel.disconnected = false ∧
      channel.disconnect = ([.failed TransportFault.terminated.failure], channel.lost)) := by
  cases hd : channel.disconnected <;> simp [disconnect, hd, transportFailed, lost]

theorem restart_none {channel : Channel} (hd : channel.dataset = none) :
    channel.restart = (.dropped, [],
      { channel with link := .new, disconnected := false, state := .idle }) := by
  simp [restart, hd]

theorem restart_some {channel : Channel} {dataset : Dataset}
    (hd : channel.dataset = some dataset) :
    channel.restart = (.sent, [],
      { channel with link := .new, disconnected := false }.posted .initializing
        (.init dataset)) := by
  simp [restart, hd, load, send, Link.send?, Link.new, posted]

theorem restart_events (channel : Channel) : channel.restart.2.1 = [] := by
  cases hd : channel.dataset with
  | none => rw [restart_none hd]
  | some dataset => rw [restart_some hd]

theorem wait?_cons {channel : Channel} (hr : channel.link.responses = response :: rest) :
    channel.wait? = some (true, [eventOf response], channel.delivered rest) := by
  simp [wait?, Link.receive, hr, dispatch, delivered]

theorem wait?_closed {channel : Channel} (hr : channel.link.responses = [])
    (ho : channel.link.responsesOpen = false) :
    channel.wait? = some (false, channel.disconnect) := by
  simp [wait?, Link.receive, hr, ho]

theorem wait?_open {channel : Channel} (hr : channel.link.responses = [])
    (ho : channel.link.responsesOpen = true) : channel.wait? = none := by
  simp [wait?, Link.receive, hr, ho]

theorem pump_nil {channel : Channel} (hr : channel.link.responses = []) :
    channel.pump =
      if channel.link.responsesOpen then (0, [], channel) else (0, channel.disconnect) := by
  obtain ⟨state, ⟨requests, requestsOpen, responses, responsesOpen⟩, capacity, dataset, told⟩ :=
    channel
  obtain rfl : responses = [] := hr
  cases responsesOpen <;> simp [pump, dispatchAll]

theorem pump_singleton {channel : Channel} (hr : channel.link.responses = [response]) :
    channel.pump =
      if channel.link.responsesOpen then (1, [eventOf response], channel.delivered [])
      else (1, eventOf response :: (channel.delivered []).disconnect.1,
        (channel.delivered []).disconnect.2) := by
  cases ho : channel.link.responsesOpen <;> simp [pump, dispatchAll, hr, ho, dispatch, delivered]

-- ---------------------------------------------------------------------------
-- The dataset that the channel holds
-- ---------------------------------------------------------------------------

theorem disconnect_dataset (channel : Channel) :
    channel.disconnect.2.dataset = channel.dataset := by
  rcases channel.disconnect_cases with ⟨-, he⟩ | ⟨-, he⟩
  · rw [he]
  · rw [he]
    rfl

theorem restart_dataset (channel : Channel) : channel.restart.2.2.dataset = channel.dataset := by
  cases hd : channel.dataset with
  | none => rw [restart_none hd, hd]
  | some dataset => rw [restart_some hd, ← hd]; rfl

theorem dispatchAll_dataset (channel : Channel) (responses : List Response) :
    (channel.dispatchAll responses).2.dataset = channel.dataset := by
  induction responses generalizing channel with
  | nil => rfl
  | cons response rest ih => exact ih _

theorem pump_dataset (channel : Channel) : channel.pump.2.2.dataset = channel.dataset := by
  unfold pump
  simp only
  split
  · exact dispatchAll_dataset _ _
  · exact (disconnect_dataset _).trans (dispatchAll_dataset _ _)

theorem filter_dataset (channel : Channel) (query : String) :
    (channel.filter query).2.2.dataset = channel.dataset := by
  rcases channel.filter_cases query with ⟨-, he⟩ | ⟨-, -, he⟩ | ⟨-, -, he⟩
  · rw [he]
  · rw [he]
    rfl
  · rw [he]
    rfl

end Channel

namespace Worker

theorem take_cases (worker : Worker) (link : Link) :
    worker.take link = (worker, link) ∨
    ∃ request rest, worker.handling = none ∧ link.requests = request :: rest ∧
      worker.take link =
        ({ worker with handling := some request }, { link with requests := rest }) := by
  cases hh : worker.handling with
  | some request => exact .inl (by simp [take, hh])
  | none =>
    cases hr : link.requests with
    | nil => exact .inl (by simp [take, hh, Link.take?, hr])
    | cons request rest => exact .inr ⟨request, rest, rfl, rfl, by simp [take, hh, Link.take?, hr]⟩

theorem answer_cases (worker : Worker) (link : Link) :
    (worker.handling = none ∧ worker.answer link = (worker, link)) ∨
    ∃ request, worker.handling = some request ∧
      (worker.answer link).1 = ⟨(worker.engine.handle request).2, none⟩ ∧
      (worker.answer link).2 =
        if link.responsesOpen then
          { link with responses := link.responses ++ [(worker.engine.handle request).1] }
        else link := by
  cases hh : worker.handling with
  | none => exact .inl ⟨rfl, by simp [answer, hh]⟩
  | some request =>
    refine .inr ⟨request, rfl, by simp [answer, hh], ?_⟩
    cases ho : link.responsesOpen <;> simp [answer, hh, Link.answer?, ho]

end Worker

end RefViewer
