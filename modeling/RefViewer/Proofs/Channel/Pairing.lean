import RefViewer.Proofs.Channel.Operations
import RefViewer.Proofs.Channel.World
import RefViewer.Proofs.Engine.Reuse

/-!
# Requests and responses are paired

At most one message is under way between a channel and its worker, and it is the one that the
state of the channel waits for. `run_paired`: every answer that the listener hears is what an
engine with the dataset accepted last gives for the query accepted last.
-/

namespace RefViewer

inductive Message where
  | request (request : Request)
  | response (response : Response)
  deriving DecidableEq

namespace Message

/-- The state of a viewer that waits for the message, or for the answer to it. -/
def awaited : Message → ChannelState
  | .request (.init _) | .response .initComplete => .initializing
  | .request (.filter _) | .response _ => .filtering

end Message

namespace World

/-- Responses that have not been taken, the request at hand, and requests that have not been
taken. -/
def inFlight (world : World) : List Message :=
  world.link.responses.map .response ++ (world.worker.handling.toList.map .request ++
    world.link.requests.map .request)

/-- One message is under way when the viewer waits, and it is for this state; otherwise none
is. -/
def InStep (world : World) : Prop :=
  match world.channel.state with
  | .idle | .ready => world.inFlight = []
  | .initializing | .filtering =>
    ∃ message, world.inFlight = [message] ∧ message.awaited = world.channel.state

end World

-- ---------------------------------------------------------------------------
-- What a run has accepted and heard
-- ---------------------------------------------------------------------------

namespace Turn

def dataset? (turn : Turn) : Option Dataset :=
  match turn.action with
  | .load dataset => if turn.submission = some .dropped then none else some dataset
  | _ => none

def query? (turn : Turn) : Option String :=
  match turn.action with
  | .filter query => if turn.submission = some .dropped then none else some query
  | _ => none

end Turn

def lastDataset (trace : List Turn) : Option Dataset := trace.findSome? Turn.dataset?

def lastQuery (trace : List Turn) : Option String := trace.findSome? Turn.query?

namespace Event

def isAnswer : Event → Bool
  | .initComplete => false
  | .filterComplete _ => true
  | .failed failure => failure.isQuery

/-- The event carries what every engine with the dataset gives for the query. -/
def Answers (event : Event) (dataset : Dataset) (query : String) : Prop :=
  ∀ engine, Engine.Holds engine (some dataset) →
    match event with
    | .filterComplete results => (engine.filter query).1 = .ok results
    | .failed (.query message _) =>
      ∃ failure, (engine.filter query).1 = .error failure ∧ failure.text = message
    | _ => False

def AnswersLast (event : Event) (dataset : Option Dataset) (query : Option String) : Prop :=
  ∃ d q, dataset = some d ∧ query = some q ∧ event.Answers d q

end Event

-- ---------------------------------------------------------------------------
-- The worker answers honestly
-- ---------------------------------------------------------------------------

namespace Engine

theorem Holds.handle_filter (h : Holds engine (some dataset)) (query : String) :
    (engine.handle (.filter query)).1 ≠ .initComplete ∧
      (Channel.eventOf (engine.handle (.filter query)).1).Answers dataset query ∧
      (engine.handle (.filter query)).2.Holds (some dataset) := by
  rw [Engine.handle_filter]
  have hsame (other : Engine) (ho : other.Holds (some dataset)) :
      (other.filter query).1 = (engine.filter query).1 := by
    rw [ho.filter_result, h.filter_result]
  cases hr : (engine.filter query).1 with
  | ok results => exact ⟨nofun, fun other ho => (hsame other ho).trans hr, h.filter query⟩
  | error failure =>
    exact ⟨nofun, fun other ho => ⟨failure, (hsame other ho).trans hr, rfl⟩, h.filter query⟩

theorem Holds.handle (h : Holds engine held) (request : Request) :
    ∃ held, (engine.handle request).2.Holds held := by
  cases request with
  | init dataset => exact ⟨_, h.load dataset⟩
  | filter query =>
    rw [Engine.handle_filter]
    exact ⟨_, h.filter query⟩

end Engine

-- ---------------------------------------------------------------------------
-- The invariant
-- ---------------------------------------------------------------------------

def ChannelState.Free (state : ChannelState) : Prop := state = .idle ∨ state = .ready

/-- The message is the one that the state waits for, and it is about what was accepted last. -/
def Due (dataset : Option Dataset) (query : Option String) (state : ChannelState) :
    Message → Prop
  | .request (.init data) => state = .initializing ∧ dataset = some data
  | .request (.filter text) => state = .filtering ∧ query = some text
  | .response .initComplete => state = .initializing
  | .response response =>
    state = .filtering ∧ (Channel.eventOf response).AnswersLast dataset query

theorem Due.awaited (h : Due dataset query state message) : state = message.awaited := by
  cases message with
  | request request => cases request <;> exact h.1
  | response response =>
    cases response with
    | initComplete => exact h
    | filterComplete results => exact h.1
    | filterError error => exact h.1

theorem Due.not_free (h : Due dataset query state message) : ¬ state.Free := by
  rw [h.awaited, ChannelState.Free]
  cases message with
  | request request => cases request <;> simp [Message.awaited]
  | response response => cases response <;> simp [Message.awaited]

theorem Due.answersLast (h : Due dataset query state (.response response))
    (ha : (Channel.eventOf response).isAnswer = true) :
    (Channel.eventOf response).AnswersLast dataset query := by
  cases response with
  | initComplete => simp [Channel.eventOf, Event.isAnswer] at ha
  | filterComplete results => exact h.2
  | filterError error => exact h.2

/-- How a world stands to the dataset and the query that were accepted last. A queued response
is due even when its sender has closed. The messages that the worker still has to deal with
are due as long as it can answer, and then it serves the right dataset. -/
structure Paired (dataset : Option Dataset) (query : Option String) (world : World) : Prop where
  saved : world.channel.dataset = dataset
  engine : ∃ held, world.worker.engine.Holds held
  arrived : world.link.responses = [] ∨
    ∃ response, world.link.responses = [response] ∧
      Due dataset query world.channel.state (.response response)
  inFlight : world.link.responsesOpen = true →
    (world.inFlight = [] ∧ (world.link.requestsOpen = true → world.channel.state.Free)) ∨
    ∃ message, world.inFlight = [message] ∧ Due dataset query world.channel.state message
  served : world.link.responsesOpen = true →
    world.channel.state = .ready ∨ world.channel.state = .filtering ∨ world.link.responses ≠ [] →
    ∃ data, dataset = some data ∧ world.worker.engine.Holds (some data)

namespace Paired

variable {dataset : Option Dataset} {query : Option String} {world : World}

theorem start (channelCapacity workerCapacity : Nat) :
    Paired none none ⟨.new channelCapacity, .new workerCapacity⟩ where
  saved := rfl
  engine := ⟨none, .new workerCapacity⟩
  arrived := .inl rfl
  inFlight _ := .inl ⟨rfl, fun _ => .inl rfl⟩
  served _ h := by simp [Channel.new, World.link, Link.new] at h

theorem of_closed (saved : world.channel.dataset = dataset)
    (engine : ∃ held, world.worker.engine.Holds held)
    (arrived : world.link.responses = [] ∨ ∃ response, world.link.responses = [response] ∧
      Due dataset query world.channel.state (.response response))
    (hc : world.link.responsesOpen = false) : Paired dataset query world :=
  ⟨saved, engine, arrived, fun ho => absurd ho (by simp [hc]), fun ho => absurd ho (by simp [hc])⟩

theorem with_saved (h : Paired dataset query world) :
    { world.channel with dataset := dataset } = world.channel := by rw [← h.saved]

theorem no_responses (h : Paired dataset query world) (hf : world.channel.state.Free) :
    world.link.responses = [] := by
  rcases h.arrived with hr | ⟨response, -, hd⟩
  · exact hr
  · exact absurd hf hd.not_free

theorem nothing_inFlight (h : Paired dataset query world) (hf : world.channel.state.Free)
    (ho : world.link.responsesOpen = true) : world.inFlight = [] := by
  rcases h.inFlight ho with ⟨hn, -⟩ | ⟨message, -, hd⟩
  · exact hn
  · exact absurd hf hd.not_free

-- ---------------------------------------------------------------------------
-- Each step keeps it
-- ---------------------------------------------------------------------------

/-- A request goes out from a free state; a query only where the worker serves the dataset. -/
theorem post {after : Option Dataset} {asked : Option String} {request : Request}
    (h : Paired dataset query world) (hf : world.channel.state.Free)
    (hd : Due after asked state (.request request))
    (hs : state = .filtering → world.channel.state = .ready ∧ after = dataset) :
    Paired after asked
      { world with channel := { world.channel with dataset := after }.posted state request } where
  saved := rfl
  engine := h.engine
  arrived := .inl (h.no_responses hf)
  inFlight ho := by
    have hn := h.nothing_inFlight hf ho
    refine .inr ⟨.request request, ?_, hd⟩
    simp only [World.inFlight, List.append_eq_nil_iff, List.map_eq_nil_iff] at hn
    simp [World.inFlight, World.link, Channel.posted] at hn ⊢
    simp [hn]
  served ho hstate := by
    have hfree := hd.not_free
    rcases hstate with hr | hr | hr
    · exact absurd (.inr hr) hfree
    · obtain ⟨hready, rfl⟩ := hs hr
      exact h.served ho (.inl hready)
    · exact absurd (h.no_responses hf) hr

/-- A loss is told once nothing can arrive any more, whatever was asked for. -/
theorem lose (after : Option Dataset) (asked : Option String) (h : Paired dataset query world)
    (hr : world.link.responses = [])
    (ho : world.link.responsesOpen = true → world.inFlight = [])
    (hd : world.channel.state = .idle ∨ after = dataset) :
    Paired after asked
      { world with channel := { world.channel with dataset := after }.lost } where
  saved := rfl
  engine := h.engine
  arrived := .inl hr
  inFlight hopen := by
    refine .inl ⟨ho hopen, fun _ => ?_⟩
    cases hs : world.channel.state <;> simp [Channel.lost, Channel.settled, ChannelState.Free, hs]
  served hopen hstate := by
    rcases hd with hidle | rfl
    · exfalso
      simp [Channel.lost, Channel.settled, hidle, World.link] at hstate
      exact hstate hr
    · apply h.served hopen
      cases hs : world.channel.state <;>
        simp [Channel.lost, Channel.settled, hs, World.link] at hstate ⊢ <;> exact hstate

/-- No two responses wait at a time. -/
theorem deliver (h : Paired dataset query world) (hr : world.link.responses = response :: rest) :
    rest = [] ∧ Due dataset query world.channel.state (.response response) ∧
      Paired dataset query { world with channel := world.channel.delivered rest } := by
  obtain ⟨rfl, hd⟩ : rest = [] ∧ Due dataset query world.channel.state (.response response) := by
    rcases h.arrived with hn | ⟨other, hs, hd⟩
    · simp [hn] at hr
    · obtain ⟨rfl, rfl⟩ : other = response ∧ [] = rest := by simpa [hs] using hr
      exact ⟨rfl, hd⟩
  refine ⟨rfl, hd, h.saved, h.engine, .inl rfl, fun ho => .inl ⟨?_, fun _ => .inr rfl⟩,
    fun ho _ => h.served ho (.inr (.inr (by simp [hr])))⟩
  rcases h.inFlight ho with ⟨hn, -⟩ | ⟨message, hs, -⟩
  · simp [World.inFlight, hr] at hn
  · simp [World.inFlight, hr] at hs
    simp [World.inFlight, World.link, Channel.delivered] at hs ⊢
    exact hs.2

theorem restarted (h : Paired dataset query world) :
    Paired dataset query
      ⟨world.channel.restart.2.2, .new world.channel.restart.2.2.cacheCapacity⟩ := by
  cases hd : world.channel.dataset with
  | none =>
    rw [Channel.restart_none hd]
    exact ⟨h.saved, ⟨none, .new _⟩, .inl rfl, fun _ => .inl ⟨rfl, fun _ => .inl rfl⟩,
      fun _ hs => by simp [World.link, Link.new] at hs⟩
  | some data =>
    rw [Channel.restart_some hd]
    refine ⟨h.saved, ⟨none, .new _⟩, .inl rfl, fun _ => .inr ?_,
      fun _ hs => by simp [Channel.posted, World.link, Link.new] at hs⟩
    exact ⟨.request (.init data), rfl, rfl, h.saved.symm.trans hd⟩

theorem take (h : Paired dataset query world) :
    Paired dataset query (World.setLink { world with worker := (world.worker.take world.link).1 }
      (world.worker.take world.link).2) := by
  rcases world.worker.take_cases world.link with he | ⟨request, rest, hh, hr, he⟩
  · rw [he]
    exact h
  · rw [he]
    have hsame : (World.setLink
        { world with worker := { world.worker with handling := some request } }
        { world.link with requests := rest }).inFlight = world.inFlight := by
      simp [World.inFlight, World.setLink, World.link] at hr ⊢
      simp [hh, hr]
    exact ⟨h.saved, h.engine, h.arrived, fun ho => hsame ▸ h.inFlight ho, h.served⟩

/-- A request at hand is the only message, and the one that the viewer waits for. -/
theorem handling_alone (h : Paired dataset query world)
    (hh : world.worker.handling = some request) (ho : world.link.responsesOpen = true) :
    world.link.responses = [] ∧ world.link.requests = [] ∧
      Due dataset query world.channel.state (.request request) := by
  rcases h.inFlight ho with ⟨hn, -⟩ | ⟨message, hs, hd⟩
  · simp [World.inFlight, hh] at hn
  · have hmem : Message.request request ∈ world.inFlight := by simp [World.inFlight, hh]
    rw [hs] at hmem
    obtain rfl := List.mem_singleton.mp hmem
    simp only [World.inFlight, hh, Option.toList_some, List.map_cons, List.map_nil] at hs
    cases hr : world.link.responses with
    | nil => exact ⟨rfl, by simpa [hr] using hs, hd⟩
    | cons response rest => simp [hr] at hs

theorem handled_due (h : Paired dataset query world)
    (hh : world.worker.handling = some request) (ho : world.link.responsesOpen = true) :
    Due dataset query world.channel.state (.response (world.worker.engine.handle request).1) ∧
      ∃ data, dataset = some data ∧ (world.worker.engine.handle request).2.Holds (some data) := by
  obtain ⟨-, -, hd⟩ := h.handling_alone hh ho
  obtain ⟨held, hheld⟩ := h.engine
  cases request with
  | init data => exact ⟨hd.1, data, hd.2, hheld.load data⟩
  | filter text =>
    obtain ⟨data, hdata, hserved⟩ := h.served ho (.inr (.inl hd.1))
    obtain ⟨hnot, ha, hafter⟩ := hserved.handle_filter text
    refine ⟨?_, data, hdata, hafter⟩
    cases hresponse : (world.worker.engine.handle (.filter text)).1 with
    | initComplete => exact absurd hresponse hnot
    | _ => exact ⟨hd.1, data, text, hdata, hd.2, hresponse ▸ ha⟩

theorem answer (h : Paired dataset query world) :
    Paired dataset query (World.setLink { world with worker := (world.worker.answer world.link).1 }
      (world.worker.answer world.link).2) := by
  rcases world.worker.answer_cases world.link with ⟨-, he⟩ | ⟨request, hh, hw, hl⟩
  · rw [he]
    exact h
  rw [hw, hl]
  obtain ⟨held, hheld⟩ := h.engine
  have hengine := hheld.handle request
  cases ho : world.link.responsesOpen with
  | false => exact .of_closed h.saved hengine h.arrived ho
  | true =>
    obtain ⟨hresponses, hrequests, -⟩ := h.handling_alone hh ho
    obtain ⟨hdue, hserves⟩ := h.handled_due hh ho
    refine ⟨h.saved, hengine, .inr ⟨_, ?_, hdue⟩, fun _ => .inr ⟨_, ?_, hdue⟩,
      fun _ _ => hserves⟩
    · simp [World.setLink, World.link] at hresponses ⊢
      simp [hresponses]
    · simp [World.inFlight, World.setLink, World.link] at hresponses hrequests ⊢
      simp [hresponses, hrequests]

theorem closeRequests (h : Paired dataset query world) :
    Paired dataset query (world.setLink world.link.closeRequests) where
  saved := h.saved
  engine := h.engine
  arrived := h.arrived
  inFlight ho := by
    -- A request that was not taken is lost, a message elsewhere stays.
    have hkeep : (world.setLink world.link.closeRequests).inFlight =
        world.link.responses.map .response ++ world.worker.handling.toList.map .request := by
      simp [World.inFlight, World.setLink, World.link, Link.closeRequests]
    have hclosed : (world.setLink world.link.closeRequests).link.requestsOpen = true →
        world.channel.state.Free := nofun
    rw [hkeep]
    rcases h.inFlight ho with ⟨hn, -⟩ | ⟨message, hs, hd⟩
    · refine .inl ⟨?_, hclosed⟩
      rw [World.inFlight, ← List.append_assoc, List.append_eq_nil_iff] at hn
      exact hn.1
    · rw [World.inFlight, ← List.append_assoc, List.append_eq_singleton_iff] at hs
      rcases hs with ⟨hn, -⟩ | ⟨hs, -⟩
      · exact .inl ⟨hn, hclosed⟩
      · exact .inr ⟨message, hs, hd⟩
  served := h.served

theorem closeResponses (h : Paired dataset query world) :
    Paired dataset query (world.setLink world.link.closeResponses) :=
  .of_closed h.saved h.engine h.arrived rfl

theorem die (h : Paired dataset query world) :
    Paired dataset query
      (World.setLink { world with worker := { world.worker with handling := none } }
        world.link.closeRequests.closeResponses) :=
  .of_closed h.saved h.engine h.arrived rfl

theorem disconnect (h : Paired dataset query world) (hr : world.link.responses = [])
    (hc : world.link.responsesOpen = false) :
    Paired dataset query { world with channel := world.channel.disconnect.2 } ∧
      ∀ event ∈ world.channel.disconnect.1, event.isAnswer = false := by
  rcases world.channel.disconnect_cases with ⟨-, he⟩ | ⟨-, he⟩
  · rw [he]
    exact ⟨h, by simp⟩
  · rw [he]
    refine ⟨?_, by simp [Event.isAnswer, TransportFault.failure, Failure.isQuery]⟩
    have hlost := h.lose dataset query hr (by simp [hc]) (.inr rfl)
    rwa [h.with_saved] at hlost

theorem receive (h : Paired dataset query world) (hr : world.link.responses = response :: rest) :
    Paired dataset query { world with channel := world.channel.delivered rest } ∧
      ∀ event ∈ [Channel.eventOf response], event.isAnswer = true →
        event.AnswersLast dataset query := by
  obtain ⟨-, hd, hafter⟩ := h.deliver hr
  refine ⟨hafter, fun event he ha => ?_⟩
  obtain rfl := List.mem_singleton.mp he
  exact hd.answersLast ha

theorem pump (h : Paired dataset query world) :
    Paired dataset query { world with channel := world.channel.pump.2.2 } ∧
      ∀ event ∈ world.channel.pump.2.1, event.isAnswer = true →
        event.AnswersLast dataset query := by
  rcases h.arrived with hr | ⟨response, hr, -⟩
  · rw [Channel.pump_nil hr]
    cases ho : world.channel.link.responsesOpen with
    | true => exact ⟨h, by simp⟩
    | false =>
      obtain ⟨hafter, hnone⟩ := h.disconnect hr ho
      exact ⟨hafter, fun event he ha => absurd ha (by simp [hnone event he])⟩
  · obtain ⟨-, hd, hafter⟩ := h.deliver hr
    rw [Channel.pump_singleton hr]
    cases ho : world.channel.link.responsesOpen with
    | true => exact h.receive hr
    | false =>
      obtain ⟨hlast, hnone⟩ := hafter.disconnect rfl ho
      refine ⟨hlast, fun event he ha => ?_⟩
      rcases List.mem_cons.mp he with rfl | he
      · exact hd.answersLast ha
      · exact absurd ha (by simp [hnone event he])

theorem load (h : Paired dataset query world) (data : Dataset) :
    Paired (if (world.channel.load data).1 = .dropped then dataset else some data) query
        { world with channel := (world.channel.load data).2.2 } ∧
      ∀ event ∈ (world.channel.load data).2.1, event.isAnswer = false := by
  rcases world.channel.load_cases data with ⟨-, he⟩ | ⟨hs, -, he⟩ | ⟨hs, -, he⟩
  · rw [he]
    exact ⟨h, by simp⟩
  · rw [he]
    exact ⟨h.post (.inl hs) ⟨rfl, rfl⟩ nofun, by simp⟩
  · rw [he]
    refine ⟨h.lose _ _ (h.no_responses (.inl hs)) (h.nothing_inFlight (.inl hs)) (.inl hs), ?_⟩
    simp [Event.isAnswer, TransportFault.failure, Failure.isQuery]

theorem filter (h : Paired dataset query world) (text : String) :
    Paired dataset (if (world.channel.filter text).1 = .dropped then query else some text)
        { world with channel := (world.channel.filter text).2.2 } ∧
      ∀ event ∈ (world.channel.filter text).2.1, event.isAnswer = false := by
  rcases world.channel.filter_cases text with ⟨-, he⟩ | ⟨hs, -, he⟩ | ⟨hs, -, he⟩
  · rw [he]
    exact ⟨h, by simp⟩
  · rw [he]
    have hdue : Due dataset (some text) .filtering (.request (.filter text)) := ⟨rfl, rfl⟩
    have hposted := h.post (.inr hs) hdue fun _ => ⟨hs, rfl⟩
    rw [h.with_saved] at hposted
    exact ⟨hposted, by simp⟩
  · rw [he]
    have hlost := h.lose dataset (some text) (h.no_responses (.inr hs))
      (h.nothing_inFlight (.inr hs)) (.inr rfl)
    rw [h.with_saved] at hlost
    exact ⟨hlost, by simp [Event.isAnswer, TransportFault.failure, Failure.isQuery]⟩

end Paired

/-- One turn keeps a world paired, and every answer that is heard in it is the one asked for. -/
theorem Paired.act {world : World}
    (h : Paired (lastDataset trace) (lastQuery trace) world)
    (ha : world.act action = some (turn, after)) :
    Paired (lastDataset (turn :: trace)) (lastQuery (turn :: trace)) after ∧
      ∀ event ∈ turn.events, event.isAnswer = true →
        event.AnswersLast (lastDataset trace) (lastQuery trace) := by
  have hdataset : lastDataset (turn :: trace) = (turn.dataset?).or (lastDataset trace) := by
    cases hd : turn.dataset? <;> simp [lastDataset, hd]
  have hquery : lastQuery (turn :: trace) = (turn.query?).or (lastQuery trace) := by
    cases hd : turn.query? <;> simp [lastQuery, hd]
  rw [hdataset, hquery]
  have hsilent {events : List Event} (hn : ∀ event ∈ events, event.isAnswer = false) :
      ∀ event ∈ events, event.isAnswer = true →
        event.AnswersLast (lastDataset trace) (lastQuery trace) :=
    fun event he ha => absurd ha (by simp [hn event he])
  cases action with
  | load data =>
    obtain ⟨rfl, rfl⟩ : _ ∧ _ := by simpa [World.act] using ha
    obtain ⟨hafter, hnone⟩ := h.load data
    refine ⟨?_, hsilent hnone⟩
    simp only [Turn.dataset?, Turn.query?, Option.some.injEq, Option.none_or]
    split at hafter <;> simp_all
  | filter text =>
    obtain ⟨rfl, rfl⟩ : _ ∧ _ := by simpa [World.act] using ha
    obtain ⟨hafter, hnone⟩ := h.filter text
    refine ⟨?_, hsilent hnone⟩
    simp only [Turn.dataset?, Turn.query?, Option.some.injEq, Option.none_or]
    split at hafter <;> simp_all
  | pump =>
    obtain ⟨rfl, rfl⟩ : _ ∧ _ := by simpa [World.act] using ha
    exact h.pump
  | wait =>
    rcases World.act_wait ha with ⟨response, rest, hr, rfl, rfl⟩ | ⟨hr, hc, rfl, rfl⟩
    · exact h.receive hr
    · obtain ⟨hafter, hnone⟩ := h.disconnect hr hc
      exact ⟨hafter, hsilent hnone⟩
  | receive =>
    obtain ⟨response, rest, hr, rfl, rfl⟩ := World.act_receive ha
    exact h.receive hr
  | disconnect =>
    obtain ⟨hr, hc, rfl, rfl⟩ := World.act_disconnect ha
    obtain ⟨hafter, hnone⟩ := h.disconnect hr hc
    exact ⟨hafter, hsilent hnone⟩
  | restart =>
    obtain ⟨rfl, rfl⟩ : _ ∧ _ := by simpa [World.act] using ha
    exact ⟨h.restarted, hsilent (by simp [Channel.restart_events])⟩
  | take =>
    obtain ⟨rfl, rfl⟩ : _ ∧ _ := by simpa [World.act, World.silent] using ha
    exact ⟨h.take, hsilent (by simp)⟩
  | answer =>
    obtain ⟨rfl, rfl⟩ : _ ∧ _ := by simpa [World.act, World.silent] using ha
    exact ⟨h.answer, hsilent (by simp)⟩
  | closeRequests =>
    obtain ⟨rfl, rfl⟩ : _ ∧ _ := by simpa [World.act, World.silent] using ha
    exact ⟨h.closeRequests, hsilent (by simp)⟩
  | closeResponses =>
    obtain ⟨rfl, rfl⟩ : _ ∧ _ := by simpa [World.act, World.silent] using ha
    exact ⟨h.closeResponses, hsilent (by simp)⟩
  | die =>
    obtain ⟨rfl, rfl⟩ : _ ∧ _ := by simpa [World.act, World.silent] using ha
    exact ⟨h.die, hsilent (by simp)⟩

theorem Run.paired (h : Run trace world) : Paired (lastDataset trace) (lastQuery trace) world := by
  induction h with
  | start channelCapacity workerCapacity => exact .start channelCapacity workerCapacity
  | next _ ha ih => exact (ih.act ha).1

theorem Run.answersLast (h : Run trace world) (hs : trace = later ++ turn :: earlier)
    (he : event ∈ turn.events) (ha : event.isAnswer = true) :
    event.AnswersLast (lastDataset earlier) (lastQuery earlier) := by
  induction h generalizing later with
  | start => simp at hs
  | next hrun hact ih =>
    cases later with
    | nil =>
      obtain ⟨rfl, rfl⟩ := List.cons.inj hs
      exact (hrun.paired.act hact).2 event he ha
    | cons newest later => exact ih (List.cons.inj hs).2

theorem Paired.inStep {world : World} (h : Paired dataset query world)
    (hresponses : world.link.responsesOpen = true) (hrequests : world.link.requestsOpen = true) :
    world.InStep := by
  rcases h.inFlight hresponses with ⟨hn, hf⟩ | ⟨message, hs, hd⟩
  · rcases hf hrequests with hstate | hstate <;> simp [World.InStep, hstate, hn]
  · have hawaited := hd.awaited
    have hbusy := hd.not_free
    unfold World.InStep
    split
    · rename_i hidle; exact absurd (.inl hidle) hbusy
    · rename_i hready; exact absurd (.inr hready) hbusy
    · exact ⟨message, hs, hawaited.symm⟩
    · exact ⟨message, hs, hawaited.symm⟩

/-- While the current worker can answer, at most one message is under way; while it is wholly
alive, this is the one that the state waits for. Every answer that the listener hears is what
an engine with the dataset accepted last gives for the query accepted last. -/
theorem run_paired (h : Run trace world) :
    (world.link.responsesOpen = true → world.inFlight.length ≤ 1 ∧
      (world.link.requestsOpen = true → world.InStep)) ∧
    (∀ later turn earlier, trace = later ++ turn :: earlier →
      ∀ event ∈ turn.events, event.isAnswer = true →
        event.AnswersLast (lastDataset earlier) (lastQuery earlier)) := by
  refine ⟨fun ho => ⟨?_, h.paired.inStep ho⟩, fun later turn earlier hs event he ha =>
    h.answersLast hs he ha⟩
  rcases h.paired.inFlight ho with ⟨hn, -⟩ | ⟨message, hs, -⟩
  · simp [hn]
  · simp [hs]

/-- The worker dies with a query in its queue and is replaced; the next query is answered. -/
theorem run_paired_after_restart : ∃ trace world, Run trace world ∧
    world.link.responsesOpen = true ∧ world.link.requestsOpen = true ∧
    world.channel.state = .ready ∧ world.inFlight = [] ∧
    ∃ turn ∈ trace, ∃ event ∈ turn.events,
      event = .filterComplete [.enumType redAndHiddenBlue] ∧
        event.Answers partAndColor "hidden" := by
  obtain ⟨trace, world, hrun, hend⟩ := Run.of_perform 8 8
    [.load partAndColor, .take, .answer, .wait, .filter "deprecated", .die, .pump,
      .restart, .take, .answer, .receive, .filter "hidden", .take, .answer, .pump]
    (fun trace world => world.link.responsesOpen && world.link.requestsOpen &&
      world.channel.state = .ready && lastDataset trace.tail = some partAndColor &&
      lastQuery trace.tail = some "hidden" &&
      trace.head?.map Turn.events = some [.filterComplete [.enumType redAndHiddenBlue]])
    (by decide +kernel)
  simp only [Bool.and_eq_true, decide_eq_true_eq] at hend
  obtain ⟨⟨⟨⟨⟨hresponses, hrequests⟩, hready⟩, hdataset⟩, hquery⟩, hheard⟩ := hend
  obtain ⟨hmessages, hanswers⟩ := run_paired hrun
  have hstep := (hmessages hresponses).2 hrequests
  simp only [World.InStep, hready] at hstep
  obtain ⟨turn, earlier, rfl⟩ : ∃ turn earlier, trace = turn :: earlier := by
    cases trace with
    | nil => simp at hheard
    | cons turn earlier => exact ⟨turn, earlier, rfl⟩
  rw [List.tail_cons] at hdataset hquery
  have hevents : turn.events = [.filterComplete [.enumType redAndHiddenBlue]] := by
    simpa using hheard
  obtain ⟨data, query, hd, hq, ha⟩ :=
    hanswers [] turn earlier rfl _ (hevents ▸ List.mem_singleton_self _) rfl
  obtain rfl := Option.some.inj (hd.symm.trans hdataset)
  obtain rfl := Option.some.inj (hq.symm.trans hquery)
  exact ⟨_, world, hrun, hresponses, hrequests, hready, hstep, turn, List.mem_cons_self, _,
    hevents ▸ List.mem_singleton_self _, rfl, ha⟩

end RefViewer
