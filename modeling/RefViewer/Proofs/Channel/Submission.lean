import RefViewer.Proofs.Channel.World
import RefViewer.Proofs.Engine.Reuse

/-!
# Submissions

A request is dropped, fails or goes out, and the channel tells which. `submit_atomic`: one that is
dropped changes nothing. One that fails leaves the state and the link as they were, and its dataset
goes to the worker of a later restart. One that goes out puts itself into the queue and nothing
else.
-/

namespace RefViewer

-- ---------------------------------------------------------------------------
-- One submission
-- ---------------------------------------------------------------------------

namespace Request

def awaits : Request → ChannelState
  | .init _ => .idle
  | .filter _ => .ready

def busy : Request → ChannelState
  | .init _ => .initializing
  | .filter _ => .filtering

theorem settled_awaits (request : Request) :
    Channel.settled request.awaits = request.awaits := by
  cases request <;> rfl

end Request

namespace Channel

def submit (channel : Channel) : Request → Submission × List Event × Channel
  | .init dataset => channel.load dataset
  | .filter query => channel.filter query

def holding (channel : Channel) : Request → Channel
  | .init dataset => { channel with dataset := some dataset }
  | .filter _ => channel

@[simp] theorem holding_state (channel : Channel) (request : Request) :
    (channel.holding request).state = channel.state := by
  cases request <;> rfl

@[simp] theorem holding_link (channel : Channel) (request : Request) :
    (channel.holding request).link = channel.link := by
  cases request <;> rfl

theorem submit_cases (channel : Channel) (request : Request) :
    (channel.state ≠ request.awaits ∧ channel.submit request = (.dropped, [], channel)) ∨
    (channel.state = request.awaits ∧ channel.link.requestsOpen = true ∧
      channel.submit request =
        (.sent, [], (channel.holding request).posted request.busy request)) ∨
    (channel.state = request.awaits ∧ channel.link.requestsOpen = false ∧
      channel.submit request =
        (.failed, [.failed TransportFault.notRunning.failure],
          (channel.holding request).lost)) := by
  cases request with
  | init dataset => exact channel.load_cases dataset
  | filter query => exact channel.filter_cases query

end Channel

-- ---------------------------------------------------------------------------
-- Until a restart
-- ---------------------------------------------------------------------------

def Turn.hands (turn : Turn) : Prop :=
  ∃ dataset, turn.action = .load dataset ∧ turn.submission ≠ some .dropped

namespace World

variable {world after : World}

theorem act_dataset (ha : world.act action = some (turn, after)) (quiet : ¬ turn.hands) :
    after.channel.dataset = world.channel.dataset := by
  cases action with
  | load dataset =>
    simp only [act, Option.some.injEq, Prod.mk.injEq] at ha
    obtain ⟨rfl, rfl⟩ := ha
    rcases world.channel.load_cases dataset with ⟨-, same⟩ | ⟨-, -, sent⟩ | ⟨-, -, failed⟩
    · rw [same]
    · exact absurd ⟨dataset, rfl, by simp [sent]⟩ quiet
    · exact absurd ⟨dataset, rfl, by simp [failed]⟩ quiet
  | filter query =>
    obtain ⟨-, rfl⟩ : _ ∧ _ := by simpa [act] using ha
    exact world.channel.filter_dataset query
  | pump =>
    obtain ⟨-, rfl⟩ : _ ∧ _ := by simpa [act] using ha
    exact world.channel.pump_dataset
  | restart =>
    obtain ⟨-, rfl⟩ : _ ∧ _ := by simpa [act] using ha
    exact world.channel.restart_dataset
  | wait =>
    rcases act_wait ha with ⟨response, rest, -, -, rfl⟩ | ⟨-, -, -, rfl⟩
    · rfl
    · exact world.channel.disconnect_dataset
  | receive =>
    obtain ⟨response, rest, -, -, rfl⟩ := act_receive ha
    rfl
  | disconnect =>
    obtain ⟨-, -, -, rfl⟩ := act_disconnect ha
    exact world.channel.disconnect_dataset
  | take | answer | closeRequests | closeResponses | die =>
    obtain ⟨-, rfl⟩ : _ ∧ _ := by simpa [act, silent] using ha
    rfl

theorem perform_keeps (hp : world.perform trace actions = some (turns, after)) :
    ∀ turn ∈ trace, turn ∈ turns := by
  induction actions generalizing trace world with
  | nil =>
    obtain ⟨rfl, -⟩ : trace = turns ∧ world = after := by simpa [perform] using hp
    exact fun turn => id
  | cons action rest ih =>
    simp only [perform, Option.bind_eq_some_iff] at hp
    obtain ⟨⟨first, next⟩, -, hp⟩ := hp
    exact fun turn earlier => ih hp turn (List.mem_cons_of_mem first earlier)

theorem perform_dataset (hp : world.perform trace actions = some (turns, after))
    (quiet : ∀ turn ∈ turns, ¬ turn.hands) :
    after.channel.dataset = world.channel.dataset := by
  induction actions generalizing trace world with
  | nil =>
    obtain ⟨-, rfl⟩ : trace = turns ∧ world = after := by simpa [perform] using hp
    rfl
  | cons action rest ih =>
    simp only [perform, Option.bind_eq_some_iff] at hp
    obtain ⟨⟨first, next⟩, ha, hp⟩ := hp
    have listed := perform_keeps hp first List.mem_cons_self
    exact (ih hp).trans (act_dataset ha (quiet first listed))

end World

-- ---------------------------------------------------------------------------
-- Whole submissions
-- ---------------------------------------------------------------------------

/-- On any channel, a request is dropped in the wrong state, and fails in the right one if the
worker takes no requests. A dropped one leaves the channel as it is and tells nothing. A failed one
keeps the state and the link, and tells one loss. Its dataset is then sent by every restart before
which no other dataset is handed over. A request that goes out is added to the queue, and nothing
is told. -/
theorem submit_atomic {channel after : Channel}
    (submitted : channel.submit request = (submission, events, after)) :
    (submission = .dropped ↔ channel.state ≠ request.awaits) ∧
    (submission = .failed ↔
      channel.state = request.awaits ∧ channel.link.requestsOpen = false) ∧
    (submission = .dropped → after = channel ∧ events = []) ∧
    (submission = .failed →
      after.state = channel.state ∧ after.link = channel.link ∧
      (∃ text, events = [.failed (.channel text)]) ∧
      ∀ dataset, request = .init dataset →
        ∀ worker actions turns later,
          World.perform [] ⟨after, worker⟩ actions = some (turns, later) →
          (∀ turn ∈ turns, ¬ turn.hands) →
          later.channel.restart.1 = .sent ∧
            later.channel.restart.2.2.link = { Link.new with requests := [.init dataset] }) ∧
    (submission = .sent →
      after.link = { channel.link with requests := channel.link.requests ++ [request] } ∧
      events = []) := by
  rcases channel.submit_cases request with
    ⟨wrong, made⟩ | ⟨right, isOpen, made⟩ | ⟨right, shut, made⟩
  · obtain ⟨rfl, rfl, rfl⟩ : _ ∧ _ ∧ _ := by simpa [made] using submitted
    exact ⟨by simp [wrong], by simp [wrong], fun _ => ⟨rfl, rfl⟩, by simp, by simp⟩
  · obtain ⟨rfl, rfl, rfl⟩ : _ ∧ _ ∧ _ := by simpa [made] using submitted
    refine ⟨by simp [right], by simp [isOpen], by simp, by simp, fun _ => ⟨?_, rfl⟩⟩
    simp [Channel.posted]
  · obtain ⟨rfl, rfl, rfl⟩ : _ ∧ _ ∧ _ := by simpa [made] using submitted
    refine ⟨by simp [right], by simp [right, shut], by simp,
      fun _ => ⟨?_, ?_, ⟨_, rfl⟩, ?_⟩, by simp⟩
    · simp [Channel.lost, right, request.settled_awaits]
    · simp [Channel.lost]
    · rintro dataset rfl worker actions turns later hp quiet
      have held : later.channel.dataset = some dataset := World.perform_dataset hp quiet
      rw [Channel.restart_some held]
      exact ⟨rfl, rfl⟩

/-- The worker takes no requests any more, but an answer of its own is still on the way. -/
def shutOut : Channel := { Channel.new 8 with link := ⟨[], false, [.initComplete], true⟩ }

/-- A load fails; the answer comes, and a filter fails too. The restart still sends the dataset of
the load. -/
theorem submit_atomic_shut_out : ∃ events after turns later,
    shutOut.submit (.init partAndColor) = (.failed, events, after) ∧
      after.state = .idle ∧ after.link = shutOut.link ∧
      World.perform [] ⟨after, .new 8⟩ [.receive, .filter "hidden"] = some (turns, later) ∧
      later.channel.state = .ready ∧ later.channel.restart.1 = .sent ∧
      later.channel.restart.2.2.link = { Link.new with requests := [.init partAndColor] } := by
  have submitted : shutOut.submit (.init partAndColor) =
      (.failed, [.failed TransportFault.notRunning.failure],
        { shutOut with dataset := some partAndColor, disconnected := true }) := rfl
  obtain ⟨later, ran, ready⟩ : ∃ later : World, World.perform []
      ⟨{ shutOut with dataset := some partAndColor, disconnected := true }, .new 8⟩
      [.receive, .filter "hidden"] =
        some ([⟨.filter "hidden", some .failed, [.failed TransportFault.notRunning.failure]⟩,
          ⟨.receive, none, [.initComplete]⟩], later) ∧ later.channel.state = .ready :=
    ⟨_, rfl, rfl⟩
  obtain ⟨state, link, -, restarts⟩ := (submit_atomic submitted).2.2.2.1 rfl
  have sent := restarts partAndColor rfl _ _ _ later ran (by simp [Turn.hands])
  exact ⟨_, _, _, later, submitted, state, link, ran, ready, sent⟩

end RefViewer
