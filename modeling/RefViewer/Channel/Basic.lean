import RefViewer.Channel.Link

/-!
# Query channel

The viewer's side of a link. At most one request is under way: another one is dropped, not
queued. Each operation gives what the listener is told, in order. A transport that fails is
reported once, and leaves the channel in a state from which work can go on.
-/

namespace RefViewer

inductive ChannelState where
  | idle
  | initializing
  | ready
  | filtering
  deriving DecidableEq, Repr

inductive Submission where
  | sent
  /-- Not accepted in the current state. -/
  | dropped
  /-- The transport is gone, and the listener has been told. -/
  | failed
  deriving DecidableEq, Repr

inductive Event where
  | initComplete
  | filterComplete (results : List Entry)
  | failed (failure : Failure)
  deriving DecidableEq, Repr

inductive TransportFault where
  | notRunning
  | terminated
  deriving DecidableEq, Repr

def TransportFault.text : TransportFault → String
  | .notRunning => "Worker is not running"
  | .terminated => "Worker terminated unexpectedly"

def TransportFault.failure (fault : TransportFault) : Failure := .channel fault.text

structure Channel where
  state : ChannelState
  link : Link
  cacheCapacity : Nat
  /-- The dataset last handed over; a new worker gets it again. -/
  dataset : Option Dataset
  /-- Whether the loss of the transport has been reported. -/
  disconnected : Bool
  deriving DecidableEq, Repr

namespace Channel

def new (cacheCapacity : Nat) : Channel := ⟨.idle, .new, cacheCapacity, none, false⟩

/-- The state without the request that was under way. -/
def settled : ChannelState → ChannelState
  | .idle | .initializing => .idle
  | .ready | .filtering => .ready

def transportFailed (channel : Channel) (fault : TransportFault) : List Event × Channel :=
  ([.failed fault.failure],
    { channel with disconnected := true, state := settled channel.state })

def send (channel : Channel) (request : Request) : Submission × List Event × Channel :=
  match channel.link.send? request with
  | some link => (.sent, [], { channel with link })
  | none => (.failed, channel.transportFailed .notRunning)

def load (channel : Channel) (dataset : Dataset) : Submission × List Event × Channel :=
  if channel.state = .idle then
    { channel with dataset := some dataset, state := .initializing }.send (.init dataset)
  else (.dropped, [], channel)

def filter (channel : Channel) (query : String) : Submission × List Event × Channel :=
  if channel.state = .ready then
    { channel with state := .filtering }.send (.filter query)
  else (.dropped, [], channel)

def eventOf : Response → Event
  | .initComplete => .initComplete
  | .filterComplete results => .filterComplete results
  | .filterError error => .failed (.query error none)

def dispatch (channel : Channel) (response : Response) : List Event × Channel :=
  ([eventOf response], { channel with state := .ready })

def disconnect (channel : Channel) : List Event × Channel :=
  if channel.disconnected then ([], channel) else channel.transportFailed .terminated

def dispatchAll (channel : Channel) : List Response → List Event × Channel
  | [] => ([], channel)
  | response :: rest =>
    let (events, channel) := channel.dispatch response
    let (others, channel) := channel.dispatchAll rest
    (events ++ others, channel)

def pump (channel : Channel) : Nat × List Event × Channel :=
  let arrived := channel.link.responses
  let link := { channel.link with responses := [] }
  let (events, channel) := { channel with link }.dispatchAll arrived
  if link.responsesOpen then (arrived.length, events, channel)
  else
    let (more, channel) := channel.disconnect
    (arrived.length, events ++ more, channel)

/-- Takes in one response; nothing if it would have to come yet. The answer says whether the
worker is still there. -/
def wait? (channel : Channel) : Option (Bool × List Event × Channel) :=
  match channel.link.receive with
  | .response response link => some (true, { channel with link }.dispatch response)
  | .nothing => none
  | .closed => some (false, channel.disconnect)

def restart (channel : Channel) : Submission × List Event × Channel :=
  let fresh : Channel :=
    { channel with link := .new, disconnected := false, state := .idle, dataset := none }
  match channel.dataset with
  | some dataset => fresh.load dataset
  | none => (.dropped, [], fresh)

end Channel

end RefViewer
