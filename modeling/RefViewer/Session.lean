import RefViewer.Card.Targets
import RefViewer.Channel.Worker
import RefViewer.Settings

/-!
# Sessions

A viewer and its worker behind a terminal. A session answers one query and ends, or takes in
lines until the input ends and every query typed has been answered. What is shown and what is
said about it go to one sheet, in order.
-/

namespace RefViewer

structure Session where
  viewer : Viewer TextSheet
  worker : Worker
  inputOpen : Bool
  /-- How the session ended, once it has. -/
  outcome : Option (Except Failure Unit)

namespace Session

def new (settings : Settings) : Except Failure Session := do
  let viewer ← Viewer.new (.new settings.queryCacheCapacity) TextSheet.empty settings.viewer
  return ⟨viewer, .new settings.queryCacheCapacity, true, none⟩

def say (session : Session) (line : String) : Session :=
  let view := session.viewer.view
  { session with viewer := { session.viewer with view :=
    { view with target := view.target.writeLine line } } }

def sheet (session : Session) : TextSheet := session.viewer.view.target

/-- The worker handles a request and the viewer takes in the answer. -/
def answer? (session : Session) : Option (Bool × Session) :=
  let (worker, link) := session.worker.work session.viewer.channel.link
  let channel := { session.viewer.channel with link }
  { session.viewer with channel }.wait?.map fun (alive, viewer) =>
    (alive, { session with viewer, worker })

def fail (session : Session) (failure : Failure) : Session :=
  { session with outcome := some (.error failure) }

def workerLost : Failure := TransportFault.terminated.failure

def report (session : Session) : Session :=
  match session.viewer.view.error with
  | some error => session.say error
  | none =>
    if session.viewer.channel.state = .ready then session.say session.viewer.view.stats.text
    else session

/-! ## One query -/

def awaitAnswers : Nat → Session → Option Session
  | 0, session => some session
  | count + 1, session =>
    match session.answer? with
    | some (true, session) => session.awaitAnswers count
    | _ => none

/-- The query is held until the dataset is taken in. Two answers come: that one, and the
results. -/
def oneShot (session : Session) (dataset : Dataset) (query : String) : Session :=
  let (_, viewer) := session.viewer.setQuery query
  let (_, viewer) := viewer.load dataset
  let session := { session with viewer }
  match session.awaitAnswers 2 with
  | none => session.fail workerLost
  | some session =>
    match session.viewer.view.error with
    | some error => session.fail (.query error none)
    | none =>
      { session.say session.viewer.view.stats.text with outcome := some (.ok ()) }

/-! ## Input line by line -/

def greeting (metadata : Metadata) (now : Instant) : List String := [
  s!"API version {metadata.versionText} (updated {metadata.updatedText now})",
  "Type a query; :more loads the next batch, :reset clears, :quit exits."]

def begin (session : Session) (dataset : Dataset) (now : Instant) : Session :=
  let (_, viewer) := session.viewer.load dataset
  (greeting viewer.metadata now).foldl say { session with viewer }

def conclude (session : Session) : Session :=
  let settled := session.viewer.channel.state = .ready &&
    session.viewer.debouncer.deadline?.isNone
  if session.outcome.isNone && !session.inputOpen && settled then
    { session with outcome := some (.ok ()) }
  else session

def takeLine (session : Session) (line : String) (now : Nat) : Session :=
  match Unicode.trim line with
  | ":quit" => { session with outcome := some (.ok ()) }
  | ":more" => { session with viewer := (session.viewer.onVisible true).2 }
  | ":reset" => { session with viewer := session.viewer.reset.2 }
  | text => { session with viewer := session.viewer.input text now }

def closeInput (session : Session) : Session := { session with inputOpen := false }.conclude

/-- Typing that has not settled yet is sent when the input ends. -/
def endInput (session : Session) : Session :=
  if session.viewer.debouncer.isPending then
    { session with viewer := (session.viewer.setQuery session.viewer.query).2 }.closeInput
  else session.closeInput

def tick (session : Session) (now : Nat) : Session :=
  { session with viewer := (session.viewer.tick now).2 }.conclude

def turn (session : Session) : Session :=
  match session.outcome, session.answer? with
  | none, some (true, session) => session.report.conclude
  | none, some (false, session) => session.fail workerLost
  | _, _ => session

/-- At most two answers follow each other: the dataset's and that of the first query. -/
def settle (session : Session) : Session := session.turn.turn

end Session

end RefViewer
