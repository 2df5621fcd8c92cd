import RefViewer.Channel.Basic
import RefViewer.Debounce
import RefViewer.Render
import RefViewer.Stats
import RefViewer.Time.Age

/-!
# Viewer

Ties typing, the query channel and the shown results together. The first query is sent as
soon as the worker has taken in the dataset, and every submission clears the error line.
-/

namespace RefViewer

structure View (T : Type) where
  renderer : Renderer
  target : T
  stats : Stats
  error : Option String

namespace View

variable {T : Type} [Target T]

def new (renderer : Renderer) (target : T) : View T := ⟨renderer, target, .zero, none⟩

def present (view : View T) (results : List Entry) : View T :=
  let (_, renderer, target) := view.renderer.present results view.target
  { view with renderer, target, stats := .ofEntries results }

def errorLine (failure : Failure) : String :=
  if failure.isQuery then "Query error: " ++ failure.text else failure.text

/-- An error leaves nothing of the results before it. -/
def hear (view : View T) : Event → View T
  | .initComplete => view
  | .filterComplete results => view.present results
  | .failed failure => { view with error := some (errorLine failure) }.present []

end View

structure ViewerSettings where
  batchSize : Nat
  scrollThreshold : Number
  debounceWindow : Nat
  deriving DecidableEq, Repr

structure Viewer (T : Type) where
  channel : Channel
  debouncer : Debouncer
  view : View T
  query : String
  metadata : Metadata

namespace Viewer

variable {T : Type} [Target T]

def new (channel : Channel) (target : T) (settings : ViewerSettings) :
    Except Failure (Viewer T) := do
  Target.ready target
  return {
    channel
    debouncer := .new settings.debounceWindow
    view := .new (.new settings.batchSize settings.scrollThreshold) target
    query := ""
    metadata := .unknown }

def follow (viewer : Viewer T) (events : List Event) (channel : Channel) : Viewer T :=
  { viewer with channel, view := events.foldl View.hear viewer.view }

def load (viewer : Viewer T) (dataset : Dataset) : Submission × Viewer T :=
  let (submission, events, channel) := viewer.channel.load dataset
  (submission, { viewer with metadata := dataset.metadata }.follow events channel)

def submit (viewer : Viewer T) : Submission × Viewer T :=
  let viewer := { viewer with view := { viewer.view with error := none } }
  let (submission, events, channel) := viewer.channel.filter viewer.query
  (submission, viewer.follow events channel)

def input (viewer : Viewer T) (text : String) (now : Nat) : Viewer T :=
  { viewer with query := text, debouncer := viewer.debouncer.touch now }

def tick (viewer : Viewer T) (now : Nat) : Option Submission × Viewer T :=
  let (fired, debouncer) := viewer.debouncer.poll now
  let viewer := { viewer with debouncer }
  if fired then
    let (submission, viewer) := viewer.submit
    (some submission, viewer)
  else (none, viewer)

/-- Sends a query at once; pending typing is forgotten. -/
def setQuery (viewer : Viewer T) (text : String) : Submission × Viewer T :=
  { viewer with query := text, debouncer := viewer.debouncer.cancel }.submit

def reset (viewer : Viewer T) : Submission × Viewer T := viewer.setQuery ""

def trigger (viewer : Viewer T) (step : Renderer → T → Nat × Renderer × T) : Nat × Viewer T :=
  let (count, renderer, target) := step viewer.view.renderer viewer.view.target
  (count, { viewer with view := { viewer.view with renderer, target } })

def onScroll (viewer : Viewer T) (position : ScrollPosition) : Nat × Viewer T :=
  viewer.trigger fun renderer => renderer.onScroll position

def onVisible (viewer : Viewer T) (visible : Bool) : Nat × Viewer T :=
  viewer.trigger fun renderer => renderer.onVisibility visible

def loadMore (viewer : Viewer T) : Nat × Viewer T :=
  viewer.trigger fun renderer => renderer.renderNext

/-- Follows events, and sends the query if one of them says that the worker is ready. -/
def followAndStart (viewer : Viewer T) (events : List Event) (channel : Channel) : Viewer T :=
  let viewer := viewer.follow events channel
  if events.contains .initComplete then viewer.submit.2 else viewer

def handle (viewer : Viewer T) (response : Response) : Viewer T :=
  let (events, channel) := viewer.channel.dispatch response
  viewer.followAndStart events channel

def pump (viewer : Viewer T) : Nat × Viewer T :=
  let (count, events, channel) := viewer.channel.pump
  (count, viewer.followAndStart events channel)

def wait? (viewer : Viewer T) : Option (Bool × Viewer T) :=
  viewer.channel.wait?.map fun (alive, events, channel) =>
    (alive, viewer.followAndStart events channel)

def disconnect (viewer : Viewer T) : Viewer T :=
  let (events, channel) := viewer.channel.disconnect
  viewer.follow events channel

def restart (viewer : Viewer T) : Submission × Viewer T :=
  let (submission, events, channel) := viewer.channel.restart
  (submission, viewer.follow events channel)

end Viewer

end RefViewer
