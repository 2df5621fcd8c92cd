import RefViewer.Engine
import RefViewer.Settings.Layer
import RefViewer.Viewer

/-!
# Settings

Defaults, a settings file and the environment, each over the ones before. A file that was
named must be there; the default file need not be.
-/

namespace RefViewer

structure Settings where
  dataset : Option String
  batchSize : Nat
  debounceMs : Nat
  scrollThreshold : Number
  queryCacheCapacity : Nat
  logFilter : String
  deriving DecidableEq, Repr

namespace Settings

def defaultFile : String := "apidex.toml"

def default : Settings where
  dataset := none
  batchSize := Renderer.defaultBatchSize
  debounceMs := Debouncer.defaultWindow
  scrollThreshold := Renderer.defaultScrollThreshold
  queryCacheCapacity := Engine.defaultCapacity
  logFilter := "info"

def given? (layers : List Layer) (key : String) : Option Given :=
  layers.flatten.reverse.lookup key

def setting (layers : List Layer) (key : String) (fallback : α) (read : Given → Option α) :
    Except Failure α :=
  match given? layers key with
  | none => .ok fallback
  | some given =>
    match read given with
    | some value => .ok value
    | none => .error (.settings s!"{key}: invalid value")

/-- Keys that name no setting are passed over. -/
def ofLayers (layers : List Layer) : Except Failure Settings := do
  return {
    dataset := ← setting layers "dataset" default.dataset Given.toOptionalText?
    batchSize := ← setting layers "batch_size" default.batchSize Given.toCount?
    debounceMs := ← setting layers "debounce_ms" default.debounceMs Given.toCount?
    scrollThreshold :=
      ← setting layers "scroll_threshold" default.scrollThreshold Given.toNumber?
    queryCacheCapacity :=
      ← setting layers "query_cache_capacity" default.queryCacheCapacity Given.toCount?
    logFilter := ← setting layers "log_filter" default.logFilter Given.toText? }

def filePath (named : Option String) : String := named.getD defaultFile

def load (named : Option String) (found : Option File) (environment : List (String × String)) :
    Except Failure Settings := do
  let file ← match found, named with
    | some file, _ => file.layer
    | none, none => .ok []
    | none, some path => .error (.settings s!"{path}: not found")
  ofLayers [file, .ofEnvironment environment]

def viewer (settings : Settings) : ViewerSettings :=
  ⟨settings.batchSize, settings.scrollThreshold, settings.debounceMs⟩

end Settings

end RefViewer
