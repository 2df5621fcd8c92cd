import RefViewer.CommandLine
import RefViewer.Dataset.Decode
import RefViewer.Session

/-!
# Program

From a command line to what comes of it: text and an end at once, or a session that waits for
input. Files are read through a function, in any monad.
-/

namespace RefViewer.Program

inductive Exit where
  | success
  | failure (failure : Failure)
  /-- The command line made no sense. -/
  | refused
  deriving DecidableEq, Repr

def Exit.code : Exit → Nat
  | .success => 0
  | .failure _ => 1
  | .refused => 2

def Exit.ofOutcome : Except Failure Unit → Exit
  | .ok () => .success
  | .error cause => .failure cause

inductive Course where
  | done (exit : Exit) (output : String)
  | interactive (session : Session)

structure Surroundings (m : Type → Type) where
  /-- What a file holds, if it is there. -/
  content : String → m (Option (List UInt8))
  environment : List (String × String)
  now : Instant

section

variable {m : Type → Type} [Monad m]

def liftExcept (result : Except Failure α) : ExceptT Failure m α := .mk (pure result)

def findFile (around : Surroundings m) : List String → m (Option Settings.File)
  | [] => return none
  | path :: paths => do
    match ← around.content path with
    | some content => return some ⟨path, content⟩
    | none => findFile around paths

def findSettings (around : Surroundings m) (arguments : Arguments) :
    ExceptT Failure m Settings := do
  let path := Settings.filePath arguments.config
  let found ← liftM (findFile around (Settings.candidates path))
  let settings ← liftExcept (Settings.load arguments.config found around.environment)
  return arguments.apply settings

def noDataset : Failure :=
  .settings "No dataset given, use --dataset or set `dataset` in apidex.toml"

def findDataset (around : Surroundings m) (settings : Settings) : ExceptT Failure m Dataset := do
  match settings.dataset with
  | none => throw noDataset
  | some path =>
    let content ← around.content path
    liftExcept (Dataset.ofFile path content)

def course (session : Session) : Course :=
  match session.outcome with
  | some outcome => .done (.ofOutcome outcome) session.sheet.text
  | none => .interactive session

def run (around : Surroundings m) (arguments : Arguments) : ExceptT Failure m Course := do
  let settings ← findSettings around arguments
  let dataset ← findDataset around settings
  let session ← liftExcept (Session.new settings)
  match arguments.query with
  | some query => return course (session.oneShot dataset query)
  | none => return course (session.begin dataset around.now)

def start (around : Surroundings m) (words : List String) : m Course := do
  match CommandLine.read words with
  | .help => return .done .success (CommandLine.helpText ++ "\n")
  | .version => return .done .success (CommandLine.versionText ++ "\n")
  | .refused => return .done .refused ""
  | .run arguments =>
    match ← (run around arguments).run with
    | .ok course => return course
    | .error failure => return .done (.failure failure) ""

end

end RefViewer.Program
