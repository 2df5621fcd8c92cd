import RefViewer.Program
import Std.Time.DateTime.Timestamp

/-!
# Terminal

The thin layer around the program: reads files, the environment and lines of input, prints
what a session adds to its sheet, and lets time pass.
-/

namespace RefViewer.Terminal

def readFile (path : String) : IO (Option (List UInt8)) := do
  try
    return some (← IO.FS.readBinFile path).toList
  catch _ => return none

/-- Variables as the system keeps them: each ends with a zero byte. -/
def splitVariables (bytes : List UInt8) : List (String × String) :=
  (tokens (Unicode.Utf8.decode bytes)).filterMap fun token =>
    match token.span (· ≠ '=') with
    | (_, []) => none
    | (name, _ :: value) => some (.ofList name, .ofList value)
where
  tokens (text : Unicode.GappedText) : List (List Char) :=
    let split (c : Option Char) (words : List (List Char)) : List (List Char) :=
      match c, words with
      | some '\x00', words => [] :: words
      | c, [] => [[c.getD '\ufffd']]
      | c, word :: rest => (c.getD '\ufffd' :: word) :: rest
    text.foldr split [[]]

def environment : IO (List (String × String)) := do
  match ← readFile "/proc/self/environ" with
  | some bytes => return splitVariables bytes
  | none => return []

def daySeconds : Int := 86400

def now : IO Instant := do
  let time ← Std.Time.Timestamp.now
  let seconds := time.val.second.val
  return ⟨seconds / daySeconds, (seconds % daySeconds).toNat, time.val.nano.val.toNat⟩

def printFrom (shown : Nat) (session : Session) : IO Nat := do
  let output ← IO.getStdout
  for line in session.sheet.lines.drop shown do
    output.putStrLn line
  output.flush
  return session.sheet.lines.length

def pause : UInt32 := 5

abbrev Reading := Task (Except IO.Error String)

def takeRead (session : Session) (line : Except IO.Error String) (now : Nat) : Session :=
  match line with
  | .ok "" => session.endInput
  | .ok line => session.takeLine line now
  | .error _ => session.closeInput

partial def loop (input : IO.FS.Stream) (reading : Option Reading) (shown : Nat)
    (session : Session) : IO Program.Exit := do
  let session := session.settle
  let shown ← printFrom shown session
  match session.outcome with
  | some outcome => return .ofOutcome outcome
  | none =>
    let reading ← match reading with
      | some task => pure (some task)
      | none => if session.inputOpen then some <$> IO.asTask input.getLine else pure none
    let time ← IO.monoMsNow
    match reading with
    | some task =>
      if ← IO.hasFinished task then
        return ← loop input none shown (takeRead session task.get time)
    | none => pure ()
    let due := session.viewer.debouncer.deadline?.any (· ≤ time)
    if due then loop input reading shown (session.tick time)
    else
      IO.sleep pause
      loop input reading shown session

def finish (exit : Program.Exit) : IO UInt32 := do
  match exit with
  | .failure cause => IO.eprintln cause.text
  | _ => pure ()
  return exit.code.toUInt32

end RefViewer.Terminal

open RefViewer in
def main (words : List String) : IO UInt32 := do
  let around : Program.Surroundings IO :=
    ⟨Terminal.readFile, ← Terminal.environment, ← Terminal.now⟩
  match ← Program.start around words with
  | .done exit output => do
    IO.print output
    Terminal.finish exit
  | .interactive session =>
    Terminal.finish (← Terminal.loop (← IO.getStdin) none 0 session)
