import RefViewer.Settings

/-!
# Command line

Four options, each with a value and at most once, and two flags that end the reading. A value
follows its option as the next word, which must not look like an option, or is attached: after
an equals sign, or right behind the letter of a short option.
-/

namespace RefViewer

structure Arguments where
  dataset : Option String
  config : Option String
  query : Option String
  batchSize : Option Nat
  deriving DecidableEq, Repr

namespace Arguments

def none : Arguments := ⟨.none, .none, .none, .none⟩

inductive Name where
  | dataset
  | config
  | query
  | batchSize
  deriving DecidableEq, Repr

def setOnce? (field : Option α) (value : Option α) (set : Option α → Arguments) :
    Option Arguments :=
  if field.isSome || value.isNone then .none else some (set value)

/-- An empty name is no path. -/
def path? (value : String) : Option String := if value = "" then .none else some value

def set? (arguments : Arguments) (name : Name) (value : String) : Option Arguments :=
  match name with
  | .dataset => setOnce? arguments.dataset (path? value) fun v => { arguments with dataset := v }
  | .config => setOnce? arguments.config (path? value) fun v => { arguments with config := v }
  | .query => setOnce? arguments.query (some value) fun v => { arguments with query := v }
  | .batchSize =>
    setOnce? arguments.batchSize (Settings.Given.readCount? value)
      fun v => { arguments with batchSize := v }

def apply (arguments : Arguments) (settings : Settings) : Settings :=
  { settings with
    dataset := arguments.dataset.or settings.dataset
    batchSize := arguments.batchSize.getD settings.batchSize }

end Arguments

namespace CommandLine

inductive Word where
  | help
  | version
  | option (name : Arguments.Name) (attached : Option String)
  /-- Two dashes: no option follows. -/
  | escape
  | other
  deriving DecidableEq, Repr

def longName? : String → Option Arguments.Name
  | "dataset" => some .dataset
  | "config" => some .config
  | "query" => some .query
  | "batch-size" => some .batchSize
  | _ => none

def shortName? : Char → Option Arguments.Name
  | 'd' => some .dataset
  | 'c' => some .config
  | 'q' => some .query
  | _ => none

def longWord (text : List Char) : Word :=
  let (name, tail) := text.span (· ≠ '=')
  let name := String.ofList name
  let attached := if tail = [] then none else some (String.ofList (tail.drop 1))
  match longName? name with
  | some option => .option option attached
  | none =>
    if attached.isSome then .other
    else if name = "help" then .help
    else if name = "version" then .version
    else .other

def shortWord (letter : Char) (tail : List Char) : Word :=
  match shortName? letter with
  | some option =>
    let attached := match tail with
      | [] => none
      | '=' :: value => some value
      | value => some value
    .option option (attached.map String.ofList)
  | none => if letter = 'h' then .help else if letter = 'V' then .version else .other

def word (text : String) : Word :=
  match text.toList with
  | ['-', '-'] => .escape
  | '-' :: '-' :: rest => longWord rest
  | '-' :: letter :: rest => shortWord letter rest
  | _ => .other

/-- A single dash does not look like an option. -/
def isValue (text : String) : Bool :=
  match text.toList with
  | ['-'] => true
  | '-' :: _ => false
  | _ => true

inductive Task where
  | run (arguments : Arguments)
  | help
  | version
  | refused
  deriving DecidableEq, Repr

/-- A flag counts where it stands, after everything before it has been found good. -/
def readFrom (arguments : Arguments) : List String → Task
  | [] => .run arguments
  | text :: rest =>
    match word text with
    | .help => .help
    | .version => .version
    | .other => .refused
    | .escape => if rest = [] then .run arguments else .refused
    | .option name (some value) =>
      match arguments.set? name value with
      | some arguments => readFrom arguments rest
      | none => .refused
    | .option name none =>
      match rest with
      | [] => .refused
      | value :: rest =>
        if isValue value then
          match arguments.set? name value with
          | some arguments => readFrom arguments rest
          | none => .refused
        else .refused

def read (words : List String) : Task := readFrom .none words

def versionText : String := "apidex 0.1.0"

def helpText : String := "\n".intercalate [
  "Filter an API-reference dataset with boolean expressions",
  "",
  "Usage: apidex [OPTIONS]",
  "",
  "Options:",
  "  -d, --dataset <DATASET>        Dataset JSON file (overrides the config file)",
  "  -c, --config <CONFIG>          Config file (defaults to ./apidex.toml when present)",
  "  -q, --query <QUERY>            Run a single query, print the first batch and exit",
  "      --batch-size <BATCH_SIZE>  Number of results rendered per batch",
  "  -h, --help                     Print help",
  "  -V, --version                  Print version"]

end CommandLine

end RefViewer
