import RefViewer.Failure
import RefViewer.Ini
import RefViewer.Json.Decode
import RefViewer.Json.Relaxed
import RefViewer.Ron
import RefViewer.Settings.Given
import RefViewer.Toml.Reader
import RefViewer.Yaml.Block

/-!
# Layers

A layer is what one source gives, key by key: a settings file, whose format follows from the
end of its name, or the environment.
-/

namespace RefViewer.Settings

abbrev Layer := List (String × Given)

namespace Layer

def isKeyChar (c : Char) : Bool := c.isAlphanum || c = '_' || c = '-'

def isPath : Nat → List Char → Bool
  | 0, _ => false
  | _ + 1, [] => true
  | fuel + 1, mark :: rest =>
    if mark = '.' then
      (rest.takeWhile isKeyChar ≠ []) && isPath fuel (rest.dropWhile isKeyChar)
    else if mark = '[' then
      let position := rest.takeWhile fun c => c.isDigit || c = '-'
      (String.ofList position).toInt?.isSome
        && (match rest.drop position.length with
          | ']' :: rest => isPath fuel rest
          | _ => false)
    else false

/-- A key with a path makes a table or a list of the setting that it begins with. -/
def place (key : String) (given : Given) : String × Given :=
  let name := key.toList.takeWhile isKeyChar
  let path := key.toList.dropWhile isKeyChar
  if name ≠ [] && path ≠ [] && isPath (path.length + 1) path then (.ofList name, .collection)
  else (key, given)

def ofEntries (read : α → Given) (entries : List (String × α)) : Layer :=
  entries.map fun (key, value) => place key (read value)

def environmentMark : String := "apidex_"

def variableKey? (name : String) : Option String :=
  let name := (Unicode.lower name).toList
  let mark := environmentMark.toList
  if mark.isPrefixOf name then some (.ofList (name.drop mark.length)) else none

def ofEnvironment (environment : List (String × String)) : Layer :=
  ofEntries .text (environment.filterMap fun (name, value) =>
    (variableKey? name).map fun key => (key, value))

def ofToml? (text : String) : Option Layer := (Toml.read? text).map (ofEntries .ofToml)

def ofObject? (read : Json → Given) : Json → Option Layer
  | .object entries => some (ofEntries read entries)
  | _ => none

def ofJson? (text : String) : Option Layer :=
  match Json.Decoder.ofText (fun context node => node.take context.depth) (.ofString text) with
  | .ok value => ofObject? .ofJson value
  | .error _ => none

/-- The sections come after what stands before them. -/
def ofIni? (text : String) : Option Layer :=
  (Ini.read? text).map fun document =>
    ofEntries .text document.general
      ++ ofEntries (fun _ => .collection) document.sections.reverse

end Layer

inductive Format where
  | toml
  | json
  | yaml
  | ini
  | ron
  | json5
  deriving DecidableEq, Repr

namespace Format

def all : List Format := [.toml, .json, .yaml, .ini, .ron, .json5]

def extensions : Format → List String
  | .toml => ["toml"]
  | .json => ["json"]
  | .yaml => ["yaml", "yml"]
  | .ini => ["ini"]
  | .ron => ["ron"]
  | .json5 => ["json5"]

def read? (format : Format) (text : String) : Option Layer :=
  match format with
  | .toml => Layer.ofToml? text
  | .json => Layer.ofJson? text
  | .yaml => (Yaml.read? text).bind (Layer.ofObject? .ofDocument)
  | .ini => Layer.ofIni? text
  | .ron => (Ron.read? text).bind (Layer.ofObject? .ofDocument)
  | .json5 => (Json.Relaxed.read? text).bind (Layer.ofObject? .ofDocument)

/-- The part of a file's name after its last point; a point at the start does not count. -/
def extensionOf (path : String) : String :=
  let name := path.toList.reverse.takeWhile (· ≠ '/')
  match name.span (· ≠ '.') with
  | (_, []) | (_, ['.']) => ""
  | (reversed, _) => .ofList reversed.reverse

def ofPath? (path : String) : Option Format :=
  all.find? fun format => format.extensions.contains (extensionOf path)

end Format

/-- Names to look for, in order: the name as it is, then with the ends that formats have. -/
def candidates (path : String) : List String :=
  path :: (Format.all.flatMap Format.extensions).map fun extension => path ++ "." ++ extension

structure File where
  path : String
  content : List UInt8
  deriving DecidableEq, Repr

namespace File

def byteOrderMark : List UInt8 := [0xef, 0xbb, 0xbf]

def text (file : File) : String :=
  let bytes :=
    if byteOrderMark.isPrefixOf file.content then file.content.drop 3 else file.content
  .ofList ((Unicode.Utf8.decode bytes).map fun c => c.getD '\ufffd')

def layer (file : File) : Except Failure Layer :=
  match Format.ofPath? file.path with
  | none => .error (.settings s!"{file.path}: unknown format")
  | some format =>
    match format.read? file.text with
    | some layer => .ok layer
    | none => .error (.settings s!"{file.path}: malformed")

end File

end RefViewer.Settings
