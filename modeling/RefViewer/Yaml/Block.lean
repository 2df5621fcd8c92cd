import RefViewer.Yaml.Flow

/-!
# Indented documents

Maps and lists in which indentation tells what belongs together. Each key stands on the line
of its colon, and a file holds one document.
-/

namespace RefViewer.Yaml

structure Line where
  indent : Nat
  body : List Char
  deriving DecidableEq, Repr

namespace Line

def ofChars (text : List Char) : Line :=
  ⟨(text.takeWhile (· = ' ')).length, text.dropWhile (· = ' ')⟩

def toChars (line : Line) : List Char := List.replicate line.indent ' ' ++ line.body

def isEmpty (line : Line) : Bool := line.body.all isSpace

def isIdle (line : Line) : Bool :=
  line.isEmpty || (line.body.dropWhile isSpace).head? = some '#'

def hasMark (mark : String) (line : Line) : Bool :=
  line.indent = 0 && line.body.take 3 = mark.toList
    && (match line.body.drop 3 with
      | [] => true
      | c :: _ => isSpace c)

def startsDocument (line : Line) : Bool := line.hasMark "---"

def endsDocument (line : Line) : Bool := line.hasMark "..."

def isMark (line : Line) : Bool := line.startsDocument || line.endsDocument

end Line

def splitLines (current : List Char) : List Char → List (List Char)
  | [] => if current = [] then [] else [current.reverse]
  | '\r' :: '\n' :: rest => current.reverse :: splitLines [] rest
  | c :: rest =>
    if c = '\n' || c = '\r' then current.reverse :: splitLines [] rest
    else splitLines (c :: current) rest

def isItem : List Char → Bool
  | ['-'] => true
  | '-' :: c :: _ => isSpace c
  | _ => false

def isIdleTail (text : List Char) : Bool :=
  match text.dropWhile isSpace with
  | [] => true
  | c :: _ => c = '#' && text.head? ≠ some '#'

/-! ## Keys -/

def takePlainKey (read : List Char) : List Char → Option (List Char × List Char)
  | [] => none
  | c :: rest =>
    if c = ':' && endsKey false rest then some ((read.dropWhile isSpace).reverse, rest)
    else if c = '#' && read.head?.any isSpace then none
    else takePlainKey (c :: read) rest

def takeKey (text : List Char) : Option (String × List Char) := do
  let (_, text) := takeProperties text.length ⟨none, none⟩ text
  match takeQuoted text with
  | some (key, rest) =>
    match rest.dropWhile isSpace with
    | ':' :: rest => if endsKey false rest then return (.ofList key, rest) else none
    | _ => none
  | none =>
    if startsPlain false text then
      let (key, rest) ← takePlainKey [] text
      return (.ofList key, rest)
    else none

/-! ## Plain words over several lines -/

def takePlainPart (read : List Char) : List Char → Option (List Char × Bool)
  | [] => some ((read.dropWhile isSpace).reverse, false)
  | c :: rest =>
    if c = '#' && read.head?.any isSpace then some ((read.dropWhile isSpace).reverse, true)
    else if c = ':' && endsKey false rest then none
    else takePlainPart (c :: read) rest

/-- The further lines of a plain word, after so many line ends. -/
def takePlainLines (least : Nat) (read : List Char) :
    Nat → List Line → Option (List Char × List Line)
  | _, [] => some (read, [])
  | lineEnds, line :: lines =>
    if line.isEmpty then takePlainLines least read (lineEnds + 1) lines
    else if line.indent < least || line.isIdle then some (read, line :: lines)
    else do
      let (part, commented) ← takePlainPart [] (line.body.dropWhile isSpace)
      let read := read ++ folded lineEnds ++ part
      if commented then return (read, lines) else takePlainLines least read 1 lines

def takePlain (least : Nat) (text : List Char) (lines : List Line) :
    Option (List Char × List Line) := do
  let (part, commented) ← takePlainPart [] text
  if commented then return (part, lines) else takePlainLines least part 1 lines

/-! ## Text kept line by line -/

inductive Chomping where
  | strip
  | clip
  | keep
  deriving DecidableEq, Repr

structure BlockHeader where
  isFolded : Bool
  chomping : Chomping
  /-- Indentation of the text beyond that of its parent, if given. -/
  extra : Option Nat
  deriving DecidableEq, Repr

def takeBlockHeader (header : BlockHeader) : List Char → Option BlockHeader
  | [] => some header
  | c :: rest =>
    if c = '-' then takeBlockHeader { header with chomping := .strip } rest
    else if c = '+' then takeBlockHeader { header with chomping := .keep } rest
    else if '1' ≤ c && c ≤ '9' then
      takeBlockHeader { header with extra := some (Decimal.digitValue c) } rest
    else if isIdleTail (c :: rest) then some header
    else none

def joinBlock (isFolded : Bool) (read : List Char) (wasBlank : Bool) (lineEnds : Nat) :
    List (List Char) → List Char × Nat
  | [] => (read, lineEnds)
  | [] :: lines => joinBlock isFolded read wasBlank (lineEnds + 1) lines
  | (c :: text) :: lines =>
    let between :=
      if isFolded && 0 < lineEnds && read ≠ [] && !wasBlank && !isSpace c then folded lineEnds
      else List.replicate lineEnds '\n'
    joinBlock isFolded (read ++ between ++ c :: text) (isSpace c) 1 lines

def chomp : Chomping → List Char × Nat → List Char
  | .strip, (text, _) => text
  | .clip, ([], _) => []
  | .clip, (text, lineEnds) => text ++ List.replicate (min lineEnds 1) '\n'
  | .keep, (text, lineEnds) => text ++ List.replicate lineEnds '\n'

def takeBlockText (least : Nat) (header : BlockHeader) (lines : List Line) :
    List Char × List Line :=
  let margin := match header.extra, lines.find? fun line => !line.isEmpty with
    | some extra, _ => least - 1 + extra
    | none, some line => max least line.indent
    | none, none => least
  let margin := max margin 1
  let inside := lines.takeWhile fun line => line.isEmpty || margin ≤ line.indent
  let text := inside.map fun line => line.toChars.drop margin
  (chomp header.chomping (joinBlock header.isFolded [] false 0 text), lines.drop inside.length)

/-! ## Nodes -/

structure State where
  lines : List Line
  anchors : Anchors

abbrev Reader := StateT State Option

def refuse : Reader α := fun _ => none

def skipIdle : Reader Unit :=
  modify fun state => { state with lines := state.lines.dropWhile Line.isIdle }

def peek : Reader (Option Line) := do
  return (← get).lines.head?

def dropLine : Reader Unit := modify fun state => { state with lines := state.lines.drop 1 }

def pushLine (line : Line) : Reader Unit :=
  modify fun state => { state with lines := line :: state.lines }

def setLines (lines : List Line) : Reader Unit := modify fun state => { state with lines }

def anchored (anchor : Option String) (value : Json) : Reader Json := do
  if let some anchor := anchor then
    modify fun state => { state with anchors := (anchor, value) :: state.anchors }
  return value

def readFlow (least : Nat) (text : List Char) : Reader Json := do
  let state ← get
  let near := state.lines.takeWhile fun line => line.isEmpty || least ≤ line.indent
  let joined := text ++ near.flatMap fun line => '\n' :: line.toChars
  let (value, rest) ← takeFlow state.anchors (2 * joined.length + 2) joined
  if !isIdleTail (rest.takeWhile (· ≠ '\n')) then refuse
  setLines (state.lines.drop (near.length - rest.count '\n'))
  return value

mutual

def readBlock : Nat → Nat → Reader Json
  | 0, _ => refuse
  | fuel + 1, least => do
    skipIdle
    match ← peek with
    | none => return .null
    | some line =>
      if line.indent < least then return .null
      else if isItem line.body then readItems fuel line.indent []
      else if (takeKey line.body).isSome then readEntries fuel line.indent []
      else
        dropLine
        readInline fuel least line.body

def readItems : Nat → Nat → List Json → Reader Json
  | 0, _, _ => refuse
  | fuel + 1, indent, read => do
    skipIdle
    match ← peek with
    | none => return .array read.reverse
    | some line =>
      if line.indent = indent && isItem line.body then do
        dropLine
        let spaces := (line.body.drop 1).takeWhile (· = ' ')
        let rest := line.body.drop (1 + spaces.length)
        if !isIdleTail (spaces ++ rest) then pushLine ⟨indent + 1 + spaces.length, rest⟩
        let item ← readBlock fuel (indent + 1)
        readItems fuel indent (item :: read)
      else if indent < line.indent then refuse
      else return .array read.reverse

/-- The entries of a map at one indentation. Each key is given once. -/
def readEntries : Nat → Nat → List (String × Json) → Reader Json
  | 0, _, _ => refuse
  | fuel + 1, indent, read => do
    skipIdle
    match ← peek with
    | none => return .object read.reverse
    | some line =>
      if line.indent = indent then
        match takeKey line.body with
        | none => refuse
        | some (key, rest) => do
          if (read.lookup key).isSome then refuse
          dropLine
          let value ← readValue fuel indent rest
          readEntries fuel indent ((key, value) :: read)
      else if indent < line.indent then refuse
      else return .object read.reverse

/-- The value of a key, from the rest of its line on. A list may be at the key's own
indentation. -/
def readValue : Nat → Nat → List Char → Reader Json
  | 0, _, _ => refuse
  | fuel + 1, indent, rest => do
    if !isIdleTail rest then readInline fuel (indent + 1) (rest.dropWhile isSpace)
    else do
      skipIdle
      match ← peek with
      | none => return .null
      | some line =>
        if line.indent = indent && isItem line.body then readItems fuel indent []
        else readBlock fuel (indent + 1)

def readInline : Nat → Nat → List Char → Reader Json
  | 0, _, _ => refuse
  | fuel + 1, least, text => do
    let (properties, rest) := takeProperties text.length ⟨none, none⟩ text
    match rest with
    | [] => anchored properties.anchor (← readBlock fuel least)
    | c :: tail =>
      let state ← get
      if c = '#' then anchored properties.anchor (← readBlock fuel least)
      else if c = '|' || c = '>' then do
        let header ← takeBlockHeader ⟨c = '>', .clip, none⟩ tail
        let (read, lines) := takeBlockText least header state.lines
        setLines lines
        anchored properties.anchor (.string (.ofList read))
      else if ['"', '\'', '[', '\x7b', '*'].contains c then
        anchored properties.anchor (← readFlow least (c :: tail))
      else if startsPlain false (c :: tail) then do
        let (read, lines) ← takePlain least (c :: tail) state.lines
        setLines lines
        anchored properties.anchor (← resolve? properties.tag read)
      else refuse

end

/-! ## Documents -/

def Line.isDirective (line : Line) : Bool := line.indent = 0 && line.body.head? = some '%'

/-- The one document of a file: what stands on the line of its mark, and its lines. There may
be none at all. Directives need the mark. -/
def document? (lines : List Line) : Option (Option (List Char × List Line)) :=
  let before := lines.takeWhile fun line => line.isIdle || line.isDirective
  let directed := before.any Line.isDirective
  match lines.drop before.length with
  | [] => if directed then none else some none
  | first :: rest =>
    let (head, rest) :=
      if first.startsDocument then (first.body.drop 3, rest) else ([], first :: rest)
    let inside := rest.takeWhile fun line => !line.isMark
    let after := (rest.drop inside.length).dropWhile fun line => line.isIdle || line.endsDocument
    if after ≠ [] || (directed && !first.startsDocument) then none else some (some (head, inside))

/-- A file without a document is an empty map. -/
def read? (text : String) : Option Json := do
  let lines := (splitLines [] text.toList).map Line.ofChars
  match ← document? lines with
  | none => return .object []
  | some (head, inside) =>
    let fuel := 4 * text.length + 16
    let root :=
      if isIdleTail head then readBlock fuel 0 else readInline fuel 0 (head.dropWhile isSpace)
    let (value, state) ← root.run ⟨inside, []⟩
    if state.lines.all Line.isIdle then some value else none

end RefViewer.Yaml
