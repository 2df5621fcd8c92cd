import RefViewer.Yaml.Scalar

/-!
# Values in brackets

Lists in brackets and maps in braces may go over several lines, with comments, and may end
with a comma. A key without a value has null, and a list may hold single entries of a map.
-/

namespace RefViewer.Yaml

abbrev Anchors := List (String × Json)

def skipFlow : Nat → List Char → List Char
  | 0, text => text
  | fuel + 1, text =>
    match text.dropWhile isBlank with
    | '#' :: rest => skipFlow fuel (rest.dropWhile (· ≠ '\n'))
    | text => text

def skip (text : List Char) : List Char := skipFlow text.length text

def takeFlowPlain : Nat → List Char → List Char → List Char × List Char
  | 0, read, text => (read, text)
  | _ + 1, read, [] => (read, [])
  | fuel + 1, read, c :: rest =>
    if isFlowMark c || (c = ':' && endsKey true rest) then (read, c :: rest)
    else if isBlank c then
      let blanks := (c :: rest).takeWhile isBlank
      match (c :: rest).dropWhile isBlank with
      | [] => (read, [])
      | next :: after =>
        if next = '#' || isFlowMark next || (next = ':' && endsKey true after) then
          (read, next :: after)
        else takeFlowPlain fuel (read ++ foldBlanks blanks) (next :: after)
    else takeFlowPlain fuel (read ++ [c]) rest

def takeFlowText (text : List Char) : Option (List Char × Bool × List Char) :=
  match takeQuoted text with
  | some (read, rest) => some (read, true, rest)
  | none =>
    if startsPlain true text then
      let (read, rest) := takeFlowPlain (text.length + 1) [] text
      some (read, false, rest)
    else none

def takeFlowScalar (anchors : Anchors) (tag : Option String) (text : List Char) :
    Option (Json × List Char) := do
  match text with
  | '*' :: rest =>
    let name := String.ofList (rest.takeWhile fun c => !endsProperty c)
    return (← anchors.lookup name, rest.dropWhile fun c => !endsProperty c)
  | text =>
    match takeFlowText text with
    | some (read, true, rest) => return (.string (.ofList read), rest)
    | some (read, false, rest) => return (← resolve? tag read, rest)
    | none => return (← resolve? tag [], text)

mutual

def takeFlow (anchors : Anchors) : Nat → List Char → Option (Json × List Char)
  | 0, _ => none
  | fuel + 1, text =>
    let (properties, text) := takeProperties text.length ⟨none, none⟩ text
    match skip text with
    | '[' :: rest => takeFlowItems anchors fuel [] (skip rest)
    | '\x7b' :: rest => takeFlowEntries anchors fuel [] (skip rest)
    | text => takeFlowScalar anchors properties.tag text

def takeFlowItems (anchors : Anchors) : Nat → List Json → List Char → Option (Json × List Char)
  | 0, _, _ => none
  | _ + 1, read, ']' :: rest => some (.array read.reverse, rest)
  | _ + 1, _, ',' :: _ => none
  | fuel + 1, read, text => do
    let (item, rest) ← takeFlow anchors fuel text
    let (item, rest) ← match skip rest with
      | ':' :: rest => do
        let (value, rest) ← takeFlow anchors fuel (skip rest)
        some (Json.object [("", value)], rest)
      | _ => some (item, rest)
    match skip rest with
    | ',' :: rest => takeFlowItems anchors fuel (item :: read) (skip rest)
    | ']' :: rest => return (.array (item :: read).reverse, rest)
    | _ => none

def takeFlowEntries (anchors : Anchors) :
    Nat → List (String × Json) → List Char → Option (Json × List Char)
  | 0, _, _ => none
  | _ + 1, read, '\x7d' :: rest => some (.object read.reverse, rest)
  | fuel + 1, read, text => do
    let (_, text) := takeProperties text.length ⟨none, none⟩ text
    let (key, _, rest) ← takeFlowText text
    let (value, rest) ← match skip rest with
      | ':' :: rest => takeFlow anchors fuel (skip rest)
      | _ => some (.null, rest)
    let key := String.ofList key
    if (read.lookup key).isSome then none
    match skip rest with
    | ',' :: rest => takeFlowEntries anchors fuel ((key, value) :: read) (skip rest)
    | '\x7d' :: rest => return (.object ((key, value) :: read).reverse, rest)
    | _ => none

end

end RefViewer.Yaml
