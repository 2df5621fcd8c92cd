import RefViewer.Json.Cause

/-!
# Document nodes

A document as it was read, up to the first place where reading had to stop. A reader that
wants a value is stricter than one that passes over it: each fault tells both what it is to
the one and to the other. Nothing is judged before a reader comes to it, so the first fault
in the order of the text is the one that is reported.
-/

namespace RefViewer.Json

structure Fault where
  /-- To a reader that wants the value. -/
  wanted : Cause
  /-- To a reader that passes over it. -/
  passed : Cause
  deriving DecidableEq, Repr

def Fault.same (cause : Cause) : Fault := ⟨cause, cause⟩

/-- A string in quotes. With `stopped`, reading ended in it, also for one who passes over. -/
structure Quoted where
  value : Except Cause String
  stopped : Option Cause

inductive Ending where
  | closed
  /-- Reading ended inside. -/
  | stopped
  /-- A comma, then the closing bracket. -/
  | commaClosed
  /-- A comma, then the end of the text. -/
  | commaEnd
  /-- In an object, a comma, then something other than a key. -/
  | noKey
  /-- Something other than a comma or the closing bracket. -/
  | noSeparator
  | textEnd
  deriving DecidableEq, Repr

inductive Node where
  /-- The end of the text. -/
  | missing
  | broken (fault : Fault)
  | null
  | bool (b : Bool)
  /-- A number in form, which may still be out of range. -/
  | number (value : Except Cause Numeral)
  | string (quoted : Quoted)
  | array (items : List Node) (ending : Ending)
  /-- An entry whose colon is missing has the cause in place of it. -/
  | object (entries : List (Quoted × Option Cause × Node)) (ending : Ending)
  /-- An opening brace before something that is no key. -/
  | keyless (first : Node)

namespace Ending

/-- What keeps one who wants another item of a list from seeing its end. -/
def nextItem? : Ending → Option Cause
  | .closed | .stopped => none
  | .commaClosed => some .trailingComma
  | .commaEnd => some .endInValue
  | .noKey | .noSeparator => some .listEndWanted
  | .textEnd => some .endInList

def leaveList? : Ending → Option Cause
  | .closed | .stopped => none
  | .commaClosed => some .trailingComma
  | .commaEnd | .noKey | .noSeparator => some .trailingCharacters
  | .textEnd => some .endInList

def passList? : Ending → Option Cause
  | .closed | .stopped => none
  | .commaClosed => some .valueWanted
  | .commaEnd => some .endInValue
  | .noKey | .noSeparator => some .listEndWanted
  | .textEnd => some .endInList

def nextEntry? : Ending → Option Cause
  | .closed | .stopped => none
  | .commaClosed => some .trailingComma
  | .commaEnd => some .endInValue
  | .noKey => some .keyWanted
  | .noSeparator => some .objectEndWanted
  | .textEnd => some .endInObject

def passObject? : Ending → Option Cause
  | .closed | .stopped => none
  | .commaClosed | .noKey => some .keyWanted
  | .noSeparator => some .objectEndWanted
  | .commaEnd | .textEnd => some .endInObject

end Ending

def refuseIf (cause : Option Cause) : Except Cause Unit :=
  match cause with
  | some cause => .error cause
  | none => .ok ()

namespace Node

mutual

def pass : Node → Except Cause Unit
  | .missing => .error .endInValue
  | .broken fault => .error fault.passed
  | .null | .bool _ | .number _ => .ok ()
  | .string quoted => refuseIf quoted.stopped
  | .array items ending => do
    passItems items
    refuseIf ending.passList?
  | .object entries ending => do
    passEntries entries
    refuseIf ending.passObject?
  | .keyless _ => .error .keyWanted

def passItems : List Node → Except Cause Unit
  | [] => .ok ()
  | item :: rest => do
    item.pass
    passItems rest

def passEntries : List (Quoted × Option Cause × Node) → Except Cause Unit
  | [] => .ok ()
  | (key, colon, value) :: rest => do
    refuseIf key.stopped
    refuseIf colon
    value.pass
    passEntries rest

end

def maxDepth : Nat := 127

mutual

/-- Takes a value as it is, with `depth` lists and objects around it. -/
def take (depth : Nat) : Node → Except Cause Json
  | .missing => .error .endInValue
  | .broken fault => .error fault.wanted
  | .null => .ok .null
  | .bool b => .ok (.bool b)
  | .number value => value.map .number
  | .string quoted => quoted.value.map .string
  | .array items ending => do
    if maxDepth ≤ depth then throw .tooDeep
    let taken ← takeItems (depth + 1) items
    refuseIf ending.nextItem?
    return .array taken
  | .object entries ending => do
    if maxDepth ≤ depth then throw .tooDeep
    let taken ← takeEntries (depth + 1) entries
    refuseIf ending.nextEntry?
    return .object taken
  | .keyless _ => .error (if maxDepth ≤ depth then .tooDeep else .keyWanted)

def takeItems (depth : Nat) : List Node → Except Cause (List Json)
  | [] => .ok []
  | item :: rest => do
    let first ← item.take depth
    return first :: (← takeItems depth rest)

def takeEntries (depth : Nat) :
    List (Quoted × Option Cause × Node) → Except Cause (List (String × Json))
  | [] => .ok []
  | (key, colon, value) :: rest => do
    let name ← key.value
    refuseIf colon
    let first ← value.take depth
    return (name, first) :: (← takeEntries depth rest)

end

mutual

def ofJson : Json → Node
  | .null => .null
  | .bool b => .bool b
  | .number n => .number (.ok n)
  | .string s => .string ⟨.ok s, none⟩
  | .array items => .array (ofItems items) .closed
  | .object entries => .object (ofEntries entries) .closed

def ofItems : List Json → List Node
  | [] => []
  | item :: rest => ofJson item :: ofItems rest

def ofEntries : List (String × Json) → List (Quoted × Option Cause × Node)
  | [] => []
  | (name, value) :: rest => (⟨.ok name, none⟩, none, ofJson value) :: ofEntries rest

end

end Node

end RefViewer.Json
