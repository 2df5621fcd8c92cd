import RefViewer.Json.Reader

/-!
# Decoding

Decoders take values of a wanted shape from nodes, in the order of the text. They work on a
text as it is read and on a value that was taken before, as the tagged messages are: the two
differ in how a list that is too long and a variant are refused.
-/

namespace RefViewer.Json

structure Context where
  /-- Whether the value was taken before. -/
  taken : Bool
  /-- Lists and objects around the value. -/
  depth : Nat

def Context.inner (context : Context) : Context := { context with depth := context.depth + 1 }

abbrev Decoder (α : Type) := Context → Node → Except Cause α

namespace Decoder

def mismatch (wanted : String) : Node → Cause
  | .missing => .endInValue
  | .broken fault => fault.wanted
  | .null => .wrongType .null wanted
  | .bool b => .wrongType (.bool b) wanted
  | .number (.ok n) => .wrongType (.number n) wanted
  | .number (.error cause) => cause
  | .string quoted =>
    match quoted.value with
    | .ok s => .wrongType (.string s) wanted
    | .error cause => cause
  | .array _ _ => .wrongType .sequence wanted
  | .object _ _ | .keyless _ => .wrongType .map wanted

def string : Decoder String
  | _, .string quoted => quoted.value
  | _, node => .error (mismatch "a string" node)

def bool : Decoder Bool
  | _, .bool b => .ok b
  | _, node => .error (mismatch "a boolean" node)

def optional (decode : Decoder α) : Decoder (Option α)
  | _, .null => .ok none
  | context, node => (decode context node).map some

def orDefault (default : α) (decode : Decoder α) : Decoder α := fun context node =>
  (optional decode context node).map (·.getD default)

def items (decode : Decoder α) (context : Context) : List Node → Except Cause (List α)
  | [] => .ok []
  | node :: rest => do
    let first ← decode context node
    return first :: (← items decode context rest)

def list (decode : Decoder α) : Decoder (List α)
  | context, .array nodes ending => do
    let decoded ← items decode context.inner nodes
    refuseIf ending.nextItem?
    return decoded
  | _, node => .error (mismatch "a sequence" node)

/-! ## Records -/

/-- A field of a record of type `σ`, which is filled in step by step. -/
structure Field (σ : Type) where
  name : String
  /-- Whether an object without the field is refused. -/
  required : Bool
  /-- Whether a list without the field is refused. -/
  requiredInList : Bool
  decode : Decoder (σ → σ)

namespace Field

def of (decode : Decoder α) (set : α → σ → σ) : Decoder (σ → σ) := fun context node =>
  (decode context node).map set

def mandatory (name : String) (decode : Decoder α) (set : α → σ → σ) : Field σ :=
  ⟨name, true, true, of decode set⟩

def withDefault (name : String) (decode : Decoder α) (set : α → σ → σ) : Field σ :=
  ⟨name, false, false, of decode set⟩

end Field

/-- Fills in a record from the entries of an object. Unknown keys are passed over, and a key
that comes again is refused before its value is looked at. -/
def fromEntries (fields : List (Field σ)) (context : Context) (seen : List String) (record : σ) :
    List (Quoted × Option Cause × Node) → Except Cause (List String × σ)
  | [] => .ok (seen, record)
  | (key, colon, value) :: rest => do
    let name ← key.value
    match fields.find? fun field => field.name = name with
    | none => do
      refuseIf colon
      value.pass
      fromEntries fields context seen record rest
    | some field => do
      if seen.contains name then throw (.duplicateField name)
      refuseIf colon
      let set ← field.decode context value
      fromEntries fields context (name :: seen) (set record) rest

def missing? (fields : List (Field σ)) (seen : List String) : Option Cause :=
  (fields.find? fun field => field.required && !seen.contains field.name).map fun field =>
    .missingField field.name

/-- Fills in a record from a list that gives the fields in order; the rest of the list is
returned. -/
def fromItems (shape : String) (context : Context) (ending : Ending) (record : σ) (position : Nat) :
    List (Field σ) → List Node → Except Cause (σ × List Node)
  | [], nodes => .ok (record, nodes)
  | field :: fields, node :: nodes => do
    let set ← field.decode context node
    fromItems shape context ending (set record) (position + 1) fields nodes
  | field :: fields, [] => do
    refuseIf ending.nextItem?
    if field.requiredInList then throw (.wrongLength position shape)
    fromItems shape context ending record (position + 1) fields []

def countText (n : Nat) (unit : String) : String :=
  if n = 1 then s!"1 {unit}" else s!"{n} {unit}s"

def refuseRest (context : Context) (count : Nat) (rest : List Node) (ending : Ending) :
    Except Cause Unit :=
  if context.taken then
    if rest.isEmpty then .ok ()
    else .error (.wrongLength (count + rest.length) (countText count "element" ++ " in sequence"))
  else if rest.isEmpty then refuseIf ending.leaveList?
  else .error .trailingCharacters

def structured (title : String) (blank : σ) (fields : List (Field σ)) : Decoder σ
  | context, .array nodes ending => do
    let shape := title ++ " with " ++ countText fields.length "element"
    let (record, rest) ← fromItems shape context.inner ending blank 0 fields nodes
    refuseRest context fields.length rest ending
    return record
  | context, .object entries ending => do
    let (seen, record) ← fromEntries fields context.inner [] blank entries
    refuseIf ending.nextEntry?
    refuseIf (missing? fields seen)
    return record
  | _, .keyless _ => .error .keyWanted
  | _, node => .error (mismatch title node)

/-! ## Variants -/

/-- The position of a name among the variants. A value that was taken before may give the
position itself. -/
def variant (names : List String) : Decoder Nat
  | _, .string quoted => do
    let name ← quoted.value
    match names.idxOf? name with
    | some i => return i
    | none => throw (.unknownVariant name names)
  | context, node =>
    match context.taken, node with
    | true, .number (.ok (.integer i)) =>
      if i < 0 then .error (mismatch "variant identifier" node)
      else if i.toNat < names.length then .ok i.toNat
      else
        .error (.wrongValue (.number (.integer i)) s!"variant index 0 <= i < {names.length}")
    | _, node => .error (mismatch "variant identifier" node)

def besideTag (tag : String) (variants : List String) (context : Context) (found : Option Nat) :
    List (Quoted × Option Cause × Node) → Except Cause (Option Nat × List (String × Json))
  | [] => .ok (found, [])
  | (key, colon, value) :: rest => do
    let name ← key.value
    if name = tag then
      if found.isSome then throw (.duplicateField tag)
      refuseIf colon
      let i ← variant variants context value
      besideTag tag variants context (some i) rest
    else
      refuseIf colon
      let first ← value.take context.depth
      let (found, others) ← besideTag tag variants context found rest
      return (found, (name, first) :: others)

/-- The variant that a tag names, and the rest of the object or list that holds the tag. -/
def tagged (title tag : String) (variants : List String) : Decoder (Nat × Json)
  | _, .array [] ending => do
    refuseIf ending.nextItem?
    throw (.missingField tag)
  | context, .array (first :: rest) ending => do
    let i ← variant variants context.inner first
    let others ← Node.takeItems context.inner.depth rest
    refuseIf ending.nextItem?
    return (i, .array others)
  | context, .object entries ending => do
    let (found, others) ← besideTag tag variants context.inner none entries
    refuseIf ending.nextEntry?
    match found with
    | some i => return (i, .object others)
    | none => throw (.missingField tag)
  | _, .keyless _ => .error .keyWanted
  | _, node => .error (mismatch title node)

def beside (decode : Decoder α) (content : Json) : Except Cause α :=
  decode ⟨true, 0⟩ (.ofJson content)

/-- A variant without fields takes no items in a list, and any entries in an object. -/
def unitVariant (content : Json) : Except Cause Unit :=
  match content with
  | .array items => refuseRest ⟨true, 0⟩ 0 (Node.ofItems items) .closed
  | _ => .ok ()

/-- A value in place of the content of a plain variant: null, and for one that was taken
before also an empty object. -/
def unitContent : Decoder Unit
  | _, .null => .ok ()
  | context, node =>
    match context.taken, node with
    | true, .object [] _ => .ok ()
    | _, node => .error (mismatch "unit" node)

def plainVariant (ofName : String → α) : Decoder α
  | _, .missing => .error .endInValue
  | _, .string quoted => quoted.value.map ofName
  | context, .object entries ending =>
    if context.taken then
      match entries with
      | [(key, _, value)] => do
        let name ← key.value
        unitContent context.inner value
        return ofName name
      | _ => .error (.wrongValue .map "map with a single key")
    else
      match entries with
      | [] => .error <|
        match ending with
        | .textEnd => .endInValue
        | _ => .valueWanted
      | (key, colon, value) :: rest => do
        let name ← key.value
        refuseIf colon
        unitContent context.inner value
        if !rest.isEmpty then throw .valueWanted
        match ending with
        | .closed => return ofName name
        | .textEnd => throw .endInObject
        | _ => throw .valueWanted
  | _, .keyless first => .error (mismatch "variant identifier" first)
  | context, node =>
    .error (if context.taken then mismatch "string or map" node else .valueWanted)

def ofText (decode : Decoder α) (text : Unicode.GappedText) : Except Cause α := do
  let document := Document.ofText text
  let value ← decode ⟨false, 0⟩ document.root
  if document.trailing then throw .trailingCharacters
  return value

end Decoder

end RefViewer.Json
