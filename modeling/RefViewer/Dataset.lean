import RefViewer.Number.Basic

/-!
# Datasets

The reference data as it is delivered: classes with their members, enums with their items,
and where the data comes from. Gaps in the delivery are already filled: collections are
empty, flags off.
-/

namespace RefViewer

/-- A kind of member; every kind that is not known counts as the last. -/
inductive MemberType where
  | property
  | function
  | event
  | callback
  | unknown
  deriving DecidableEq, Repr

namespace MemberType

def text : MemberType → String
  | .property => "Property"
  | .function => "Function"
  | .event => "Event"
  | .callback => "Callback"
  | .unknown => "Unknown"

def ofText (text : String) : MemberType :=
  match text with
  | "Property" => .property
  | "Function" => .function
  | "Event" => .event
  | "Callback" => .callback
  | _ => .unknown

theorem ofText_text (kind : MemberType) : ofText kind.text = kind := by cases kind <;> rfl

end MemberType

inductive EnumValue where
  | integer (value : Int64)
  | float (value : Number)
  | text (value : String)
  | bool (value : Bool)
  | null
  deriving DecidableEq, Repr

structure Flags where
  unreplicated : Bool
  deprecated : Bool
  hidden : Bool
  unscriptable : Bool
  deriving DecidableEq, Repr

def Flags.off : Flags := ⟨false, false, false, false⟩

structure EnumItem where
  name : String
  value : EnumValue
  flags : Flags
  security : Option String
  deriving DecidableEq, Repr

structure MemberRecord where
  name : String
  memberType : MemberType
  valueType : Option String
  flags : Flags
  security : Option String
  deriving DecidableEq, Repr

structure ClassRecord where
  name : String
  inherits : List String
  members : List MemberRecord
  deriving DecidableEq, Repr

structure EnumRecord where
  name : String
  items : List EnumItem
  deriving DecidableEq, Repr

structure Metadata where
  version : Option String
  updated : Option String
  deriving DecidableEq, Repr

def Metadata.unknown : Metadata := ⟨none, none⟩

def Metadata.versionText (metadata : Metadata) : String := metadata.version.getD "Unknown"

structure Dataset where
  classes : List ClassRecord
  enums : List EnumRecord
  metadata : Metadata
  deriving DecidableEq, Repr

def Dataset.empty : Dataset := ⟨[], [], .unknown⟩

end RefViewer
