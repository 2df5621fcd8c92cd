/-!
# Fields

The ten fields that a query can name. Nothing else is in scope of a query.
-/

namespace RefViewer.Query

inductive Field where
  | name
  | memberType
  | valueType
  | className
  | inheritance
  | unreplicated
  | deprecated
  | hidden
  | unscriptable
  | security
  deriving DecidableEq, Repr

namespace Field

def all : List Field :=
  [.name, .memberType, .valueType, .className, .inheritance,
   .unreplicated, .deprecated, .hidden, .unscriptable, .security]

def text : Field → String
  | .name => "name"
  | .memberType => "type"
  | .valueType => "valueType"
  | .className => "className"
  | .inheritance => "inheritance"
  | .unreplicated => "unreplicated"
  | .deprecated => "deprecated"
  | .hidden => "hidden"
  | .unscriptable => "unscriptable"
  | .security => "security"

def ofText? : String → Option Field
  | "name" => some .name
  | "type" | "memberType" => some .memberType
  | "valueType" => some .valueType
  | "className" => some .className
  | "inheritance" => some .inheritance
  | "unreplicated" => some .unreplicated
  | "deprecated" => some .deprecated
  | "hidden" => some .hidden
  | "unscriptable" => some .unscriptable
  | "security" => some .security
  | _ => none

theorem ofText?_text (field : Field) : ofText? field.text = some field := by
  cases field <;> rfl

end Field

end RefViewer.Query
