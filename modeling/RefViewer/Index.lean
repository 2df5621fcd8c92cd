import RefViewer.Dataset
import RefViewer.Number.Shortest
import RefViewer.Query.Expr

/-!
# Index

The dataset as a flat list of entries: every member with its class and the ancestors of the
class, then every enum with its items. An entry can be tested by a query; an item of an enum
is tested as if it were a member of a class with the name of the enum.
-/

namespace RefViewer

structure Member where
  name : String
  memberType : MemberType
  valueType : Option String
  className : String
  inheritance : List String
  flags : Flags
  security : Option String
  deriving DecidableEq, Repr

structure EnumType where
  name : String
  items : List EnumItem
  deriving DecidableEq, Repr

inductive Entry where
  | member (member : Member)
  | enumType (enumType : EnumType)
  deriving DecidableEq, Repr

namespace EnumValue

def value : EnumValue → Query.Value
  | .integer i => .number (.ofInt i.toInt)
  | .float n => .number n
  | .text s => .string s
  | .bool b => .bool b
  | .null => .null

def display : EnumValue → String
  | .integer i => toString i.toInt
  | .float n => n.toText
  | .text s => s
  | .bool b => if b then "true" else "false"
  | .null => ""

end EnumValue

def Member.record (member : Member) : Query.Record
  | .name => .string member.name
  | .memberType => .string member.memberType.text
  | .valueType => .ofOption member.valueType
  | .className => .string member.className
  | .inheritance => .list member.inheritance
  | .unreplicated => .bool member.flags.unreplicated
  | .deprecated => .bool member.flags.deprecated
  | .hidden => .bool member.flags.hidden
  | .unscriptable => .bool member.flags.unscriptable
  | .security => .ofOption member.security

namespace EnumType

/-- An enum by itself has a name; everything else is made up. -/
def record (enumType : EnumType) : Query.Record
  | .name => .string enumType.name
  | .memberType | .className => .string "Enum"
  | .valueType | .security => .null
  | .inheritance => .list []
  | .unreplicated | .deprecated | .hidden | .unscriptable => .bool false

def itemRecord (enumType : EnumType) (item : EnumItem) : Query.Record
  | .name => .string item.name
  | .memberType => .string "Enum"
  | .valueType => item.value.value
  | .className => .string enumType.name
  | .inheritance => .list []
  | .unreplicated => .bool item.flags.unreplicated
  | .deprecated => .bool item.flags.deprecated
  | .hidden => .bool item.flags.hidden
  | .unscriptable => .bool item.flags.unscriptable
  | .security => .ofOption item.security

def itemRecords (enumType : EnumType) : List Query.Record :=
  enumType.items.map enumType.itemRecord

end EnumType

namespace Entry

def name : Entry → String
  | .member m => m.name
  | .enumType e => e.name

def record : Entry → Query.Record
  | .member m => m.record
  | .enumType e => e.record

def views : Entry → List Query.Record
  | .member m => [m.record]
  | .enumType e => e.record :: e.itemRecords

end Entry

structure Index where
  members : List Member
  enums : List EnumType
  deriving DecidableEq, Repr

namespace Index

def empty : Index := ⟨[], []⟩

def memberOf (owner : ClassRecord) (record : MemberRecord) : Member :=
  { name := record.name
    memberType := record.memberType
    valueType := record.valueType
    className := owner.name
    inheritance := owner.inherits
    flags := record.flags
    security := record.security }

def ofDataset (dataset : Dataset) : Index :=
  { members := dataset.classes.flatMap fun owner => owner.members.map (memberOf owner)
    enums := dataset.enums.map fun record => ⟨record.name, record.items⟩ }

/-- Members come before enums, both in the order of the dataset. -/
def entries (index : Index) : List Entry :=
  index.members.map .member ++ index.enums.map .enumType

def size (index : Index) : Nat := index.members.length + index.enums.length

end Index

end RefViewer
