import RefViewer.Dataset
import RefViewer.Json.Basic

/-!
# Encoding datasets

The document that a dataset is written as. Every key is written; what is not given is null.
-/

namespace RefViewer

def Json.ofOption : Option String → Json
  | some s => .string s
  | none => .null

def EnumValue.encode : EnumValue → Json
  | .integer i => .number (.integer i.toInt)
  | .float x => .number (.float x)
  | .text s => .string s
  | .bool b => .bool b
  | .null => .null

def Flags.encode (flags : Flags) : List (String × Json) := [
  ("unreplicated", .bool flags.unreplicated),
  ("deprecated", .bool flags.deprecated),
  ("hidden", .bool flags.hidden),
  ("unscriptable", .bool flags.unscriptable)]

def MemberType.encode (kind : MemberType) : Json := .string kind.text

def EnumItem.encode (item : EnumItem) : Json :=
  .object <|
    [("name", .string item.name), ("value", item.value.encode)]
    ++ item.flags.encode ++ [("security", .ofOption item.security)]

def MemberRecord.encode (r : MemberRecord) : Json :=
  .object <|
    [("name", .string r.name), ("member_type", r.memberType.encode),
     ("value_type", .ofOption r.valueType)]
    ++ r.flags.encode ++ [("security", .ofOption r.security)]

def ClassRecord.encode (r : ClassRecord) : Json :=
  .object [
    ("name", .string r.name),
    ("inherits", .array (r.inherits.map .string)),
    ("members", .array (r.members.map MemberRecord.encode))]

def EnumRecord.encode (r : EnumRecord) : Json :=
  .object [("name", .string r.name), ("items", .array (r.items.map EnumItem.encode))]

def Metadata.encode (metadata : Metadata) : Json :=
  .object [("version", .ofOption metadata.version), ("updated", .ofOption metadata.updated)]

def Dataset.encode (dataset : Dataset) : Json :=
  .object [
    ("classes", .array (dataset.classes.map ClassRecord.encode)),
    ("enums", .array (dataset.enums.map EnumRecord.encode)),
    ("metadata", dataset.metadata.encode)]

end RefViewer
