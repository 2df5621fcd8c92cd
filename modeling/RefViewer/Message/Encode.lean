import RefViewer.Dataset.Encode
import RefViewer.Json.Writer
import RefViewer.Message

/-!
# Encoding messages

Messages carry their kind in a tag in front of their content.
-/

namespace RefViewer

def Member.encode (m : Member) : List (String × Json) :=
  [("name", .string m.name), ("memberType", m.memberType.encode),
   ("valueType", .ofOption m.valueType), ("className", .string m.className),
   ("inheritance", .array (m.inheritance.map .string))]
  ++ m.flags.encode ++ [("security", .ofOption m.security)]

def EnumType.encode (e : EnumType) : List (String × Json) :=
  [("name", .string e.name), ("enumItems", .array (e.items.map EnumItem.encode))]

def Entry.encode : Entry → Json
  | .member m => .object (("kind", .string "member") :: m.encode)
  | .enumType e => .object (("kind", .string "enum") :: e.encode)

namespace Request

def encode : Request → Json
  | .init data => .object [("type", .string "init"), ("data", data.encode)]
  | .filter query => .object [("type", .string "filter"), ("query", .string query)]

def text (request : Request) : String := request.encode.text

end Request

namespace Response

def encode : Response → Json
  | .initComplete => .object [("type", .string "init_complete")]
  | .filterComplete results =>
    .object [("type", .string "filter_complete"), ("results", .array (results.map Entry.encode))]
  | .filterError error => .object [("type", .string "filter_error"), ("error", .string error)]

def text (response : Response) : String := response.encode.text

end Response

end RefViewer
