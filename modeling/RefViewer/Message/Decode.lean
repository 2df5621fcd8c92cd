import RefViewer.Dataset.Decode
import RefViewer.Message

/-!
# Decoding messages

The tag says which message it is; it may stand anywhere in the object, or first in a list.
-/

namespace RefViewer

open Json (Decoder Cause)
open Json.Decoder (string bool optional list structured tagged beside unitVariant)
open Json.Decoder.Field (mandatory)

/-- A field that an object may leave out, but a list may not. -/
def Json.Decoder.Field.optionalField (name : String) (set : Option String → σ → σ) : Field σ :=
  ⟨name, false, true, Field.of (optional string) set⟩

def Flags.mandatoryFields (change : (Flags → Flags) → σ → σ) : List (Json.Decoder.Field σ) := [
  mandatory "unreplicated" bool fun b => change fun flags => { flags with unreplicated := b },
  mandatory "deprecated" bool fun b => change fun flags => { flags with deprecated := b },
  mandatory "hidden" bool fun b => change fun flags => { flags with hidden := b },
  mandatory "unscriptable" bool fun b => change fun flags => { flags with unscriptable := b }]

def Member.blank : Member := ⟨"", .unknown, none, "", [], .off, none⟩

def Member.decode : Decoder Member :=
  structured "struct Member" .blank <|
    [mandatory "name" string fun name m => { m with name },
     mandatory "memberType" MemberType.decode fun memberType m => { m with memberType },
     .optionalField "valueType" fun valueType m => { m with valueType },
     mandatory "className" string fun className m => { m with className },
     mandatory "inheritance" (list string) fun inheritance m => { m with inheritance }]
    ++ Flags.mandatoryFields (fun f m => { m with flags := f m.flags }) ++
    [.optionalField "security" fun security m => { m with security }]

def EnumType.decode : Decoder EnumType :=
  structured "struct EnumType" ⟨"", []⟩
    [mandatory "name" string fun name e => { e with name },
     mandatory "enumItems" (list EnumItem.decode) fun items e => { e with items }]

def Entry.decode : Decoder Entry := fun context node => do
  match ← tagged "internally tagged enum FilterableItem" "kind" ["member", "enum"] context node with
  | (0, content) => return .member (← beside Member.decode content)
  | (_, content) => return .enumType (← beside EnumType.decode content)

def onlyField (title name : String) (blank : α) (decode : Decoder α) (content : Json) :
    Except Cause α :=
  beside (structured title blank [mandatory name decode fun value _ => value]) content

namespace Request

def decode : Decoder Request := fun context node => do
  match ← tagged "internally tagged enum Request" "type" ["init", "filter"] context node with
  | (0, content) =>
    return .init (← onlyField "struct variant Request::Init" "data" .empty Dataset.decode content)
  | (_, content) =>
    return .filter (← onlyField "struct variant Request::Filter" "query" "" string content)

def ofText (text : String) : Except Cause Request := Decoder.ofText decode (.ofString text)

end Request

namespace Response

def variants : List String := ["init_complete", "filter_complete", "filter_error"]

def decode : Decoder Response := fun context node => do
  match ← tagged "internally tagged enum Response" "type" variants context node with
  | (0, content) => do
    unitVariant content
    return .initComplete
  | (1, content) =>
    let title := "struct variant Response::FilterComplete"
    return .filterComplete (← onlyField title "results" [] (list Entry.decode) content)
  | (_, content) =>
    let title := "struct variant Response::FilterError"
    return .filterError (← onlyField title "error" "" string content)

def ofText (text : String) : Except Cause Response := Decoder.ofText decode (.ofString text)

end Response

end RefViewer
