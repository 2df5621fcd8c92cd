import RefViewer.Dataset
import RefViewer.Failure
import RefViewer.Json.Decode

/-!
# Decoding datasets

The written form of a dataset. Null stands for a default almost everywhere, unknown keys are
passed over, and only names are required.
-/

namespace RefViewer

open Json (Decoder Cause)
open Json.Decoder (string bool optional orDefault list structured plainVariant)
open Json.Decoder.Field (mandatory withDefault)

/-- A value of an enum, taken whole before it is judged. -/
def EnumValue.decode : Decoder EnumValue := fun context node => do
  match ← node.take context.depth with
  | .null => return .null
  | .bool b => return .bool b
  | .string s => return .text s
  | .number (.integer i) =>
    if i < Numeral.signedLimit then return .integer (.ofInt i) else return .float (.ofInt i)
  | .number (.float x) => return .float x
  | _ => throw (.noVariant "EnumValue")

def MemberType.decode : Decoder MemberType := plainVariant .ofText

def Flags.fields (change : (Flags → Flags) → σ → σ) : List (Json.Decoder.Field σ) := [
  withDefault "unreplicated" (orDefault false bool)
    fun b => change fun flags => { flags with unreplicated := b },
  withDefault "deprecated" (orDefault false bool)
    fun b => change fun flags => { flags with deprecated := b },
  withDefault "hidden" (orDefault false bool)
    fun b => change fun flags => { flags with hidden := b },
  withDefault "unscriptable" (orDefault false bool)
    fun b => change fun flags => { flags with unscriptable := b }]

def EnumItem.blank : EnumItem := ⟨"", .null, .off, none⟩

def EnumItem.fields : List (Json.Decoder.Field EnumItem) :=
  [mandatory "name" string fun name r => { r with name },
   withDefault "value" EnumValue.decode fun value r => { r with value }]
  ++ Flags.fields (fun f r => { r with flags := f r.flags }) ++
  [withDefault "security" (optional string) fun security r => { r with security }]

def EnumItem.decode : Decoder EnumItem := structured "struct EnumItem" .blank fields

def MemberRecord.blank : MemberRecord := ⟨"", .unknown, none, .off, none⟩

def MemberRecord.fields : List (Json.Decoder.Field MemberRecord) :=
  [mandatory "name" string fun name r => { r with name },
   withDefault "member_type" MemberType.decode fun memberType r => { r with memberType },
   withDefault "value_type" (optional string) fun valueType r => { r with valueType }]
  ++ Flags.fields (fun f r => { r with flags := f r.flags }) ++
  [withDefault "security" (optional string) fun security r => { r with security }]

def MemberRecord.decode : Decoder MemberRecord := structured "struct RawMember" .blank fields

def ClassRecord.blank : ClassRecord := ⟨"", [], []⟩

def ClassRecord.fields : List (Json.Decoder.Field ClassRecord) := [
  mandatory "name" string fun name r => { r with name },
  withDefault "inherits" (orDefault [] (list string)) fun inherits r => { r with inherits },
  withDefault "members" (orDefault [] (list MemberRecord.decode))
    fun members r => { r with members }]

def ClassRecord.decode : Decoder ClassRecord := structured "struct RawClass" .blank fields

def EnumRecord.blank : EnumRecord := ⟨"", []⟩

def EnumRecord.fields : List (Json.Decoder.Field EnumRecord) := [
  mandatory "name" string fun name r => { r with name },
  withDefault "items" (orDefault [] (list EnumItem.decode)) fun items r => { r with items }]

def EnumRecord.decode : Decoder EnumRecord := structured "struct RawEnum" .blank fields

def Metadata.fields : List (Json.Decoder.Field Metadata) := [
  withDefault "version" (optional string) fun version r => { r with version },
  withDefault "updated" (optional string) fun updated r => { r with updated }]

def Metadata.decode : Decoder Metadata := structured "struct Metadata" .unknown fields

namespace Dataset

def fields : List (Json.Decoder.Field Dataset) := [
  withDefault "classes" (orDefault [] (list ClassRecord.decode))
    fun classes r => { r with classes },
  withDefault "enums" (orDefault [] (list EnumRecord.decode)) fun enums r => { r with enums },
  withDefault "metadata" (orDefault .unknown Metadata.decode)
    fun metadata r => { r with metadata }]

def decode : Decoder Dataset := structured "struct RawDataset" .empty fields

def read (text : Unicode.GappedText) : Except Cause Dataset := Decoder.ofText decode text

def ofText (text : String) : Except Failure Dataset :=
  (read (.ofString text)).mapError fun cause => .load cause.text

def ofFile (path : String) (content : Option (List UInt8)) : Except Failure Dataset :=
  match content with
  | none => .error (.load s!"Failed to load {path}: No such file or directory (os error 2)")
  | some bytes =>
    (read (Unicode.Utf8.decode bytes)).mapError fun cause =>
      .load (s!"Malformed dataset {path}: " ++ cause.text)

end Dataset

end RefViewer
