import RefViewer.Json.Basic
import RefViewer.Number.Shortest
import RefViewer.Unicode.Category
import RefViewer.Unicode.Property

/-!
# Causes of refusal

Why a text is no document, or a document not of the wanted shape, and how each cause reads.
-/

namespace RefViewer.Json

inductive Found where
  | null
  | bool (b : Bool)
  | number (n : Numeral)
  | string (s : String)
  | sequence
  | map
  deriving DecidableEq, Repr

inductive Cause where
  | endInList
  | endInObject
  | endInString
  | endInValue
  | colonWanted
  | listEndWanted
  | objectEndWanted
  | wordWanted
  | valueWanted
  | escape
  | number
  | numberRange
  | codePoint
  | controlCharacter
  | keyWanted
  | loneSurrogate
  | openSurrogate
  | trailingComma
  | trailingCharacters
  | tooDeep
  | wrongType (found : Found) (wanted : String)
  | wrongValue (found : Found) (wanted : String)
  | wrongLength (length : Nat) (wanted : String)
  | missingField (name : String)
  | duplicateField (name : String)
  | unknownVariant (name : String) (known : List String)
  | noVariant (type : String)
  deriving DecidableEq, Repr

namespace Found

open Unicode in
/-- Control characters, unassigned ones, blanks other than the space, and marks that join the
character before them are shown by number. -/
def isShownByNumber (c : Char) : Bool :=
  if c.toNat < 128 then c.toNat < 32 || c.toNat = 127
  else [Category.cc, .cf, .co, .cn, .zl, .zp, .zs].any (Category.contains · c)
    || Property.graphemeExtend.set.contains c

def quoteChar (c : Char) : List Char :=
  match c with
  | '\x00' => ['\\', '0']
  | '\t' => ['\\', 't']
  | '\n' => ['\\', 'n']
  | '\r' => ['\\', 'r']
  | '"' => ['\\', '"']
  | '\\' => ['\\', '\\']
  | c =>
    if isShownByNumber c then
      ['\\', 'u', '\x7b'] ++ Nat.toDigits 16 c.toNat ++ ['\x7d']
    else [c]

def quote (s : String) : String := "\"" ++ .ofList (s.toList.flatMap quoteChar) ++ "\""

def text : Found → String
  | .null => "null"
  | .bool b => s!"boolean `{b}`"
  | .number (.integer i) => s!"integer `{i}`"
  | .number (.float (.finite negative units)) =>
    "floating point `" ++ .ofList (Number.toDocument negative units) ++ "`"
  | .number (.float x) => "floating point `" ++ x.toText ++ "`"
  | .string s => "string " ++ quote s
  | .sequence => "sequence"
  | .map => "map"

end Found

namespace Cause

def ticked (name : String) : String := "`" ++ name ++ "`"

def knownText (known : List String) : String :=
  match known with
  | [a, b] => ticked a ++ " or " ++ ticked b
  | known => "one of " ++ ", ".intercalate (known.map ticked)

def text : Cause → String
  | .endInList => "EOF while parsing a list"
  | .endInObject => "EOF while parsing an object"
  | .endInString => "EOF while parsing a string"
  | .endInValue => "EOF while parsing a value"
  | .colonWanted => "expected `:`"
  | .listEndWanted => "expected `,` or `]`"
  | .objectEndWanted => "expected `,` or `\x7d`"
  | .wordWanted => "expected ident"
  | .valueWanted => "expected value"
  | .escape => "invalid escape"
  | .number => "invalid number"
  | .numberRange => "number out of range"
  | .codePoint => "invalid unicode code point"
  | .controlCharacter => "control character (\\u0000-\\u001F) found while parsing a string"
  | .keyWanted => "key must be a string"
  | .loneSurrogate => "lone leading surrogate in hex escape"
  | .openSurrogate => "unexpected end of hex escape"
  | .trailingComma => "trailing comma"
  | .trailingCharacters => "trailing characters"
  | .tooDeep => "recursion limit exceeded"
  | .wrongType found wanted => "invalid type: " ++ found.text ++ ", expected " ++ wanted
  | .wrongValue found wanted => "invalid value: " ++ found.text ++ ", expected " ++ wanted
  | .wrongLength length wanted => s!"invalid length {length}, expected " ++ wanted
  | .missingField name => "missing field " ++ ticked name
  | .duplicateField name => "duplicate field " ++ ticked name
  | .unknownVariant name known =>
    "unknown variant " ++ ticked name ++ ", expected " ++ knownText known
  | .noVariant type => "data did not match any variant of untagged enum " ++ type

end Cause

end RefViewer.Json
