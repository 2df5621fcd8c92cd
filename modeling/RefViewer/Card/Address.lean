import RefViewer.Index

/-!
# Addresses

The page of the reference that describes an entry. In a name, every byte of its UTF-8 form is
written as a percent sign and two hexadecimal digits, letters, digits and four marks aside.
-/

namespace RefViewer.Address

def base : String := "https://robloxapi.github.io/ref"

def isPlain (byte : UInt8) : Bool :=
  let c := Char.ofNat byte.toNat
  c.isAlphanum || c = '-' || c = '_' || c = '.' || c = '~'

def hexDigit (n : Nat) : Char :=
  if n < 10 then Char.ofNat (48 + n) else Char.ofNat (55 + n)

def encodeByte (byte : UInt8) : List Char :=
  if isPlain byte then [Char.ofNat byte.toNat]
  else ['%', hexDigit (byte.toNat / 16), hexDigit (byte.toNat % 16)]

def encode (name : String) : String := .ofList (name.toUTF8.toList.flatMap encodeByte)

def member (m : Member) : String :=
  base ++ "/class/" ++ encode m.className ++ "#member-" ++ encode m.name

def enumType (e : EnumType) : String := base ++ "/enum/" ++ encode e.name

def entry : Entry → String
  | .member m => member m
  | .enumType e => enumType e

end RefViewer.Address
