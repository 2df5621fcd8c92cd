import RefViewer.Number.Basic

/-!
# Documents

A document value as it stands in a message: objects keep the order of their entries, and
whole numbers that fit into 64 bits are told from other numbers.
-/

namespace RefViewer

inductive Numeral where
  | integer (i : Int)
  | float (x : Number)
  deriving DecidableEq, Repr

inductive Json where
  | null
  | bool (b : Bool)
  | number (n : Numeral)
  | string (s : String)
  | array (items : List Json)
  | object (entries : List (String × Json))
  deriving Repr

namespace Numeral

def signedMin : Int := -0x8000000000000000

def signedLimit : Int := 0x8000000000000000

def unsignedLimit : Int := 0x10000000000000000

def toNumber : Numeral → Number
  | .integer i => .ofInt i
  | .float x => x

end Numeral

end RefViewer
