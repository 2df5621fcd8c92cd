/-!
# UTF-8

Text from bytes. A byte that belongs to no well-formed sequence stands for itself, as a gap
in the text, so that a reader can say where it met one.
-/

namespace RefViewer.Unicode

/-- Characters with a gap for every byte that could not be decoded. -/
abbrev GappedText := List (Option Char)

namespace Utf8

def continuation? (byte : UInt8) : Option Nat :=
  if byte.toNat / 64 = 2 then some (byte.toNat % 64) else none

def continuations : List UInt8 → Option (List Nat)
  | [] => some []
  | byte :: rest => do return (← continuation? byte) :: (← continuations rest)

/-- How many continuation bytes follow a first byte, the bits it gives, and the least code
point that needs so many. -/
def lead? (byte : UInt8) : Option (Nat × Nat × Nat) :=
  let n := byte.toNat
  if n < 0x80 then some (0, n, 0)
  else if n < 0xc2 then none
  else if n < 0xe0 then some (1, n % 32, 0x80)
  else if n < 0xf0 then some (2, n % 16, 0x800)
  else if n < 0xf5 then some (3, n % 8, 0x10000)
  else none

def first? (byte : UInt8) (rest : List UInt8) : Option (Char × Nat) := do
  let (count, bits, least) ← lead? byte
  let following := rest.take count
  if following.length = count then
    let code := (← continuations following).foldl (fun n bits => 64 * n + bits) bits
    if h : code.isValidChar then
      if least ≤ code then some (Char.ofNatAux code h, count + 1) else none
    else none
  else none

def decodeUpTo : Nat → List UInt8 → GappedText
  | 0, _ => []
  | _ + 1, [] => []
  | fuel + 1, byte :: rest =>
    match first? byte rest with
    | some (c, size) => some c :: decodeUpTo fuel ((byte :: rest).drop size)
    | none => none :: decodeUpTo fuel rest

def decode (bytes : List UInt8) : GappedText := decodeUpTo bytes.length bytes

end Utf8

def GappedText.ofString (text : String) : GappedText := text.toList.map some

end RefViewer.Unicode
