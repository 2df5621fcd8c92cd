/-!
# Characters by number

Escapes in settings files name a character by its number in hexadecimal digits.
-/

namespace RefViewer.Unicode

def hexValue? (c : Char) : Option Nat :=
  if '0' ≤ c && c ≤ '9' then some (c.toNat - 48)
  else if 'a' ≤ c && c ≤ 'f' then some (c.toNat - 87)
  else if 'A' ≤ c && c ≤ 'F' then some (c.toNat - 55)
  else none

def ofHex? (digits : List Char) : Option Nat :=
  (digits.mapM hexValue?).map fun values => values.foldl (fun n d => 16 * n + d) 0

def takeHex (count : Nat) (text : List Char) : Option (Nat × List Char) := do
  let n ← ofHex? (text.take count)
  if count ≤ text.length then some (n, text.drop count) else none

def charOf? (code : Nat) : Option Char := if code.isValidChar then some (.ofNat code) else none

def takeCode (count : Nat) (text : List Char) : Option (Char × List Char) := do
  let (code, rest) ← takeHex count text
  return (← charOf? code, rest)

end RefViewer.Unicode
