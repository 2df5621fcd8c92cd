import RefViewer.Unicode.CaseTable
import RefViewer.Unicode.Category
import RefViewer.Unicode.Property

/-!
# Letters and blanks

Character classes with their ASCII part written out, trimming, and the case of whole
strings. A string may grow when its case changes, and a Greek sigma at the end of a word has
a lower-case form of its own.
-/

namespace RefViewer.Unicode

def isBlank (c : Char) : Bool :=
  if c.toNat < 128 then c.toNat = 32 || (9 ≤ c.toNat && c.toNat ≤ 13)
  else Property.whiteSpace.set.contains c

def isAlphanumeric (c : Char) : Bool :=
  if c.toNat < 128 then c.isAlphanum
  else Property.alphabetic.set.contains c
    || Category.nd.contains c || Category.nl.contains c || Category.no.contains c

def trimStartChars (text : List Char) : List Char := text.dropWhile isBlank

def trimChars (text : List Char) : List Char :=
  (trimStartChars (trimStartChars text).reverse).reverse

def trim (text : String) : String := String.ofList (trimChars text.toList)

def lowerChar (c : Char) : List Char :=
  if c.toNat < 128 then [c.toLower]
  else match CaseTable.longLower.lookup c.toNat with
    | some codes => codes.map Char.ofNat
    | none => [CaseTable.lower.shift c]

def upperChar (c : Char) : List Char :=
  if c.toNat < 128 then [c.toUpper]
  else match CaseTable.longUpper.lookup c.toNat with
    | some codes => codes.map Char.ofNat
    | none => [CaseTable.upper.shift c]

def startsCased (text : List Char) : Bool :=
  match text.dropWhile Property.caseIgnorable.set.contains with
  | [] => false
  | c :: _ => Property.cased.set.contains c

/-- Lower case of `text`, after the characters of `before`, which stand in reverse order. -/
def lowerAfter (before : List Char) : List Char → List Char
  | [] => []
  | c :: rest =>
    let form :=
      if c = 'Σ' then [if startsCased before && !startsCased rest then 'ς' else 'σ']
      else lowerChar c
    form ++ lowerAfter (c :: before) rest

def lower (text : String) : String := String.ofList (lowerAfter [] text.toList)

def upper (text : String) : String := String.ofList (text.toList.flatMap upperChar)

def foldCase (c : Char) : Char := CaseTable.fold.shift c

end RefViewer.Unicode
