import RefViewer.Json.Node
import RefViewer.Unicode.Utf8

/-!
# Reading documents

Cuts a text into nodes. Numbers are read in two steps, digits into 64 bits and one
multiplication or division by a power of ten, so the nearest number is not always found.
-/

namespace RefViewer.Json

open Unicode (GappedText)

namespace Reader

def isBlank (c : Option Char) : Bool :=
  c = some ' ' || c = some '\n' || c = some '\t' || c = some '\r'

def skipBlanks (text : GappedText) : GappedText := text.dropWhile isBlank

/-! ## Strings -/

/-- The characters read so far, in reverse order, and what a strict reader finds wrong. -/
structure Scan where
  reversed : List Char
  fault : Option Cause
  /-- The first half of a character that is written in two escapes. -/
  lead : Option Nat
  undecoded : Bool

namespace Scan

def start : Scan := ⟨[], none, none, false⟩

def fail (scan : Scan) (cause : Cause) : Scan :=
  match scan.fault with
  | some _ => scan
  | none => { scan with fault := some cause }

/-- Anything other than an escape after the first half of a character is a fault. -/
def closeLead (scan : Scan) : Scan :=
  match scan.lead with
  | some _ => { scan.fail .openSurrogate with lead := none }
  | none => scan

def push (scan : Scan) (c : Char) : Scan := { scan with reversed := c :: scan.reversed }

def unit (scan : Scan) (n : Nat) : Scan :=
  match scan.lead with
  | some lead =>
    let scan := { scan with lead := none }
    if 0xdc00 ≤ n && n ≤ 0xdfff then
      scan.push (.ofNat (0x10000 + (lead - 0xd800) * 0x400 + (n - 0xdc00)))
    else scan.fail .loneSurrogate
  | none =>
    if 0xdc00 ≤ n && n ≤ 0xdfff then scan.fail .loneSurrogate
    else if 0xd800 ≤ n && n ≤ 0xdbff then { scan with lead := some n }
    else scan.push (.ofNat n)

def stop (scan : Scan) (cause : Cause) : Quoted × Option GappedText :=
  (⟨.error (scan.fault.getD cause), some cause⟩, none)

/-- Undecodable bytes are only noticed once the string is complete. -/
def close (scan : Scan) (rest : GappedText) : Quoted × Option GappedText :=
  let scan := scan.closeLead
  let value := match scan.fault with
    | some cause => .error cause
    | none =>
      if scan.undecoded then .error .codePoint else .ok (.ofList scan.reversed.reverse)
  (⟨value, none⟩, some rest)

end Scan

def hexDigit? (c : Option Char) : Option Nat :=
  match c with
  | none => none
  | some c =>
    if c.isDigit then some (c.toNat - 48)
    else if 'a' ≤ c && c ≤ 'f' then some (c.toNat - 87)
    else if 'A' ≤ c && c ≤ 'F' then some (c.toNat - 55)
    else none

def hasBytes : Nat → GappedText → Bool
  | 0, _ => true
  | _ + 1, [] => false
  | n + 1, c :: rest =>
    let size := match c with
      | some c => c.utf8Size
      | none => 1
    hasBytes (n + 1 - size) rest
termination_by _ text => text.length

def hexUnit? (text : GappedText) : Except Cause (Nat × GappedText) :=
  match text with
  | a :: b :: c :: d :: rest =>
    match hexDigit? a, hexDigit? b, hexDigit? c, hexDigit? d with
    | some a, some b, some c, some d => .ok (a * 4096 + b * 256 + c * 16 + d, rest)
    | _, _, _, _ => .error .escape
  | text => .error (if hasBytes 4 text then .escape else .endInString)

def simpleEscape? : Char → Option Char
  | '"' => some '"'
  | '\\' => some '\\'
  | '/' => some '/'
  | 'b' => some '\x08'
  | 'f' => some '\x0c'
  | 'n' => some '\n'
  | 'r' => some '\r'
  | 't' => some '\t'
  | _ => none

def string : Nat → Scan → GappedText → Quoted × Option GappedText
  | 0, scan, _ => scan.stop .endInString
  | _ + 1, scan, [] => scan.stop .endInString
  | fuel + 1, scan, none :: rest =>
    string fuel { scan.closeLead with undecoded := true } rest
  | fuel + 1, scan, some c :: rest =>
    if c = '"' then scan.close rest
    else if c = '\\' then
      match rest with
      | [] => scan.stop .endInString
      | some 'u' :: rest =>
        match hexUnit? rest with
        | .ok (n, rest) => string fuel (scan.unit n) rest
        | .error cause => scan.stop cause
      | escaped :: rest =>
        match escaped.bind simpleEscape? with
        | some c => string fuel (scan.closeLead.push c) rest
        | none => scan.closeLead.stop .escape
    else if c.toNat < 0x20 then scan.closeLead.stop .controlCharacter
    else string fuel (scan.closeLead.push c) rest

/-! ## Numbers -/

def digit? (c : Option Char) : Option Nat :=
  match c with
  | some c => if c.isDigit then some (c.toNat - 48) else none
  | none => none

def isDigit (c : Option Char) : Bool := (digit? c).isSome

def isExponentMark (c : Option Char) : Bool := c = some 'e' || c = some 'E'

def passExponent : GappedText → Option GappedText
  | mark :: rest =>
    if isExponentMark mark then
      let rest := if rest.head? = some (some '+') || rest.head? = some (some '-')
        then rest.drop 1 else rest
      if rest.head?.any isDigit then some (rest.dropWhile isDigit) else none
    else some (mark :: rest)
  | [] => some []

def passFraction : GappedText → Option GappedText
  | some '.' :: rest =>
    if rest.head?.any isDigit then passExponent (rest.dropWhile isDigit) else none
  | text => passExponent text

def passNumber : GappedText → Option GappedText
  | some '0' :: rest => if rest.head?.any isDigit then none else passFraction rest
  | first :: rest => if isDigit first then passFraction (rest.dropWhile isDigit) else none
  | [] => none

def powerOfTen (exponent : Nat) : Number := .ofNat (Nat.pow 10 exponent)

/-- `significand * 10 ^ exponent`, in one rounded step where the power is within range. -/
def scale : Nat → Number → Int → Except Cause Number
  | 0, x, _ => .ok x
  | fuel + 1, x, exponent =>
    if exponent.natAbs ≤ 308 then
      if 0 ≤ exponent then
        match x.mul (powerOfTen exponent.toNat) with
        | .infinity _ => .error .numberRange
        | product => .ok product
      else .ok (x.div (powerOfTen exponent.natAbs))
    else if x.isZero then .ok x
    else if 0 ≤ exponent then .error .numberRange
    else scale fuel (x.div (powerOfTen 308)) (exponent + 308)

/-- A few divisions bring any 64-bit significand down to zero. -/
def floatOf (negative : Bool) (significand : Nat) (exponent : Int) : Except Cause Numeral :=
  (scale 8 (.ofNat significand) exponent).map fun x => .float (if negative then x.neg else x)

/-- Digits are taken in while they fit; the rest are counted. -/
def takeDigits (significand : Nat) : GappedText → Nat × Nat × GappedText
  | [] => (significand, 0, [])
  | c :: rest =>
    match digit? c with
    | none => (significand, 0, c :: rest)
    | some d =>
      if (10 * significand + d : Int) < Numeral.unsignedLimit then
        let (taken, count, rest) := takeDigits (10 * significand + d) rest
        (taken, count + 1, rest)
      else (significand, 0, c :: rest)

def noDigit (text : GappedText) : Cause := if text.isEmpty then .endInValue else .number

def exponentPart (negative : Bool) (significand : Nat) (exponent : Int) (text : GappedText) :
    Except Cause Numeral :=
  match text with
  | mark :: rest =>
    if isExponentMark mark then
      let down := rest.head? = some (some '-')
      let rest := if down || rest.head? = some (some '+') then rest.drop 1 else rest
      if rest.head?.any isDigit then
        let n := (rest.takeWhile isDigit).foldl (fun n c => 10 * n + (digit? c).getD 0) 0
        floatOf negative significand (if down then exponent - n else exponent + n)
      else .error (noDigit rest)
    else floatOf negative significand exponent
  | [] => floatOf negative significand exponent

def fractionPart (negative : Bool) (significand : Nat) (exponent : Int) (text : GappedText) :
    Except Cause Numeral :=
  if text.head?.any isDigit then
    let (taken, count, rest) := takeDigits significand text
    exponentPart negative taken (exponent - count) (rest.dropWhile isDigit)
  else .error (noDigit text)

/-- A whole number stays one if it fits into 64 bits; minus zero is no whole number. -/
def wholePart (negative : Bool) (n : Nat) : Numeral :=
  if negative then
    if n ≠ 0 && Numeral.signedMin ≤ -(n : Int) then .integer (-(n : Int))
    else .float (Number.ofNat n).neg
  else .integer n

def number (negative : Bool) (text : GappedText) : Except Cause Numeral :=
  if !text.head?.any isDigit then .error (noDigit text)
  else if text.head? = some (some '0') && (text.drop 1).head?.any isDigit then .error .number
  else
    let (significand, _, rest) := takeDigits 0 text
    let exponent := (rest.takeWhile isDigit).length
    match rest.dropWhile isDigit with
    | some '.' :: rest => fractionPart negative significand exponent rest
    | rest =>
      if exponent = 0 && !rest.head?.any isExponentMark then .ok (wholePart negative significand)
      else exponentPart negative significand exponent rest

def numberNode (negative : Bool) (text : GappedText) : Node × Option GappedText :=
  let value := number negative text
  match passNumber text with
  | some rest => (.number value, some rest)
  | none =>
    match value with
    | .error cause => (.broken ⟨cause, .number⟩, none)
    | .ok _ => (.broken (.same .number), none)

/-! ## Values -/

def wordNode (node : Node) : List Char → GappedText → Node × Option GappedText
  | [], text => (node, some text)
  | _ :: _, [] => (.broken (.same .endInValue), none)
  | c :: more, found :: rest =>
    if found = some c then wordNode node more rest else (.broken (.same .wordWanted), none)

mutual

def value : Nat → GappedText → Node × Option GappedText
  | 0, _ => (.missing, none)
  | fuel + 1, text =>
    match skipBlanks text with
    | [] => (.missing, none)
    | some 'n' :: rest => wordNode .null ['u', 'l', 'l'] rest
    | some 't' :: rest => wordNode (.bool true) ['r', 'u', 'e'] rest
    | some 'f' :: rest => wordNode (.bool false) ['a', 'l', 's', 'e'] rest
    | some '-' :: rest => numberNode true rest
    | some '"' :: rest =>
      let (quoted, rest) := string (rest.length + 1) .start rest
      (.string quoted, rest)
    | some '[' :: rest =>
      let (items, ending, rest) := list fuel rest
      (.array items ending, rest)
    | some '\x7b' :: rest =>
      match skipBlanks rest with
      | [] => (.object [] .textEnd, none)
      | some '\x7d' :: rest => (.object [] .closed, some rest)
      | some '"' :: rest =>
        let (entries, ending, rest) := entries fuel rest
        (.object entries ending, rest)
      | text => (.keyless (value fuel text).1, none)
    | first :: rest =>
      if isDigit first then numberNode false (first :: rest)
      else (.broken (.same .valueWanted), none)

def list : Nat → GappedText → List Node × Ending × Option GappedText
  | 0, _ => ([], .textEnd, none)
  | fuel + 1, text =>
    match skipBlanks text with
    | [] => ([], .textEnd, none)
    | some ']' :: rest => ([], .closed, some rest)
    | text => items fuel text

def items : Nat → GappedText → List Node × Ending × Option GappedText
  | 0, _ => ([], .textEnd, none)
  | fuel + 1, text =>
    match value fuel text with
    | (node, none) => ([node], .stopped, none)
    | (node, some rest) =>
      match skipBlanks rest with
      | [] => ([node], .textEnd, none)
      | some ']' :: rest => ([node], .closed, some rest)
      | some ',' :: rest =>
        match skipBlanks rest with
        | [] => ([node], .commaEnd, none)
        | some ']' :: _ => ([node], .commaClosed, none)
        | text =>
          let (nodes, ending, rest) := items fuel text
          (node :: nodes, ending, rest)
      | _ :: _ => ([node], .noSeparator, none)

def entries : Nat → GappedText →
    List (Quoted × Option Cause × Node) × Ending × Option GappedText
  | 0, _ => ([], .textEnd, none)
  | fuel + 1, text =>
    match string (text.length + 1) .start text with
    | (key, none) => ([(key, none, .missing)], .stopped, none)
    | (key, some rest) =>
      match skipBlanks rest with
      | [] => ([(key, some .endInObject, .missing)], .stopped, none)
      | some ':' :: rest =>
        match value fuel rest with
        | (node, none) => ([(key, none, node)], .stopped, none)
        | (node, some rest) =>
          match skipBlanks rest with
          | [] => ([(key, none, node)], .textEnd, none)
          | some '\x7d' :: rest => ([(key, none, node)], .closed, some rest)
          | some ',' :: rest =>
            match skipBlanks rest with
            | [] => ([(key, none, node)], .commaEnd, none)
            | some '\x7d' :: _ => ([(key, none, node)], .commaClosed, none)
            | some '"' :: rest =>
              let (more, ending, rest) := entries fuel rest
              ((key, none, node) :: more, ending, rest)
            | _ :: _ => ([(key, none, node)], .noKey, none)
          | _ :: _ => ([(key, none, node)], .noSeparator, none)
      | _ :: _ => ([(key, some .colonWanted, .missing)], .stopped, none)

end

end Reader

/-- The value of a text, and whether something other than blanks follows it. -/
structure Document where
  root : Node
  trailing : Bool

/-- A nested value takes at least one character and three calls. -/
def Document.ofText (text : GappedText) : Document :=
  match Reader.value (3 * text.length + 3) text with
  | (root, none) => ⟨root, false⟩
  | (root, some rest) => ⟨root, !(Reader.skipBlanks rest).isEmpty⟩

end RefViewer.Json
