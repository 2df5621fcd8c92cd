import RefViewer.Number.Decimal
import RefViewer.Pattern.Property
import RefViewer.Pattern.Regex

/-!
# Written patterns

Reads a regular expression in its written form. Modes hold up to the end of the group that
sets them. A pattern is refused when any part of it is: no cause is kept. Without the Unicode
mode only ASCII can be spoken of, so whatever could meet half a character is refused too.
-/

namespace RefViewer.PatternReader

structure Modes where
  ignoreCase : Bool
  multiLine : Bool
  dotAll : Bool
  crlf : Bool
  unicode : Bool
  /-- Blanks and comments in the pattern do not count. -/
  spaced : Bool
  deriving DecidableEq, Repr

def Modes.initial : Modes := ⟨false, false, false, false, true, false⟩

structure State where
  rest : List Char
  modes : Modes
  groupNames : List String

abbrev Read := StateT State Option

def refuse : Read α := fun _ => none

def accept? (a : Option α) : Read α := fun state => a.map fun a => (a, state)

def demand (condition : Bool) : Read Unit := if condition then pure () else refuse

def peek? : Read (Option Char) := do return (← get).rest.head?

def peek : Read Char := do accept? (← peek?)

def bump : Read Unit := modify fun state => { state with rest := state.rest.drop 1 }

def modes : Read Modes := do return (← get).modes

def setModes (modes : Modes) : Read Unit := modify fun state => { state with modes }

def setRest (rest : List Char) : Read Unit := modify fun state => { state with rest }

def dropSpaced (inComment : Bool) : List Char → List Char
  | [] => []
  | c :: rest =>
    if inComment then dropSpaced (c != '\n') rest
    else if Unicode.isBlank c then dropSpaced false rest
    else if c = '#' then dropSpaced true rest
    else c :: rest

def skipSpaced : Read Unit := do
  if (← modes).spaced then modify fun state => { state with rest := dropSpaced false state.rest }

def bumpSpaced : Read Unit := do bump; skipSpaced

def bumpIf (expected : String) : Read Bool := do
  let rest := (← get).rest
  if expected.toList.isPrefixOf rest then
    setRest (rest.drop expected.length)
    return true
  else return false

/-- The character after the next one, past what a spaced pattern skips. A comment mark only
hides itself. -/
def peekAfter (spaced : Bool) : List Char → Option Char
  | [] => none
  | _ :: rest =>
    if spaced then
      match rest.dropWhile Unicode.isBlank with
      | '#' :: more =>
        match more.dropWhile Unicode.isBlank with
        | [] => rest.head?
        | c :: _ => some c
      | [] => rest.head?
      | c :: _ => some c
    else rest.head?

/-! ## Escapes -/

inductive Primitive where
  /-- `byte` when written as a byte in two hexadecimal digits. -/
  | literal (c : Char) (byte : Bool)
  | dot
  | assertion (condition : Assertion)
  | cls (cls : CharClass)

def isHex (c : Char) : Bool :=
  c.isDigit || ('a' ≤ c && c ≤ 'f') || ('A' ≤ c && c ≤ 'F')

def hexValue (digits : List Char) : Nat :=
  digits.foldl (fun n c => 16 * n + Unicode.base36Digit c.toLower) 0

def scalar? (code : Nat) : Option Char :=
  if h : code.isValidChar then some (Char.ofNatAux code h) else none

def hexDigits : Nat → Read (List Char)
  | 0 => pure []
  | n + 1 => do
    let c ← peek
    demand (isHex c)
    bumpSpaced
    return c :: (← hexDigits n)

def braced : Nat → Read (List Char)
  | 0 => refuse
  | fuel + 1 => do
    bumpSpaced
    let c ← peek
    if c = '}' then return [] else return c :: (← braced fuel)

def remaining : Read Nat := do return (← get).rest.length + 1

def hexLiteral (kind : Char) : Read Primitive := do
  bumpSpaced
  if (← peek) = '{' then
    let digits ← braced (← remaining)
    bumpSpaced
    demand (digits ≠ [] && digits.all isHex)
    return .literal (← accept? (scalar? (hexValue digits))) false
  else
    let count := if kind = 'x' then 2 else if kind = 'u' then 4 else 8
    let digits ← hexDigits count
    return .literal (← accept? (scalar? (hexValue digits))) (kind = 'x')

def cutAt? (mark : List Char) : List Char → Option (List Char × List Char)
  | [] => none
  | c :: rest =>
    if mark.isPrefixOf (c :: rest) then some ([], (c :: rest).drop mark.length)
    else (cutAt? mark rest).map fun (before, after) => (c :: before, after)

def namedProperty? (text : List Char) : Option (CharClass × Bool) :=
  match cutAt? ['!', '='] text with
  | some (name, value) => (PropertyName.withValue? name value).map fun cls => (cls, true)
  | none =>
    let cut := match cutAt? [':'] text with
      | some cut => some cut
      | none => cutAt? ['='] text
    match cut with
    | some (name, value) => (PropertyName.withValue? name value).map fun cls => (cls, false)
    | none => (PropertyName.alone? text).map fun cls => (cls, false)

/-- A class closes under change of case before it is negated. -/
def finishClass (cls : CharClass) (negated : Bool) : Read CharClass := do
  let modes ← modes
  demand (modes.unicode || !negated)
  let folded :=
    if !modes.ignoreCase then cls
    else if modes.unicode then .folded cls
    else .foldedAscii cls
  return if negated then .complement folded else folded

def property (negated : Bool) : Read Primitive := do
  demand (← modes).unicode
  bumpSpaced
  let c ← peek
  let text ←
    if c = '{' then do
      let text ← braced (← remaining)
      bump
      pure text
    else do
      demand (c ≠ '\\')
      bumpSpaced
      pure [c]
  let (cls, flipped) ← accept? (namedProperty? text)
  return .cls (← finishClass cls (negated != flipped))

def shorthand (unicode ascii : CharClass) (negated : Bool) : Read Primitive := do
  bump
  if (← modes).unicode then return .cls (if negated then .complement unicode else unicode)
  else
    demand (!negated)
    return .cls ascii

def wordClass : Read CharClass := do
  return if (← modes).unicode then .word else .asciiWord

def isNameOfBoundary (c : Char) : Bool := c.isAlpha || c = '-'

def boundaryName : Nat → Read (List Char)
  | 0 => refuse
  | fuel + 1 => do
    let c ← peek
    if isNameOfBoundary c then
      bumpSpaced
      return c :: (← boundaryName fuel)
    else return []

/-- After `\b`, a brace opens the name of a kind of boundary if a letter or a hyphen
follows, and a repetition otherwise. -/
def boundary : Read Primitive := do
  let word ← wordClass
  if (← peek?) ≠ some '{' then return .assertion (.boundary word)
  let start := (← get).rest
  bumpSpaced
  if !isNameOfBoundary (← peek) then
    setRest start
    return .assertion (.boundary word)
  let name ← boundaryName (← remaining)
  demand ((← peek) = '}')
  bump
  match String.ofList name with
  | "start" => return .assertion (.wordStart word)
  | "end" => return .assertion (.wordEnd word)
  | "start-half" => return .assertion (.noWordBefore word)
  | "end-half" => return .assertion (.noWordAfter word)
  | _ => refuse

/-- Every ASCII character other than a letter or a digit stands for itself when escaped,
the angle brackets aside. -/
def escapesToItself (c : Char) : Bool :=
  c.toNat < 128 && !c.isAlphanum && c != '<' && c != '>'

def controlEscape? : Char → Option Char
  | 'a' => some '\x07'
  | 'f' => some '\x0c'
  | 't' => some '\t'
  | 'n' => some '\n'
  | 'r' => some '\r'
  | 'v' => some '\x0b'
  | _ => none

def escape : Read Primitive := do
  bump
  let c ← peek
  match c with
  | 'x' | 'u' | 'U' => hexLiteral c
  | 'p' => property false
  | 'P' => property true
  | 'd' => shorthand .digit .asciiDigit false
  | 'D' => shorthand .digit .asciiDigit true
  | 's' => shorthand .blank .asciiBlank false
  | 'S' => shorthand .blank .asciiBlank true
  | 'w' => shorthand .word .asciiWord false
  | 'W' => shorthand .word .asciiWord true
  | 'A' => bump; return .assertion .textStart
  | 'z' => bump; return .assertion .textEnd
  | 'b' => bump; boundary
  | 'B' => bump; return .assertion (.noBoundary (← wordClass))
  | '<' => bump; return .assertion (.wordStart (← wordClass))
  | '>' => bump; return .assertion (.wordEnd (← wordClass))
  | c =>
    bump
    if escapesToItself c then return .literal c false
    else return .literal (← accept? (controlEscape? c)) false

/-! ## Bracketed classes -/

structure Nested (α : Type) where
  value : α
  height : Nat

inductive SetOperator where
  | intersection
  | difference
  | symmetricDifference
  deriving DecidableEq

/-- Both sides close under change of case before they are combined. -/
def combine (operator : SetOperator) (lhs rhs : Nested CharClass) : Read (Nested CharClass) := do
  let a ← finishClass lhs.value false
  let b ← finishClass rhs.value false
  let value := match operator with
    | .intersection => CharClass.intersection a b
    | .difference => .difference a b
    | .symmetricDifference => .symmetricDifference a b
  return ⟨value, 1 + max lhs.height rhs.height⟩

def greatest (heights : List Nat) : Nat := heights.foldl max 0

def unionOf (items : List (Nested CharClass)) : Nested CharClass :=
  match items with
  | [] => ⟨.none, 0⟩
  | [item] => item
  | items => ⟨.unionAll (items.map Nested.value), 1 + greatest (items.map Nested.height)⟩

def closeSet (pending : Option (SetOperator × Nested CharClass))
    (items : List (Nested CharClass)) : Read (Nested CharClass) :=
  match pending with
  | none => pure (unionOf items)
  | some (operator, lhs) => combine operator lhs (unionOf items)

def asciiName? (text : List Char) : Option (Bool × CharClass × List Char) :=
  match text with
  | ':' :: rest =>
    let (negated, rest) := match rest with
      | '^' :: more => (true, more)
      | rest => (false, rest)
    match rest.dropWhile (· != ':') with
    | ':' :: ']' :: after =>
      (CharClass.asciiNamed? (.ofList (rest.takeWhile (· != ':')))).map fun cls =>
        (negated, cls, after)
    | _ => none
  | _ => none

def classLiteral (c : Char) : Read Char := do
  demand ((← modes).unicode || c.toNat < 128)
  return c

def classItem : Read Primitive := do
  let c ← peek
  if c = '\\' then escape
  else
    bump
    return .literal c false

/-- A single item or a range; a hyphen before a closing bracket or another hyphen is left. -/
def itemOrRange : Read (Nested CharClass) := do
  let first ← classItem
  skipSpaced
  let c ← peek
  let state ← get
  let after := peekAfter state.modes.spaced state.rest
  if c ≠ '-' || after = some ']' || after = some '-' then
    match first with
    | .literal c _ => return ⟨.single (← classLiteral c), 0⟩
    | .cls cls => return ⟨cls, 0⟩
    | _ => refuse
  else
    bumpSpaced
    let _ ← peek
    let last ← classItem
    match first, last with
    | .literal a _, .literal b _ =>
      let a ← classLiteral a
      let b ← classLiteral b
      demand (a.toNat ≤ b.toNat)
      return ⟨.range a.toNat b.toNat, 0⟩
    | _, _ => refuse

def leadingHyphens : Nat → Read (List (Nested CharClass))
  | 0 => pure []
  | fuel + 1 => do
    if (← peek) = '-' then
      bumpSpaced
      return ⟨.single '-', 0⟩ :: (← leadingHyphens fuel)
    else return []

/-- The opening of a bracketed class: whether it is negated, and the characters that only
stand for themselves at its front. -/
def classOpening : Read (Bool × List (Nested CharClass)) := do
  bumpSpaced
  let negated := (← peek) = '^'
  if negated then bumpSpaced
  let hyphens ← leadingHyphens (← remaining)
  if hyphens.isEmpty && (← peek) = ']' then
    bumpSpaced
    let _ ← peek
    return (negated, [⟨.single ']', 0⟩])
  return (negated, hyphens)

def setOperator? : List Char → Option SetOperator
  | '&' :: '&' :: _ => some .intersection
  | '-' :: '-' :: _ => some .difference
  | '~' :: '~' :: _ => some .symmetricDifference
  | _ => none

def classBody : Nat → Option (SetOperator × Nested CharClass) → List (Nested CharClass) →
    Read (Nested CharClass)
  | 0, _, _ => refuse
  | fuel + 1, pending, items => do
    skipSpaced
    let c ← peek
    let rest := (← get).rest
    if c = ']' then
      bump
      closeSet pending items
    else if c = '[' then
      match asciiName? (rest.drop 1) with
      | some (negated, cls, after) =>
        setRest after
        let cls ← finishClass cls negated
        classBody fuel pending (items ++ [⟨cls, 0⟩])
      | none =>
        let (negated, first) ← classOpening
        let inner ← classBody fuel none first
        let cls ← finishClass inner.value negated
        classBody fuel pending (items ++ [⟨cls, inner.height + 1⟩])
    else
      match setOperator? rest with
      | some operator =>
        let lhs ← closeSet pending items
        bump
        bump
        classBody fuel (some (operator, lhs)) []
      | none =>
        let item ← itemOrRange
        classBody fuel pending (items ++ [item])

def bracketed : Read (Nested Regex) := do
  let (negated, first) ← classOpening
  let inner ← classBody (← remaining) none first
  let cls ← finishClass inner.value negated
  return ⟨.one cls, inner.height + 1⟩

/-! ## Repetitions -/

def digitsSpaced : Nat → Read (List Char)
  | 0 => pure []
  | fuel + 1 => do
    match ← peek? with
    | some c =>
      if c.isDigit then
        bumpSpaced
        return c :: (← digitsSpaced fuel)
      else return []
    | none => return []

def skipBlanks : Read Unit := modify fun state =>
  { state with rest := state.rest.dropWhile Unicode.isBlank }

def skipBlanksSpaced : Read Unit := do
  skipBlanks
  skipSpaced

def count : Read Nat := do
  skipBlanks
  let digits ← digitsSpaced (← remaining)
  skipBlanksSpaced
  let n := Decimal.ofDigits digits
  demand (digits ≠ [] && n < 0x100000000)
  return n

def bounds : Read (Nat × Option Nat) := do
  bumpSpaced
  let _ ← peek
  let least ← count
  if (← peek) = ',' then
    bumpSpaced
    if (← peek) = '}' then return (least, none)
    else
      let most ← count
      demand ((← peek) = '}' && least ≤ most)
      return (least, some most)
  else
    demand ((← peek) = '}')
    return (least, some least)

def skipLazyMark : Read Unit := do
  if (← peek?) = some '?' then bump

/-! ## Groups and flags -/

def flag (c : Char) (on : Bool) (modes : Modes) : Option Modes :=
  match c with
  | 'i' => some { modes with ignoreCase := on }
  | 'm' => some { modes with multiLine := on }
  | 's' => some { modes with dotAll := on }
  | 'R' => some { modes with crlf := on }
  | 'u' => some { modes with unicode := on }
  | 'x' => some { modes with spaced := on }
  | 'U' => some modes
  | _ => none

/-- Flags up to `:` or `)`. Each stands at most once, and a minus sign needs one after it. -/
def flags : Nat → List Char → Modes → Read (Modes × List Char)
  | 0, _, _ => refuse
  | fuel + 1, seen, modes => do
    let c ← peek
    if c = ':' || c = ')' then
      demand (seen.head? ≠ some '-')
      return (modes, seen)
    else
      demand (!seen.contains c)
      bump
      if c = '-' then flags fuel (c :: seen) modes
      else
        let modes ← accept? (flag c (!seen.contains '-') modes)
        flags fuel (c :: seen) modes

def isGroupNameChar (first : Bool) (c : Char) : Bool :=
  if first then c = '_' || isAlphabetic c
  else c = '_' || c = '.' || c = '[' || c = ']' || Unicode.isAlphanumeric c
where
  isAlphabetic (c : Char) : Bool :=
    if c.toNat < 128 then c.isAlpha else Unicode.Property.alphabetic.set.contains c

def isGroupName : List Char → Bool
  | [] => false
  | c :: rest => isGroupNameChar true c && rest.all (isGroupNameChar false)

def groupName : Read Unit := do
  let rest := (← get).rest
  let name := rest.takeWhile (· != '>')
  let after := rest.dropWhile (· != '>')
  demand (after ≠ [] && isGroupName name)
  let text := String.ofList name
  demand (!(← get).groupNames.contains text)
  modify fun state =>
    { state with rest := after.drop 1, groupNames := text :: state.groupNames }

inductive GroupOpening where
  /-- The modes are set for the rest of the group around. -/
  | flagsOnly
  | body

def startsLookaround (text : List Char) : Bool :=
  ["?=", "?!", "?<=", "?<!"].any fun mark => mark.toList.isPrefixOf text

def groupOpening : Read GroupOpening := do
  bumpSpaced
  demand (!startsLookaround (← get).rest)
  if ← bumpIf "?P<" then
    groupName
    return .body
  else if ← bumpIf "?<" then
    groupName
    return .body
  else if ← bumpIf "?" then
    let (modes, seen) ← flags (← remaining) [] (← modes)
    let close ← peek
    bump
    setModes modes
    if close = ')' then
      demand (seen ≠ [])
      return .flagsOnly
    else return .body
  else return .body

/-! ## Bodies -/

def literal (c : Char) (byte : Bool) : Read Regex := do
  let modes ← modes
  demand (modes.unicode || !(byte && 127 < c.toNat))
  return .one <|
    if !modes.ignoreCase then .single c
    else if modes.unicode then .folded (.single c)
    else if c.isAlpha then .foldedAscii (.single c)
    else .single c

def dot : Read Regex := do
  let modes ← modes
  demand modes.unicode
  return .one <|
    if modes.dotAll then .any
    else if modes.crlf then .complement (.union (.single '\n') (.single '\r'))
    else .complement (.single '\n')

def ofPrimitive : Primitive → Read Regex
  | .literal c byte => literal c byte
  | .dot => dot
  | .assertion condition => pure (.assertion condition)
  | .cls cls => pure (.one cls)

def caret : Read Primitive := do
  let modes ← modes
  return .assertion <|
    if !modes.multiLine then .textStart else if modes.crlf then .lineStartCrLf else .lineStart

def dollar : Read Primitive := do
  let modes ← modes
  return .assertion <|
    if !modes.multiLine then .textEnd else if modes.crlf then .lineEndCrLf else .lineEnd

def primitive : Read (Nested Regex) := do
  let c ← peek
  let part ←
    if c = '\\' then escape
    else do
      bump
      if c = '.' then pure .dot
      else if c = '^' then caret
      else if c = '$' then dollar
      else pure (.literal c false)
  return ⟨← ofPrimitive part, 0⟩

/-- A part of a sequence. Flags are a part that cannot be repeated. -/
inductive Part where
  | flags
  | regex (nested : Nested Regex)

def Part.value : Part → Regex
  | .flags => .empty
  | .regex nested => nested.value

def Part.height : Part → Nat
  | .flags => 0
  | .regex nested => nested.height

/-- The parts stand in reverse order. -/
def sequence (parts : List Part) : Nested Regex :=
  match parts with
  | [] => ⟨.empty, 0⟩
  | [part] => ⟨part.value, part.height⟩
  | last :: earlier =>
    ⟨earlier.foldl (fun rest part => .andThen part.value rest) last.value,
      1 + greatest (parts.map Part.height)⟩

/-- The branches stand in reverse order, and there is at least one. -/
def alternation (last : Nested Regex) (earlier : List (Nested Regex)) : Nested Regex :=
  match earlier with
  | [] => last
  | earlier =>
    ⟨earlier.foldl (fun rest branch => .either branch.value rest) last.value,
      1 + greatest ((last :: earlier).map Nested.height)⟩

def repeatLast (parts : List Part) (least : Nat) (most : Option Nat) : Read (List Part) :=
  match parts with
  | .regex nested :: earlier =>
    pure (.regex ⟨.repeated nested.value least most, nested.height + 1⟩ :: earlier)
  | _ => refuse

def body : Nat → List Part → List (Nested Regex) → Read (Nested Regex)
  | 0, _, _ => refuse
  | fuel + 1, parts, branches => do
    skipSpaced
    match ← peek? with
    | none => return alternation (sequence parts) branches
    | some ')' => return alternation (sequence parts) branches
    | some '|' =>
      bump
      body fuel [] (sequence parts :: branches)
    | some '(' =>
      let outer ← modes
      match ← groupOpening with
      | .flagsOnly => body fuel (.flags :: parts) branches
      | .body =>
        let inner ← body fuel [] []
        demand ((← peek) = ')')
        bump
        setModes outer
        body fuel (.regex ⟨inner.value, inner.height + 1⟩ :: parts) branches
    | some '[' =>
      let nested ← bracketed
      body fuel (.regex nested :: parts) branches
    | some '{' =>
      let (least, most) ← bounds
      bumpSpaced
      skipLazyMark
      body fuel (← repeatLast parts least most) branches
    | some '?' =>
      bump
      skipLazyMark
      body fuel (← repeatLast parts 0 (some 1)) branches
    | some '*' =>
      bump
      skipLazyMark
      body fuel (← repeatLast parts 0 none) branches
    | some '+' =>
      bump
      skipLazyMark
      body fuel (← repeatLast parts 1 none) branches
    | some _ =>
      let nested ← primitive
      body fuel (.regex nested :: parts) branches

def maxHeight : Nat := 250

def whole : Read (Nested Regex) := do
  let nested ← body (← remaining) [] []
  demand ((← peek?) = none)
  return nested

end PatternReader

def Regex.ofText? (pattern : String) : Option Regex :=
  match PatternReader.whole.run ⟨pattern.toList, .initial, []⟩ with
  | none => none
  | some (nested, _) =>
    if nested.height ≤ PatternReader.maxHeight && nested.value.weight ≤ Regex.maxWeight then
      some nested.value
    else none

structure Pattern where
  source : String
  regex : Regex
  written : Regex.ofText? source = some regex

def Pattern.ofText? (source : String) : Option Pattern :=
  match h : Regex.ofText? source with
  | some regex => some ⟨source, regex, h⟩
  | none => none

theorem Pattern.eq_of_source {a b : Pattern} (h : a.source = b.source) : a = b := by
  obtain ⟨s, r, hr⟩ := a
  obtain ⟨t, q, hq⟩ := b
  obtain rfl : s = t := h
  obtain rfl : r = q := Option.some.inj (hr.symm.trans hq)
  rfl

instance : DecidableEq Pattern := fun a b =>
  if h : a.source = b.source then .isTrue (Pattern.eq_of_source h)
  else .isFalse fun same => h (congrArg Pattern.source same)

def Pattern.matchesIn (pattern : Pattern) (text : String) : Bool := pattern.regex.matchesIn text

end RefViewer
