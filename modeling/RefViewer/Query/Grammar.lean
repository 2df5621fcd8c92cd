import RefViewer.Query.Reader
import RefViewer.Query.Precedence

/-!
# Query grammar

An expression is a row of operands joined by operators. An operand is a group in parentheses,
a literal or a name, with signs before it and calls and properties after it. Every reader
here also takes the gap that follows.
-/

namespace RefViewer.Query.Grammar

def isNameStart (c : Char) : Bool := c.isAlpha || c = '_'

def isNameChar (c : Char) : Bool := c.isAlphanum || c = '_'

def takeWord (word : String) (text : List Char) : Option (Unit × List Char) :=
  let rest := text.drop word.length
  if word.toList.isPrefixOf text && !(rest.head?.any isNameChar) then some ((), rest) else none

def takeKeyword (word : String) (text : List Char) : Option (Unit × List Char) :=
  let rest := text.drop word.length
  if (text.take word.length).map Char.toLower = word.toList && !(rest.head?.any isNameChar) then
    some ((), rest)
  else none

def takeEither (first second : List Char → Option (Unit × List Char)) (text : List Char) :
    Option (Unit × List Char) :=
  match first text with
  | some taken => some taken
  | none => second text

/-- An exclamation mark that does not begin an inequality. -/
def takeBang : List Char → Option (Unit × List Char)
  | '!' :: '=' :: _ => none
  | '!' :: rest => some ((), rest)
  | _ => none

def takeName : List Char → Option (String × List Char)
  | [] => none
  | c :: rest =>
    if isNameStart c then
      some (.ofList (c :: rest.takeWhile isNameChar), rest.dropWhile isNameChar)
    else none

def takeFraction : List Char → List Char × List Char
  | '.' :: c :: rest =>
    if c.isDigit then ('.' :: c :: rest.takeWhile Char.isDigit, rest.dropWhile Char.isDigit)
    else ([], '.' :: c :: rest)
  | text => ([], text)

def takeUnsigned (text : List Char) : Option (List Char × List Char) :=
  let whole := text.takeWhile Char.isDigit
  if whole = [] then none
  else
    let (fraction, rest) := takeFraction (text.dropWhile Char.isDigit)
    some (whole ++ fraction, rest)

def takeNumber : List Char → Option (List Char × List Char)
  | '-' :: rest => (takeUnsigned rest).map fun (digits, rest) => ('-' :: digits, rest)
  | text => takeUnsigned text

def takeQuoted (quote : Char) : List Char → Option (List Char × List Char)
  | [] => none
  | '\\' :: c :: rest =>
    (takeQuoted quote rest).map fun (inner, rest) => ('\\' :: c :: inner, rest)
  | c :: rest =>
    if c = quote then some ([], rest)
    else if c = '\\' then none
    else (takeQuoted quote rest).map fun (inner, rest) => (c :: inner, rest)

def takeString : List Char → Option (List Char × List Char)
  | '"' :: rest => takeQuoted '"' rest
  | '\'' :: rest => takeQuoted '\'' rest
  | _ => none

def token (rule : Rule) (take : List Char → Option (α × List Char)) : Reader α :=
  .named rule (.lexeme take)

def operatorAs (operator : Operator) (rule : Rule)
    (take : List Char → Option (Unit × List Char)) : Reader Operator := do
  token rule take
  pure operator

def takeSymbol (text : String) : List Char → Option (Unit × List Char) :=
  Reader.takeText text.toList

def operator : Reader Operator :=
  .firstOf [
    operatorAs .or .or (takeEither (takeSymbol "||") (takeKeyword "or")),
    operatorAs .and .and (takeEither (takeSymbol "&&") (takeKeyword "and")),
    operatorAs .eq .eq (takeEither (takeSymbol "===") (takeSymbol "==")),
    operatorAs .ne .ne (takeEither (takeSymbol "!==") (takeSymbol "!=")),
    operatorAs .le .le (takeSymbol "<="),
    operatorAs .ge .ge (takeSymbol ">="),
    operatorAs .lt .lt (takeSymbol "<"),
    operatorAs .gt .gt (takeSymbol ">"),
    operatorAs .contains .contains (takeKeyword "contains"),
    operatorAs .startsWith .startsWith (takeKeyword "startswith"),
    operatorAs .endsWith .endsWith (takeKeyword "endswith"),
    operatorAs .matches .matches (takeKeyword "matches")]

def sign : Reader Sign :=
  .or (do token .bang takeBang; pure .bang) (do token .not (takeKeyword "not"); pure .not)

def ident : Reader String := token .ident takeName

inductive Suffix where
  | call (method : String) (arguments : List Term)
  | property (name : String)

def Suffix.apply (receiver : Term) : Suffix → Term
  | .call method arguments => .call receiver method arguments
  | .property name => .property receiver name

/-! The next readers read the expressions inside them with `inner`. -/

section

variable (inner : Reader Term)

def arguments : Reader (List Term) :=
  .or
    (do
      let first ← inner
      let rest ← Reader.many do Reader.symbol ","; inner
      pure (first :: rest))
    (pure [])

def call : Reader Suffix :=
  .named .call do
    Reader.symbol "."
    let method ← ident
    Reader.symbol "("
    let given ← arguments inner
    Reader.symbol ")"
    pure (.call method given)

def property : Reader Suffix :=
  .named .property do
    Reader.symbol "."
    let name ← ident
    Reader.notBefore '('
    pure (.property name)

def grouped : Reader Term := do
  Reader.symbol "("
  let term ← inner
  Reader.symbol ")"
  pure (.group term)

def primary : Reader Term :=
  .firstOf [
    grouped inner,
    Term.number <$> token .number takeNumber,
    Term.string <$> token .string takeString,
    token .boolean fun text =>
      match takeWord "true" text with
      | some (_, rest) => some (.boolean true, rest)
      | none => (takeWord "false" text).map fun (_, rest) => (.boolean false, rest),
    do token .null (takeWord "null"); pure .null,
    Term.name <$> ident]

def operandWithSigns : Reader Operand := do
  let signs ← Reader.many sign
  let first ← primary inner
  let suffixes ← Reader.many (.or (call inner) property)
  pure ⟨signs, suffixes.foldl Suffix.apply first⟩

def link : Reader Link := do
  let operator ← operator
  let operand ← operandWithSigns inner
  pure ⟨operator, operand⟩

def row : Reader Term :=
  .named .expr do
    let first ← operandWithSigns inner
    let links ← Reader.many (link inner)
    pure (Precedence.group first links)

end

def expr : Nat → Reader Term
  | 0 => .fail
  | depth + 1 => row (expr depth)

def endOfInput : Reader Unit :=
  .named .endOfInput fun text => ⟨if text = [] then some ((), []) else none, .none⟩

/-- Each nested expression stands behind a parenthesis of its own. -/
def query : Reader Term := fun text =>
  Reader.read (do
    Reader.skipGap
    let term ← expr (text.length + 1)
    endOfInput
    pure term) text

def positionAfter (before : List Char) : Position :=
  before.foldl
    (fun position c =>
      if c = '\n' then ⟨position.line + 1, 1⟩ else ⟨position.line, position.column + 1⟩)
    ⟨1, 1⟩

def syntaxError (text : List Char) (misses : Misses) : Error :=
  .syntaxAt (positionAfter (text.take (text.length - misses.left))) (Rule.sorted misses.rules)

def parse (text : String) : Except Error Term :=
  match query text.toList with
  | ⟨some (term, _), _⟩ => .ok term
  | ⟨none, misses⟩ => .error (syntaxError text.toList misses)

end RefViewer.Query.Grammar
