import RefViewer.Proofs.Query.Grouping
import RefViewer.Proofs.Query.Tokens

/-!
# Writing terms

A term is written with one blank on either side of an operator and after `not` and a comma.
What makes it writable is told by the grammar alone: its names are not taken for keywords, its
numbers and strings are tokens, and every part binds as tight as its place asks.
-/

namespace RefViewer.Query

open Grammar (Quote Escaped NumberToken isName Spells)

structure Spelling where
  quote : Quote
  operator : Operator → String
  known : ∀ op, Spells op (operator op)

def signText : Sign → List Char
  | .bang => ['!']
  | .not => ['n', 'o', 't', ' ']

def separator : List Term → List Char
  | [] => []
  | _ => [',', ' ']

namespace Term

mutual

def write (s : Spelling) : Term → List Char
  | .null => "null".toList
  | .boolean true => "true".toList
  | .boolean false => "false".toList
  | .number digits => digits
  | .string quoted => s.quote.char :: (quoted ++ [s.quote.char])
  | .name ident => ident.toList
  | .group inner => '(' :: (inner.write s ++ [')'])
  | .call receiver method arguments =>
    receiver.write s ++ '.' :: (method.toList ++ '(' :: (writeAll s arguments ++ [')']))
  | .property receiver wanted => receiver.write s ++ '.' :: wanted.toList
  | .signed sign operand => signText sign ++ operand.write s
  | .binary op lhs rhs => lhs.write s ++ ' ' :: ((s.operator op).toList ++ ' ' :: rhs.write s)

def writeAll (s : Spelling) : List Term → List Char
  | [] => []
  | first :: more => first.write s ++ (separator more ++ writeAll s more)

end

def reserved (ident : String) : Bool :=
  ident ∈ ["true", "false", "null"] || ident.toList.map Char.toLower = "not".toList

inductive Writable (quote : Quote) : Term → Prop
  | null : Writable quote .null
  | boolean (b : Bool) : Writable quote (.boolean b)
  | number (token : NumberToken digits) : Writable quote (.number digits)
  | string (escaped : Escaped quote quoted) : Writable quote (.string quoted)
  | name {ident : String} (valid : isName ident.toList = true) (free : reserved ident = false) :
      Writable quote (.name ident)
  | group (inner : Writable quote term) : Writable quote (.group term)
  | call (receiver : Writable quote term) (tight : term.level = closest)
      (valid : isName method.toList = true) (arguments : ∀ a ∈ given, Writable quote a) :
      Writable quote (.call term method given)
  | property (receiver : Writable quote term) (tight : term.level = closest)
      (valid : isName wanted.toList = true) : Writable quote (.property term wanted)
  | signed (inner : Writable quote operand) (tight : sign.level ≤ operand.level) :
      Writable quote (.signed sign operand)
  | binary (left : Writable quote lhs) (right : Writable quote rhs)
      (tight : operator.level ≤ lhs.level) (tighter : operator.level < rhs.level) :
      Writable quote (.binary operator lhs rhs)

theorem Writable.grouped (writable : Writable quote term) : Grouped term := by
  induction writable with
  | signed _ tight ih => exact .signed ih tight
  | binary _ _ tight tighter ihl ihr => exact .binary ihl ihr tight tighter
  | _ => exact .leaf rfl

-- ---------------------------------------------------------------------------
-- The text of a row
-- ---------------------------------------------------------------------------

def operandText (s : Spelling) (operand : Operand) : List Char :=
  operand.signs.flatMap signText ++ operand.term.write s

def linksText (s : Spelling) : List Link → List Char
  | [] => []
  | link :: links =>
    ' ' :: ((s.operator link.operator).toList ++ ' ' ::
      (operandText s link.operand ++ linksText s links))

theorem linksText_append (s : Spelling) (before after : List Link) :
    linksText s (before ++ after) = linksText s before ++ linksText s after := by
  induction before with
  | nil => rfl
  | cons link before ih =>
    simp only [List.cons_append, linksText, ih, List.append_assoc]

theorem Grouped.write_row (s : Spelling) (grouped : Grouped term) :
    term.write s = operandText s term.firstOperand ++ linksText s term.links := by
  induction grouped with
  | leaf tight =>
    simp only [firstOperand_leaf tight, links_leaf tight, operandText, linksText,
      List.flatMap_nil, List.nil_append, List.append_nil]
  | signed _ _ ih =>
    simp only [write, firstOperand, links, operandText, List.flatMap_cons, ih, List.append_assoc]
  | binary _ _ _ _ ihl ihr =>
    simp only [write, firstOperand, links, linksText_append, linksText, ihl, ihr,
      List.append_assoc]

/-- An operand of a row that is written in at most `length` characters. -/
structure Ready (s : Spelling) (length : Nat) (operand : Operand) : Prop where
  writable : Writable s.quote operand.term
  tight : operand.term.level = closest
  short : (operand.term.write s).length ≤ length

theorem Ready.leaf {s : Spelling} (writable : Writable s.quote term)
    (tight : term.level = closest) (short : (term.write s).length ≤ length) :
    Ready s length term.firstOperand ∧ ∀ link ∈ term.links, Ready s length link.operand := by
  rw [firstOperand_leaf tight, links_leaf tight]
  refine ⟨⟨writable, tight, short⟩, ?_⟩
  intro link hl
  exact absurd hl List.not_mem_nil

theorem Writable.ready_row {s : Spelling} (writable : Writable s.quote term)
    (short : (term.write s).length ≤ length) :
    Ready s length term.firstOperand ∧ ∀ link ∈ term.links, Ready s length link.operand := by
  have grouped := writable.grouped
  induction grouped with
  | leaf tight => exact Ready.leaf writable tight short
  | signed _ tight ih =>
    cases writable with
    | signed inner _ =>
      simp only [write, List.length_append] at short
      obtain ⟨first, others⟩ := ih inner (by omega)
      exact ⟨⟨first.writable, first.tight, first.short⟩, others⟩
  | binary _ _ tight tighter ihl ihr =>
    cases writable with
    | binary left right _ _ =>
      simp only [write, List.length_append, List.length_cons] at short
      obtain ⟨first, others⟩ := ihl left (by omega)
      obtain ⟨second, more⟩ := ihr right (by omega)
      refine ⟨first, fun link hl => ?_⟩
      rcases List.mem_append.mp hl with hl | hl
      · exact others link hl
      · rcases List.mem_cons.mp hl with rfl | hl
        · exact second
        · exact more link hl

end Term

end RefViewer.Query
