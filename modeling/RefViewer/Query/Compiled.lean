import RefViewer.Query.Grammar
import RefViewer.Query.Resolve
import RefViewer.Query.Size

/-!
# Compiled queries

A query is checked for its size, read, and resolved, in this order. Blank text is a query
too: it holds of every item.
-/

namespace RefViewer.Query

def parse (text : String) : Except Error Expr := do
  Size.check text
  (← Grammar.parse text).resolve

structure Compiled where
  source : String
  expr : Option Expr
  deriving DecidableEq

namespace Compiled

def ofTrimmed (source : String) : Except Error Compiled :=
  if source = "" then .ok ⟨source, none⟩
  else (parse source).map fun expr => ⟨source, some expr⟩

/-- Blanks around the query do not count, also not for positions in it. -/
def ofText (text : String) : Except Error Compiled := ofTrimmed (Unicode.trim text)

def holdsEverywhere (query : Compiled) : Bool := query.expr.isNone

def holds (query : Compiled) (item : Record) : Except Error Bool :=
  match query.expr with
  | none => .ok true
  | some expr => (expr.eval item).map Value.truthy

end Compiled

end RefViewer.Query
