import RefViewer.Query.Error

/-!
# Failures

What can go wrong outside a single evaluation, with the text that the user sees. A failed
query keeps its place in the text, if it has one.
-/

namespace RefViewer

inductive Failure where
  | load (message : String)
  | query (message : String) (position : Option Query.Position)
  | channel (message : String)
  | render (message : String)
  /-- A filter was asked for while another one had not finished. -/
  | busy
  | settings (message : String)
  deriving DecidableEq, Repr

namespace Failure

def ofQuery (error : Query.Error) : Failure := .query error.message error.position?

def text : Failure → String
  | .load message => "Load error: " ++ message
  | .query message _ => message
  | .channel message => "Channel error: " ++ message
  | .render message => "Render error: " ++ message
  | .busy => "A filter is already in flight"
  | .settings message => "Config error: " ++ message

def isQuery : Failure → Bool
  | .query _ _ => true
  | _ => false

end Failure

end RefViewer
