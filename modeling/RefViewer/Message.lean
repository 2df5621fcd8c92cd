import RefViewer.Engine

/-!
# Messages

What the viewer and its worker say to each other. The worker answers every request with one
response.
-/

namespace RefViewer

inductive Request where
  | init (data : Dataset)
  | filter (query : String)
  deriving DecidableEq, Repr

inductive Response where
  | initComplete
  | filterComplete (results : List Entry)
  | filterError (error : String)
  deriving DecidableEq, Repr

def Engine.handle (engine : Engine) : Request → Response × Engine
  | .init data => (.initComplete, engine.load data)
  | .filter query =>
    match engine.filter query with
    | (.ok results, engine) => (.filterComplete results, engine)
    | (.error failure, engine) => (.filterError failure.text, engine)

end RefViewer
