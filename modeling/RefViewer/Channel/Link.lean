import RefViewer.Message

/-!
# Links

Two queues between a viewer and its worker, first in, first out. The worker can let go of
either end. Requests that it has not taken are lost with its end; responses that it has sent
are still delivered.
-/

namespace RefViewer

structure Link where
  requests : List Request
  /-- Whether the worker still takes requests. -/
  requestsOpen : Bool
  responses : List Response
  /-- Whether the worker can still send responses. -/
  responsesOpen : Bool
  deriving DecidableEq, Repr

inductive Received where
  | response (response : Response) (link : Link)
  | nothing
  | closed

namespace Link

def new : Link := ⟨[], true, [], true⟩

def send? (link : Link) (request : Request) : Option Link :=
  if link.requestsOpen then some { link with requests := link.requests ++ [request] } else none

def receive (link : Link) : Received :=
  match link.responses with
  | response :: rest => .response response { link with responses := rest }
  | [] => if link.responsesOpen then .nothing else .closed

def take? (link : Link) : Option (Request × Link) :=
  match link.requests with
  | request :: rest => some (request, { link with requests := rest })
  | [] => none

def answer? (link : Link) (response : Response) : Option Link :=
  if link.responsesOpen then some { link with responses := link.responses ++ [response] }
  else none

def closeRequests (link : Link) : Link := { link with requests := [], requestsOpen := false }

def closeResponses (link : Link) : Link := { link with responsesOpen := false }

end Link

end RefViewer
