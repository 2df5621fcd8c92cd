import RefViewer.Channel.Link

/-!
# Workers

A worker owns an engine. It takes one request at a time, handles it and sends the response;
it stops when it can no longer send. Its steps are functions on the link that it shares with
the viewer.
-/

namespace RefViewer

structure Worker where
  engine : Engine
  /-- The request that was taken and is not yet answered. -/
  handling : Option Request
  deriving DecidableEq

namespace Worker

def new (cacheCapacity : Nat) : Worker := ⟨.new cacheCapacity, none⟩

def take (worker : Worker) (link : Link) : Worker × Link :=
  match worker.handling, link.take? with
  | none, some (request, link) => ({ worker with handling := some request }, link)
  | _, _ => (worker, link)

/-- Answers the request at hand. A response that cannot be sent is lost. -/
def answer (worker : Worker) (link : Link) : Worker × Link :=
  match worker.handling with
  | none => (worker, link)
  | some request =>
    let (response, engine) := worker.engine.handle request
    (⟨engine, none⟩, (link.answer? response).getD link)

def work (worker : Worker) (link : Link) : Worker × Link :=
  let (worker, link) := worker.take link
  worker.answer link

def workAll (worker : Worker) (link : Link) : Worker × Link :=
  link.requests.foldl (fun (worker, link) _ => worker.work link) (worker, link)

end Worker

end RefViewer
