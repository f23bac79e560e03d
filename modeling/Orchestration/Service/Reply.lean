import Orchestration.Lifecycle

namespace Orchestration

inductive Reply where
  | answer (status : Nat) (body : Json)
  | malformed (complaints : List Complaint)
  | malformedEvent (headline : String)
  -- The request could not be served.
  | failure
  -- A page for people instead of a document.
  | page

namespace Reply

-- A successful reply. Numbers that are not finite are sent as null.
def ok (body : Json) : Reply := .answer 200 body.finiteOnly

def detail (status : Nat) (body : Json) : Reply := .answer status (.obj [("detail", body)])

def refused (status : Nat) (message : String) : Reply := detail status (.str message)

def noOrchestrator (id : String) : Reply := refused 404 ("Orchestrator not found: " ++ id)

def noExecution (id : String) : Reply := refused 404 ("Execution not found: " ++ id)

def noRoute : Reply := refused 404 "Not Found"

def noMethod : Reply := refused 405 "Method Not Allowed"

def status : Reply → Nat
  | .answer status _ => status
  | .malformed _ => 422
  | .malformedEvent _ => 422
  | .failure => 500
  | .page => 200

-- A refused transition: problems of the graph are a fault of what was sent, a copy or a chain
-- that cannot be made is nothing that the client can help, anything else is a conflict with the state.
def ofLifecycle (fault : LifecycleFault) : Reply :=
  match fault with
  | .notCopied => .failure
  | .notCompiled _ => .failure
  | .publishInvalid _ problems =>
      detail 422 (.obj [("message", .str fault.message), ("errors", .arr (problems.map .str))])
  | _ => refused 409 fault.message

-- A stored document that cannot be read is nothing that the client can help.
def ofStored (x : Option α) : Except Reply α :=
  match x with
  | some a => .ok a
  | none => .error .failure

end Reply

-- What a request is served with: the names it may draw, its time, and the catalog.
structure Surroundings where
  supply : Supply
  now : String
  catalog : Catalog

-- Reads the body of a request. One that is not there is missing as a whole. Complaints are sent along with what
-- they are about. It is left out here that the service fails if that holds a number that is not finite or half of a
-- character, and that a body is not read at all if it is nested about a thousand levels deep.
def readBody (decode : Json → Decode α) (body : Json) (s : Supply) : Except Reply (α × Supply) :=
  let d := match body with
    | .null => Decode.complain .missing
    | v => decode v
  match Decode.under (.key "body") d s with
  | .ok read => .ok read
  | .error (.invalid complaints) => .error (.malformed complaints)
  | .error .malformedCases => .error .failure

end Orchestration
