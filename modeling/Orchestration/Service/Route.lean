import Orchestration.Service.Executions
import Orchestration.Web.Address
import Orchestration.Web.Query

namespace Orchestration.Service

-- A path is a list of names between slashes. One with slashes at its end that is not known is sought again without
-- them.
structure Request where
  method : String
  address : Web.Address
  -- Null if there is none.
  body : Json

-- The request for an address as it is seen from the place of the service. Named values, if
-- given, take the place of the query of the address.
def Request.read (place : Web.Address) (method : String) (target : String)
    (query : Option (List (String × String))) (body : Json) : Except Web.AddressFault Request := do
  let address ← place.destination target.toList
  match query with
  | none => return ⟨method, address, body⟩
  | some [] => return ⟨method, { address with query := none }, body⟩
  | some fields =>
      if fields.any fun (name, value) => Text.hasHalf name || Text.hasHalf value then .error .broken
      else return ⟨method, { address with query := some (Web.writeQuery fields) }, body⟩

-- The path with everything put back, which is done twice: on the way and here.
def Request.path (r : Request) : List Char :=
  Web.plain (Web.plain (if r.address.path.isEmpty then ['/'] else r.address.path))

-- The named values of the query. Of values with one name the last counts.
def Request.query (r : Request) : Keyed String :=
  Keyed.ofList (Web.readQuery (r.address.query.getD []))

-- What is served under a path. An orchestrator or an execution is named by its id.
inductive Endpoint where
  | home
  | orchestrators
  | orchestrator (id : String)
  | validation (id : String)
  | labels (id : String)
  | chain (id : String)
  | publish (id : String)
  | unpublish (id : String)
  | archive (id : String)
  | versions (id : String)
  | summary (id : String)
  | trigger
  | executions
  | execution (id : String)
  | events (id : String)
  | journeys
  | description
  deriving DecidableEq, Repr

def ofOrchestrator (id : String) : List String → Option Endpoint
  | [] => some (.orchestrator id)
  | ["validation"] => some (.validation id)
  | ["labels"] => some (.labels id)
  | ["chain"] => some (.chain id)
  | ["publish"] => some (.publish id)
  | ["unpublish"] => some (.unpublish id)
  | ["archive"] => some (.archive id)
  | ["versions"] => some (.versions id)
  | ["executions", "summary"] => some (.summary id)
  | _ => none

def ofExecution (id : String) : List String → Option Endpoint
  | [] => some (.execution id)
  | ["events"] => some (.events id)
  | _ => none

def ofSteps : List String → Option Endpoint
  | ["", ""] => some .home
  | ["", "api", "orchestrators"] => some .orchestrators
  | "" :: "api" :: "orchestrators" :: id :: rest => if id = "" then none else ofOrchestrator id rest
  | ["", "api", "trigger"] => some .trigger
  | ["", "api", "executions"] => some .executions
  | "" :: "api" :: "executions" :: id :: rest => if id = "" then none else ofExecution id rest
  | ["", "api", "journeys"] => some .journeys
  | ["", "docs"] => some .description
  | ["", "docs", "oauth2-redirect"] => some .description
  | ["", "redoc"] => some .description
  | ["", "openapi.json"] => some .description
  | _ => none

def ofPath (path : List Char) : Option Endpoint :=
  ofSteps ((Text.pieces (· == '/') path).map fun step => String.ofList (Text.spellChars step))

-- What is served under a path. A line break at its end makes no difference.
def endpoint? (path : List Char) : Option Endpoint :=
  match ofPath path with
  | some endpoint => some endpoint
  | none => if path.getLast? == some '\n' then ofPath path.dropLast else none

def queryValue (r : Request) (name : String) (absent : α) (read : Json → Decode α) : Decode α :=
  match r.query.find? name with
  | some v => Decode.under (.key "query") (Decode.under (.key name) (read (.str v)))
  | none => pure absent

def malformedOr (d : Decode α) (s : Supply) (f : α → Reply) : Reply :=
  match d s with
  | .ok (a, _) => f a
  | .error (.invalid complaints) => .malformed complaints
  | .error .malformedCases => .failure

def home : Reply :=
  .ok (.obj [("status", .str "ok"), ("version", .str "0.1.0"),
    ("endpoints", .obj [("orchestrators", .str "/api/orchestrators"), ("trigger", .str "/api/trigger"),
      ("executions", .str "/api/executions"), ("journeys", .str "/api/journeys")])])

def listRequested (c : Surroundings) (r : Request) (t : Tables) : Reply :=
  malformedOr (queryValue r "status" none (Decode.choice fun tag => (Status.ofTag? tag).map some))
    c.supply fun status => list c status t

def executionsRequested (c : Surroundings) (r : Request) (t : Tables) : Reply :=
  let d := (fun (id : Option String) (limit offset : Int) => (id, limit, offset))
    <$> queryValue r "orchestrator_id" none (fun v => some <$> Decode.text v)
    <*> queryValue r "limit" 100 Decode.integer
    <*> queryValue r "offset" 0 Decode.integer
  malformedOr d c.supply fun (id, limit, offset) => listExecutions c id limit offset t

def write? (c : Surroundings) (r : Request) (endpoint : Endpoint) (t : Tables) : Option (Reply × Tables) :=
  match r.method, endpoint with
  | "POST", .orchestrators => some (create c r.body t)
  | "PUT", .orchestrator id => some (save c id r.body t)
  | "DELETE", .orchestrator id => some (delete c id t)
  | "PUT", .chain id => some (importChain c id r.body t)
  | "POST", .publish id => some (publish c id t)
  | "POST", .unpublish id => some (unpublish c id t)
  | "POST", .archive id => some (archive c id t)
  | "POST", .trigger => some (trigger c r.body t)
  | "POST", .events id => some (ingest c id r.body t)
  | _, _ => none

def read? (c : Surroundings) (r : Request) (endpoint : Endpoint) (t : Tables) : Option Reply :=
  if r.method ≠ "GET" then none
  else match endpoint with
    | .home => some home
    | .orchestrators => some (listRequested c r t)
    | .orchestrator id => some (get c id t)
    | .validation id => some (validation c id t)
    | .labels id => some (labels c id t)
    | .chain id => some (exportChain c id t)
    | .versions id => some (versions c id t)
    | .summary id => some (executionSummary c id t)
    | .executions => some (executionsRequested c r t)
    | .execution id => some (getExecution c id t)
    | .events id => some (getEvents c id t)
    | .journeys => some (.ok (.arr (c.catalog.journeys.map Journey.encode)))
    | .description => some .page
    | _ => none

def serve (c : Surroundings) (r : Request) (endpoint : Endpoint) (t : Tables) : Reply × Tables :=
  match write? c r endpoint t with
  | some done => done
  | none =>
      match read? c r endpoint t with
      | some reply => (reply, t)
      | none => (.noMethod, t)

-- What a text to which a client is sent on may hold besides the unreserved characters.
def isForwardSafe (c : Char) : Bool :=
  Web.isUnreserved c || [':', '/', '%', '#', '?', '=', '@', '[', ']', '!', '$', '&', '\x27', '(', ')', '*', '+',
    ',', ';'].contains c

-- The request without the slashes at the end of its path, if that path is known.
def Request.forwarded? (r : Request) : Option Request :=
  let path := (r.path.reverse.dropWhile (· == '/')).reverse
  if path != r.path && (endpoint? path).isSome then
    let query := match r.address.query with
      | some (c :: rest) => '?' :: c :: rest
      | _ => []
    let target := r.address.scheme ++ [':', '/', '/'] ++ r.address.server ++ path ++ query
    match r.address.destination (target.flatMap fun c => if isForwardSafe c then [c] else Web.escape c) with
    | .ok address => some { r with address := address }
    | .error _ => none
  else none

-- Serves a request that may be forwarded so many times.
def handleWithin (c : Surroundings) (t : Tables) : Nat → Request → Reply × Tables
  | 0, _ => (.noRoute, t)
  | times + 1, r =>
      match endpoint? r.path with
      | some endpoint => serve c r endpoint t
      | none =>
          match r.forwarded? with
          | some r => handleWithin c t times r
          | none => (.noRoute, t)

-- Serves a request. Each time it is forwarded its path is shorter.
def handle (c : Surroundings) (r : Request) (t : Tables) : Reply × Tables :=
  handleWithin c t (r.path.length + 1) r

end Orchestration.Service
