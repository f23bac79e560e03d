import Orchestration.Json.Body
import Orchestration.Json.Display
import Orchestration.Record
import Orchestration.Web.Address

namespace Orchestration.RemoteStore

structure Request where
  method : String
  address : Web.Address
  body : Json

def Request.url (r : Request) : String := String.ofList r.address.text

inductive Reply where
  | answered (status : Nat) (body : List UInt8)
  | unreached (reason : String)
  deriving DecidableEq, Repr

inductive Fault where
  | unreached (server reason : String)
  | loadRefused (id : String) (status : Nat)
  | saveRefused (id : String) (status : Nat)
  | notFound (id : String)
  | conflict (detail : Json)
  -- A conflict whose reply is no object.
  | conflictShape
  | unreadable (fault : Json.ReadFault)
  | rejected (r : Rejection)
  | notDumped (fault : Json.DumpFault)
  | noAddress (fault : Web.AddressFault)
  | notSent (fault : Json.SendFault)
  -- The address has no scheme and no server, so no cookies can be kept for it.
  | relative (url : String)
  deriving Repr

def Fault.message : Fault → String
  | .unreached server reason => "Failed to connect to server at " ++ server ++ ": " ++ reason
  | .loadRefused id status => "Failed to load orchestrator " ++ id ++ ": " ++ toString status
  | .saveRefused id status => "Failed to save orchestrator " ++ id ++ ": " ++ toString status
  | .notFound id => "Orchestrator not found: " ++ id
  | .conflict detail => Json.shown detail
  | .conflictShape => "The reply to a conflict is no object"
  | .unreadable fault => fault.message
  | .rejected r => r.headline
  | .notDumped fault => fault.message
  | .noAddress _ => "This is no address"
  | .notSent fault => fault.message
  | .relative url => "unknown url type: " ++ String.ofList (Json.shownText url)

def unexplained : Json := .str "Orchestrator is not editable"

def usualServer : String := "http://localhost:8000"

def server (baseUrl : String) : String :=
  String.ofList (baseUrl.toList.reverse.dropWhile (· == '/')).reverse

def address (baseUrl id : String) : Except Fault Web.Address :=
  (Web.Address.nowhere.destination (server baseUrl ++ "/api/orchestrators/" ++ id).toList).mapError .noAddress

def loadRequest (baseUrl id : String) : Except Fault Request := do
  return ⟨"GET", ← address baseUrl id, .null⟩

def saveBody (o : Orchestrator) : Json :=
  .obj ([("name", .str o.name), ("description", .str o.description)] ++ o.graph.members)

def saveRequest (baseUrl : String) (o : Orchestrator) : Except Fault Request := do
  match o.dumpFault? with
  | some fault => .error (.notDumped fault)
  | none =>
      let address ← address baseUrl o.id
      match (saveBody o).sendFault? with
      | some fault => .error (.notSent fault)
      | none => return ⟨"PUT", address, saveBody o⟩

def isSuccess (status : Nat) : Bool := 200 ≤ status && status < 300

-- The status and the body of a reply to a request.
def received (baseUrl : String) (request : Request) (reply : Reply) : Except Fault (Nat × List UInt8) :=
  match reply with
  | .unreached reason => .error (.unreached (server baseUrl) reason)
  | .answered status body =>
      if request.address.isAbsolute then .ok (status, body) else .error (.relative request.url)

def readOrchestrator (body : List UInt8) (s : Supply) : Except Fault (Orchestrator × Supply) :=
  match Json.parseBody body with
  | .error fault => .error (.unreadable fault)
  | .ok document =>
      (Decode.load Orchestrator.title (Orchestrator.decode .document document) s).mapError .rejected

def readLoad (baseUrl id : String) (request : Request) (reply : Reply) (s : Supply) :
    Except Fault (Option Orchestrator) := do
  let (status, body) ← received baseUrl request reply
  if status = 404 then return none
  else if isSuccess status then
    let (o, _) ← readOrchestrator body s
    return some o
  else .error (.loadRefused id status)

-- What the server says about a conflict.
def readConflict (body : List UInt8) : Fault :=
  match Json.parseBody body with
  | .error fault => .unreadable fault
  | .ok document =>
      match document.members? with
      | some m => .conflict ((m.find? "detail").getD unexplained)
      | none => .conflictShape

def readSave (baseUrl id : String) (request : Request) (reply : Reply) (s : Supply) :
    Except Fault Orchestrator := do
  let (status, body) ← received baseUrl request reply
  if status = 404 then .error (.notFound id)
  else if status = 409 then .error (readConflict body)
  else if isSuccess status then
    let (o, _) ← readOrchestrator body s
    return o
  else .error (.saveRefused id status)

end Orchestration.RemoteStore
