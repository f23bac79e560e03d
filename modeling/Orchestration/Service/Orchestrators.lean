import Orchestration.InPlace
import Orchestration.Service.Reply
import Orchestration.Service.Tables

namespace Orchestration.Service

-- What is done for a request. Every write to the tables is there to stay, whatever becomes of the
-- request after it.
abbrev Work (α : Type) : Type := InPlace Tables Reply α

-- What a request needs that no table holds.
def given (x : Except Reply α) : Work α := .read fun _ => x

-- The reply to a request, served or refused, and the tables that it leaves.
def answer (work : Work Reply) (t : Tables) : Reply × Tables :=
  match work t with
  | (.ok reply, u) => (reply, u)
  | (.error reply, u) => (reply, u)

def find (t : Tables) (id : String) (s : Supply) : Except Reply (Orchestrator × Supply) :=
  match t.record? id with
  | none => .error (.noOrchestrator id)
  | some row => Reply.ofStored (Tables.read? (Orchestrator.decode .document) row.document s)

def findEditable (t : Tables) (id : String) (s : Supply) : Except Reply (Orchestrator × Supply) := do
  let (o, s) ← find t id s
  o.ensureEditable.mapError .ofLifecycle
  return (o, s)

def replyOf (x : Except Reply Reply) : Reply :=
  match x with
  | .ok reply => reply
  | .error reply => reply

def store (o : Orchestrator) : Work Unit :=
  .attempt fun t => (t.putRecord o).mapError fun _ => .failure

def storeAndReply (o : Orchestrator) : Work Reply := do
  store o
  return .ok o.encode

def storeVersion (v : Version) : Work Unit :=
  .attempt fun t =>
    match t.addVersion v with
    | some u => .ok u
    | none => .error .failure

structure CreateBody where
  graph : Graph
  name : String
  description : String

def CreateBody.decode (v : Json) : Decode CreateBody :=
  Decode.record .request v fun m =>
    CreateBody.mk <$> Graph.readMembers .request m
      <*> Decode.required m (.same "name") Decode.text
      <*> Decode.field m (.same "description") (pure "") Decode.text

def create (c : Surroundings) (body : Json) (t : Tables) : Reply × Tables :=
  answer (do
    let (request, s) ← given (readBody CreateBody.decode body c.supply)
    let (id, _) := s.draw
    storeAndReply
      { Orchestrator.draft id request.name request.graph with
        description := request.description
        createdAt := some c.now
        updatedAt := some c.now }.relabel) t

structure SaveBody where
  graph : Graph
  name : Option String
  description : Option String

def SaveBody.decode (v : Json) : Decode SaveBody :=
  Decode.record .request v fun m =>
    SaveBody.mk <$> Graph.readMembers .request m
      <*> Decode.field m (.same "name") (pure none) (Decode.optional Decode.text)
      <*> Decode.field m (.same "description") (pure none) (Decode.optional Decode.text)

-- A draft with another graph, labeled afresh, and with another name or description if one
-- is given.
def replaced (o : Orchestrator) (graph : Graph) (name description : Option String) (now : String) :
    Orchestrator :=
  { o with
    graph := graph
    name := name.getD o.name
    description := description.getD o.description
    updatedAt := some now }.relabel

def save (c : Surroundings) (id : String) (body : Json) (t : Tables) : Reply × Tables :=
  answer (do
    let (request, s) ← given (readBody SaveBody.decode body c.supply)
    let (o, _) ← .read (findEditable · id s)
    storeAndReply (replaced o request.graph request.name request.description c.now)) t

-- Replaces the graph of a draft by one that is rebuilt from a chain.
def importChain (c : Surroundings) (id : String) (body : Json) (t : Tables) : Reply × Tables :=
  answer (do
    let (chain, s) ← given (readBody (Chain.decode .request) body c.supply)
    let (o, s) ← .read (findEditable · id s)
    let (graph, _) ← given ((chain.toGraph s).value.mapError fun _ => .failure)
    storeAndReply
      (replaced o graph (if chain.name = "" then none else some chain.name) none c.now)) t

def publish (c : Surroundings) (id : String) (t : Tables) : Reply × Tables :=
  answer (do
    let (o, _) ← .read (find · id c.supply)
    let number ← .read fun t => .ok (t.nextVersion id)
    let p ← given ((o.publish number (some c.catalog) c.now).value.mapError .ofLifecycle)
    storeVersion p.version
    store p.orchestrator
    return .ok (.obj [("orchestrator", p.orchestrator.encode), ("version", p.version.encode)])) t

def unpublish (c : Surroundings) (id : String) (t : Tables) : Reply × Tables :=
  answer (do
    let (o, _) ← .read (find · id c.supply)
    let o ← given ((o.unpublish c.now).value.mapError .ofLifecycle)
    storeAndReply o) t

def archive (c : Surroundings) (id : String) (t : Tables) : Reply × Tables :=
  answer (do
    let (o, _) ← .read (find · id c.supply)
    let o ← given ((o.archive c.now).value.mapError .ofLifecycle)
    storeAndReply o) t

def delete (c : Surroundings) (id : String) (t : Tables) : Reply × Tables :=
  answer (do
    let _ ← .read (find · id c.supply)
    .write (·.dropRecord id)
    .write (·.dropExecutions id)
    return .ok (.obj [("deleted", .str id)])) t

def list (c : Surroundings) (status : Option Status) (t : Tables) : Reply :=
  replyOf do
    let (os, _) ← Reply.ofStored (Tables.readAll? (Orchestrator.decode .document) c.supply
      ((t.recordsWith status).map RecordRow.document))
    return .ok (.arr (os.map Orchestrator.encode))

def get (c : Surroundings) (id : String) (t : Tables) : Reply :=
  replyOf do
    let (o, _) ← find t id c.supply
    return .ok o.encode

def validation (c : Surroundings) (id : String) (t : Tables) : Reply :=
  replyOf do
    let (o, _) ← find t id c.supply
    let issues := o.graph.issues (some c.catalog)
    return .ok (.obj [("errors", .arr (issues.map fun i => .str i.message)),
      ("issues", .arr (issues.map Issue.encode)), ("can_publish", .bool issues.isEmpty)])

def labels (c : Surroundings) (id : String) (t : Tables) : Reply :=
  replyOf do
    let (o, _) ← find t id c.supply
    return .ok (.obj (o.graph.displayIds.map fun (id, label) => (id, .ofText? label)))

def exportChain (c : Surroundings) (id : String) (t : Tables) : Reply :=
  replyOf do
    let (o, _) ← find t id c.supply
    match (o.toChain none).value with
    | .error _ => return .failure
    | .ok chain =>
        return .ok (.obj [("chain", chain.encode),
          ("discarded_edges", .arr (o.graph.discarded.map fun e => .str e.id))])

def versions (c : Surroundings) (id : String) (t : Tables) : Reply :=
  replyOf do
    let (_, s) ← find t id c.supply
    let (vs, _) ← Reply.ofStored (Tables.readAll? (Version.decode .document) s
      ((t.versionsOf id).map VersionRow.document))
    return .ok (.arr (vs.map Version.encode))

end Orchestration.Service
