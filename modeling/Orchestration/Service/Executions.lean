import Orchestration.Execution.Summary
import Orchestration.Service.Orchestrators

namespace Orchestration.Service

structure TriggerBody where
  orchestratorId : String
  payload : Members

def TriggerBody.decode (v : Json) : Decode TriggerBody :=
  Decode.record .request v fun m =>
    TriggerBody.mk <$> Decode.required m (.same "orchestrator_id") Decode.text
      <*> Decode.field m (.same "payload") (pure []) Decode.object

-- The latest version of an orchestrator.
def latest (t : Tables) (id : String) (s : Supply) : Except Reply (Version × Supply) :=
  match t.latestVersion? id with
  | none => .error (.refused 409 ("Orchestrator " ++ id ++ " has no published version"))
  | some row => Reply.ofStored (Tables.read? (Version.decode .document) row.document s)

def trigger (c : Surroundings) (body : Json) (t : Tables) : Reply × Tables :=
  answer (do
    let (request, s) ← given (readBody TriggerBody.decode body c.supply)
    let (o, s) ← .read (find · request.orchestratorId s)
    given (o.ensureTriggerable.mapError .ofLifecycle)
    let (version, s) ← .read (latest · o.id s)
    let (id, _) := s.draw
    let execution : Execution := ⟨id, o.id, version.number, .pending, c.now, none⟩
    .write (·.putExecution execution)
    return .ok execution.encode) t

def findExecution (t : Tables) (id : String) (s : Supply) : Except Reply (Execution × Supply) :=
  match t.execution? id with
  | none => .error (.noExecution id)
  | some row => Reply.ofStored (Tables.read? (Execution.decode .document) row.document s)

def getExecution (c : Surroundings) (id : String) (t : Tables) : Reply :=
  replyOf do
    let (e, _) ← findExecution t id c.supply
    return .ok e.encode

-- Row counts are kept in words of 64 bits.
def isCount (n : Int) : Bool := -(Decode.integerLimit : Int) ≤ n && n < Decode.integerLimit

-- A page of a list. A negative limit is none, and a negative offset is zero.
def page (limit offset : Int) (xs : List α) : List α :=
  let rest := xs.drop offset.toNat
  if limit < 0 then rest else rest.take limit.toNat

-- Executions, the newest first. The empty id stands for all orchestrators.
def listExecutions (c : Surroundings) (orchestratorId : Option String) (limit offset : Int)
    (t : Tables) : Reply :=
  if !isCount limit || !isCount offset then .failure
  else
    let rows := t.executionsOf (if orchestratorId = some "" then none else orchestratorId)
    replyOf do
      let (es, _) ← Reply.ofStored (Tables.readAll? (Execution.decode .document) c.supply
        ((page limit offset rows).map ExecutionRow.document))
      return .ok (.arr (es.map Execution.encode))

def getEvents (c : Surroundings) (id : String) (t : Tables) : Reply :=
  replyOf do
    let (_, s) ← findExecution t id c.supply
    let (es, _) ← Reply.ofStored (Tables.readAll? (Event.decode .document) s
      ((t.eventsOf id).map EventRow.document))
    return .ok (.arr (es.map Event.encode))

structure IngestBody where
  events : List Members
  status : Option ExecutionStatus

def IngestBody.decode (v : Json) : Decode IngestBody :=
  Decode.record .request v fun m =>
    IngestBody.mk <$> Decode.required m (.same "events") (Decode.list Decode.object)
      <*> Decode.field m (.same "status") (pure none)
        (Decode.optional (Decode.choice ExecutionStatus.ofTag?))

-- The execution that a reported event names, under either spelling.
def reportedExecution (m : Members) : Json :=
  (m.find? "executionId").getD ((m.find? "execution_id").getD .null)

-- Whether a reported id is that of an execution, or none.
def isOf (reported : Json) (executionId : String) : Bool :=
  match reported with
  | .null => true
  | .str s => s == executionId
  | _ => false

-- A reported event with an id and a timestamp, filed under its execution.
def filed (m : Members) (freshId now executionId : String) : Members :=
  let filled := Keyed.update [("id", .str freshId), ("timestamp", .str now)] m
  (filled.erase "execution_id").insert "executionId" (.str executionId)

-- Reads reported events in order, each with a fresh id at hand. The first one that belongs
-- elsewhere or is malformed ends the reading.
def readEvents (executionId now : String) (s : Supply) : List Members →
    Except Reply (List Event × Supply)
  | [] => .ok ([], s)
  | m :: rest => do
      let (freshId, s) := s.draw
      if !isOf (reportedExecution m) executionId then
        .error (.refused 400 "execution_id mismatch between path and event payload")
      else
        match Decode.load Event.title
            (Event.decode .document (.obj (filed m freshId now executionId))) s with
        | .error r => .error (.malformedEvent r.headline)
        | .ok (e, s) =>
            let (es, s) ← readEvents executionId now s rest
            return (e :: es, s)

def advanced (e : Execution) (status : Option ExecutionStatus) (now : String) : Execution :=
  match status with
  | none => e
  | some new =>
      if new = e.status then e
      else { e with status := new, finishedAt := if new.isFinished then some now else e.finishedAt }

def summaryOf (t : Tables) (orchestratorId : String) (s : Supply) : Except Reply Summary := do
  let (es, _) ← Reply.ofStored (Tables.readAll? (Event.decode .document) s
    ((t.eventsAbout orchestratorId).map EventRow.document))
  return Event.summarize es

def refreshed (o : Orchestrator) (s : Summary) : Orchestrator :=
  { o with health := ⟨s.score, s.errors, s.lastExecution⟩ }

def ingestReply (executionId : String) (inserted : Nat) (more : Members) : Reply :=
  .ok (.obj ([("execution_id", .str executionId), ("inserted", .int inserted)] ++ more))

def logEvents (executionId orchestratorId : String) (events : List Event) : Work Unit :=
  .attempt fun t =>
    match t.addEvents executionId orchestratorId events with
    | some u => .ok u
    | none => .error .failure

-- Brings the health of an orchestrator up to date, if it is still stored.
def refreshHealth (executionId orchestratorId : String) (inserted : Nat) (s : Supply) : Work Reply := do
  let row? ← .read fun t => .ok (t.record? orchestratorId)
  match row? with
  | none => return ingestReply executionId inserted []
  | some _ =>
      let (o, s) ← .read (find · orchestratorId s)
      let summary ← .read (summaryOf · o.id s)
      store (refreshed o summary)
      return ingestReply executionId inserted
        [("execution_health", .float summary.score), ("error_count", .int summary.errors)]

def ingest (c : Surroundings) (id : String) (body : Json) (t : Tables) : Reply × Tables :=
  answer (do
    let (request, s) ← given (readBody IngestBody.decode body c.supply)
    let (e, s) ← .read (findExecution · id s)
    let (events, s) ← given (readEvents id c.now s request.events)
    logEvents id e.orchestratorId events
    let next := advanced e request.status c.now
    if next ≠ e then
      .write (·.putExecution next)
    refreshHealth id e.orchestratorId events.length s) t

def executionSummary (c : Surroundings) (id : String) (t : Tables) : Reply :=
  replyOf do
    let (_, s) ← find t id c.supply
    return .ok (← summaryOf t id s).encode

end Orchestration.Service
