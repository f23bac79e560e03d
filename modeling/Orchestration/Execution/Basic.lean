import Orchestration.Decode.Scalar
import Orchestration.Json.Dump
import Orchestration.Rejection

namespace Orchestration

inductive ExecutionStatus where
  | pending
  | running
  | completed
  | failed
  deriving DecidableEq, Repr

namespace ExecutionStatus

def tag : ExecutionStatus → String
  | .pending => "pending"
  | .running => "running"
  | .completed => "completed"
  | .failed => "failed"

def ofTag? (tag : String) : Option ExecutionStatus :=
  [pending, running, completed, failed].find? (·.tag == tag)

def isFinished : ExecutionStatus → Bool
  | .completed => true
  | .failed => true
  | _ => false

theorem ofTag?_tag (status : ExecutionStatus) : ofTag? status.tag = some status := by
  cases status <;> decide

end ExecutionStatus

structure Execution where
  id : String
  orchestratorId : String
  version : Int
  status : ExecutionStatus
  startedAt : String
  finishedAt : Option String
  deriving DecidableEq, Repr

namespace Execution

def decode (source : Source) (v : Json) : Decode Execution :=
  Decode.record source v fun m =>
    Execution.mk <$> Decode.required m ⟨"executionId", "execution_id"⟩ Decode.text
      <*> Decode.required m ⟨"orchestratorId", "orchestrator_id"⟩ Decode.text
      <*> Decode.required m (.same "version") Decode.integer
      <*> Decode.field m (.same "status") (pure .pending) (Decode.choice ExecutionStatus.ofTag?)
      <*> Decode.required m ⟨"startedAt", "started_at"⟩ Decode.text
      <*> Decode.field m ⟨"finishedAt", "finished_at"⟩ (pure none) (Decode.optional Decode.text)

def encode (e : Execution) : Json :=
  .obj [("executionId", .str e.id), ("orchestratorId", .str e.orchestratorId),
    ("version", .int e.version), ("status", .str e.status.tag), ("startedAt", .str e.startedAt),
    ("finishedAt", .ofText? e.finishedAt)]

theorem decode_encode (source : Source) (e : Execution) (s : Supply) :
    decode source e.encode s = .ok (e, s) := by
  obtain ⟨id, orchestratorId, version, status, startedAt, finishedAt⟩ := e
  cases finishedAt <;>
    simp [decode, encode, Decode.record, Decode.required, Decode.field, FieldName.given?, FieldName.same,
      Keyed.find?, List.lookup_cons, Decode.under, Decode.text, Decode.integer, Decode.choice,
      Decode.optional, Json.ofText?, ExecutionStatus.ofTag?_tag, Seq.seq, Functor.map, Decode.both,
      Decode.map, Decode.pure]

end Execution

inductive EventStatus where
  | success
  | warning
  | error
  deriving DecidableEq, Repr

namespace EventStatus

def tag : EventStatus → String
  | .success => "success"
  | .warning => "warning"
  | .error => "error"

def ofTag? (tag : String) : Option EventStatus := [success, warning, error].find? (·.tag == tag)

theorem ofTag?_tag (status : EventStatus) : ofTag? status.tag = some status := by
  cases status <;> decide

end EventStatus

structure Event where
  id : String
  executionId : Option String
  nodeId : String
  nodeLabel : String
  timestamp : String
  status : EventStatus
  message : String
  latency : Option String
  deriving DecidableEq, Repr

namespace Event

def title : String := "NodeExecutionEvent"

def decode (source : Source) (v : Json) : Decode Event :=
  Decode.record source v fun m =>
    Event.mk <$> Decode.required m (.same "id") Decode.text
      <*> Decode.field m ⟨"executionId", "execution_id"⟩ (pure none) (Decode.optional Decode.text)
      <*> Decode.required m ⟨"nodeId", "node_id"⟩ Decode.text
      <*> Decode.field m ⟨"nodeLabel", "node_label"⟩ (pure "") Decode.text
      <*> Decode.required m (.same "timestamp") Decode.text
      <*> Decode.required m (.same "status") (Decode.choice EventStatus.ofTag?)
      <*> Decode.field m (.same "message") (pure "") Decode.text
      <*> Decode.field m (.same "latency") (pure none) (Decode.optional Decode.text)

def encode (e : Event) : Json :=
  .obj [("id", .str e.id), ("executionId", .ofText? e.executionId), ("nodeId", .str e.nodeId),
    ("nodeLabel", .str e.nodeLabel), ("timestamp", .str e.timestamp), ("status", .str e.status.tag),
    ("message", .str e.message), ("latency", .ofText? e.latency)]

-- Whether an event can be written out as text. Everything in it has a prescribed shape.
def isWritable (e : Event) : Bool := !e.encode.hasHalf

theorem decode_encode (source : Source) (e : Event) (s : Supply) :
    decode source e.encode s = .ok (e, s) := by
  obtain ⟨id, executionId, nodeId, nodeLabel, timestamp, status, message, latency⟩ := e
  cases executionId <;> cases latency <;>
    simp [decode, encode, Decode.record, Decode.required, Decode.field, FieldName.given?, FieldName.same,
      Keyed.find?, List.lookup_cons, Decode.under, Decode.text, Decode.choice,
      Decode.optional, Json.ofText?, EventStatus.ofTag?_tag, Seq.seq, Functor.map, Decode.both,
      Decode.map, Decode.pure]

end Event
end Orchestration
