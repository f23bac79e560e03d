import Orchestration.Execution.Basic
import Orchestration.Record

namespace Orchestration

-- A row holds the stored document and the columns by which it is found. The document is read again each time, and
-- may be one that is not read.
structure RecordRow where
  id : String
  document : Json
  status : String
  updatedAt : String

structure VersionRow where
  orchestratorId : String
  number : Int
  document : Json

structure ExecutionRow where
  id : String
  orchestratorId : String
  startedAt : String
  document : Json

structure EventRow where
  executionId : String
  orchestratorId : String
  document : Json

structure Tables where
  records : List RecordRow
  versions : List VersionRow
  executions : List ExecutionRow
  events : List EventRow

namespace Tables

def empty : Tables := ⟨[], [], [], []⟩

-- Replaces the first row that is matched, or appends.
def put (same : ρ → Bool) (row : ρ) : List ρ → List ρ
  | [] => [row]
  | r :: rest => if same r then row :: rest else r :: put same row rest

inductive StoreFault where
  | unwritable
  | unstamped
  deriving DecidableEq, Repr

def read? (decode : Json → Decode α) (document : Json) (s : Supply) : Option (α × Supply) :=
  if Json.within Json.deepestStored document then (decode document s).toOption else none

def readAll? (decode : Json → Decode α) (s : Supply) : List Json → Option (List α × Supply)
  | [] => some ([], s)
  | d :: rest => do
      let (a, s) ← read? decode d s
      let (as, s) ← readAll? decode s rest
      return (a :: as, s)

def newestFirst (key : ρ → String) (rows : List ρ) : List ρ :=
  rows.mergeSort fun a b => key b ≤ key a

section Records

-- Stores an orchestrator under its id. Nothing is stored without both timestamps.
def putRecord (t : Tables) (o : Orchestrator) : Except StoreFault Tables :=
  if !o.isWritable then .error .unwritable
  else match o.createdAt, o.updatedAt with
    | some _, some updated =>
        .ok { t with
          records := put (fun r => r.id == o.id) ⟨o.id, o.encode.finiteOnly, o.status.tag, updated⟩ t.records }
    | _, _ => .error .unstamped

def record? (t : Tables) (id : String) : Option RecordRow := t.records.find? (·.id == id)

-- The rows with a status, or all rows, the latest update first.
def recordsWith (t : Tables) (status : Option Status) : List RecordRow :=
  let rows := match status with
    | some s => t.records.filter (·.status == s.tag)
    | none => t.records
  newestFirst RecordRow.updatedAt rows

def dropRecord (t : Tables) (id : String) : Tables :=
  { t with records := t.records.filter (·.id != id),
           versions := t.versions.filter (·.orchestratorId != id) }

end Records

section Versions

def versionsOf (t : Tables) (orchestratorId : String) : List VersionRow :=
  (t.versions.filter (·.orchestratorId == orchestratorId)).mergeSort fun a b => a.number ≤ b.number

def nextVersion (t : Tables) (orchestratorId : String) : Int :=
  match (t.versionsOf orchestratorId).getLast? with
  | some row => row.number + 1
  | none => 1

def latestVersion? (t : Tables) (orchestratorId : String) : Option VersionRow :=
  (t.versionsOf orchestratorId).getLast?

-- Adds a version, unless its number is taken or it cannot be written out as text.
def addVersion (t : Tables) (v : Version) : Option Tables :=
  if !v.isWritable then none
  else if t.versions.any fun r => r.orchestratorId == v.orchestratorId && r.number == v.number then none
  else some { t with
    versions := t.versions ++ [⟨v.orchestratorId, v.number, v.encode.finiteOnly⟩] }

end Versions

section Executions

def execution? (t : Tables) (id : String) : Option ExecutionRow := t.executions.find? (·.id == id)

-- A stored execution keeps the columns that it was first stored with.
def putExecution (t : Tables) (e : Execution) : Tables :=
  let row : ExecutionRow := match t.execution? e.id with
    | some row => { row with document := e.encode }
    | none => ⟨e.id, e.orchestratorId, e.startedAt, e.encode⟩
  { t with executions := put (fun r => r.id == e.id) row t.executions }

def executionsOf (t : Tables) (orchestratorId : Option String) : List ExecutionRow :=
  let rows := match orchestratorId with
    | some id => t.executions.filter (·.orchestratorId == id)
    | none => t.executions
  newestFirst ExecutionRow.startedAt rows

-- Adds events behind the others, unless one of them cannot be written out as text.
def addEvents (t : Tables) (executionId orchestratorId : String) (events : List Event) : Option Tables :=
  if events.all Event.isWritable then
    some { t with events := t.events ++ events.map fun e => ⟨executionId, orchestratorId, e.encode⟩ }
  else none

def eventsOf (t : Tables) (executionId : String) : List EventRow :=
  t.events.filter (·.executionId == executionId)

def eventsAbout (t : Tables) (orchestratorId : String) : List EventRow :=
  t.events.filter (·.orchestratorId == orchestratorId)

def dropExecutions (t : Tables) (orchestratorId : String) : Tables :=
  { t with executions := t.executions.filter (·.orchestratorId != orchestratorId),
           events := t.events.filter (·.orchestratorId != orchestratorId) }

end Executions

end Tables
end Orchestration
