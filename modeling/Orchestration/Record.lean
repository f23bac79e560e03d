import Orchestration.Chain.Rebuild

namespace Orchestration

inductive Status where
  | draft
  | published
  | archived
  deriving DecidableEq, Repr

namespace Status

def tag : Status → String
  | .draft => "draft"
  | .published => "published"
  | .archived => "archived"

def ofTag? (tag : String) : Option Status := [draft, published, archived].find? (·.tag == tag)

theorem ofTag?_tag (status : Status) : ofTag? status.tag = some status := by
  cases status <;> decide

theorem eq_of_tag {a b : Status} (same : a.tag = b.tag) : a = b := by
  have read := congrArg ofTag? same
  rw [ofTag?_tag, ofTag?_tag] at read
  exact Option.some.inj read

end Status

structure Health where
  score : Binary64
  errorCount : Int
  lastExecution : Option String
  deriving DecidableEq, Repr

def Health.clean : Health := ⟨Binary64.ofInt 100, 0, none⟩

structure Orchestrator where
  graph : Graph
  id : String
  name : String
  description : String
  status : Status
  health : Health
  publishedVersion : Option Int
  createdAt : Option String
  updatedAt : Option String

namespace Orchestrator

def title : String := "Orchestrator"

def untitled : String := "Untitled Orchestrator"

def draft (id name : String) (graph : Graph) : Orchestrator :=
  ⟨graph, id, name, "", .draft, .clean, none, none, none⟩

-- The fields in the order in which their complaints are heard.
def assemble (graph : Graph) (id name description : String) (status : Status) (score : Binary64)
    (errorCount : Int) (lastExecution : Option String) (publishedVersion : Option Int)
    (createdAt updatedAt : Option String) : Orchestrator :=
  ⟨graph, id, name, description, status, ⟨score, errorCount, lastExecution⟩, publishedVersion,
    createdAt, updatedAt⟩

def decode (source : Source) (v : Json) : Decode Orchestrator :=
  Decode.record source v fun m =>
    assemble <$> Graph.readMembers source m
      <*> Decode.required m (.same "id") Decode.text
      <*> Decode.required m (.same "name") Decode.text
      <*> Decode.field m (.same "description") (pure "") Decode.text
      <*> Decode.field m (.same "status") (pure .draft) (Decode.choice Status.ofTag?)
      <*> Decode.field m ⟨"executionHealth", "execution_health"⟩ (pure Health.clean.score) Decode.number
      <*> Decode.field m ⟨"errorCount", "error_count"⟩ (pure 0) Decode.integer
      <*> Decode.field m ⟨"lastExecution", "last_execution"⟩ (pure none) (Decode.optional Decode.text)
      <*> Decode.field m ⟨"publishedVersion", "published_version"⟩ (pure none)
        (Decode.optional Decode.integer)
      <*> Decode.field m ⟨"createdAt", "created_at"⟩ (pure none) (Decode.optional Decode.text)
      <*> Decode.field m ⟨"updatedAt", "updated_at"⟩ (pure none) (Decode.optional Decode.text)

def members (o : Orchestrator) : Members :=
  o.graph.members ++
    [("id", .str o.id), ("name", .str o.name), ("description", .str o.description),
      ("status", .str o.status.tag), ("executionHealth", .float o.health.score),
      ("errorCount", .int o.health.errorCount), ("lastExecution", .ofText? o.health.lastExecution),
      ("publishedVersion", .ofInt? o.publishedVersion), ("createdAt", .ofText? o.createdAt),
      ("updatedAt", .ofText? o.updatedAt)]

def encode (o : Orchestrator) : Json := .obj o.members

def dumpFault? (o : Orchestrator) : Option Json.DumpFault := o.graph.dumpFault?

-- Whether an orchestrator can be written out as text.
def isWritable (o : Orchestrator) : Bool := o.graph.fits && !o.encode.hasHalf

def toChain (o : Orchestrator) (workspaceId : Option String) : Noted (Except Json.DumpFault Chain) :=
  (o.graph.toChain o.name).map fun r =>
    r.map fun c => { c with id := some o.id, workspaceId := workspaceId }

inductive ImportFault where
  | noDocument
  | rejected (r : Rejection)
  | build (fault : Node.BuildFault)
  deriving Repr

def ImportFault.message : ImportFault → String
  | .noDocument => "Invalid backend data"
  | .rejected r => r.headline
  | .build (.kind fault) => fault.message
  | .build (.rejected r) => r.headline

-- The document itself, or the first of a list of documents.
def firstDocument : Json → Json
  | .arr (v :: _) => v
  | v => v

-- The draft that a chain document, or a list with one in front, describes. Its state and its
-- health are not part of the document and are those of a new draft.
def ofChainDocument (v : Json) (s : Supply) : Noted (Except ImportFault (Orchestrator × Supply)) :=
  let document := firstDocument v
  if !document.isGiven then .quiet (.error .noDocument)
  else match Decode.load Chain.title (Chain.decode .document document) s with
    | .error r => .quiet (.error (.rejected r))
    | .ok (c, s) =>
        (c.toGraph s).map fun
          | .error fault => .error (.build fault)
          | .ok (g, s) =>
              .ok (draft (c.id.getD "") (if c.name = "" then untitled else c.name) g, s)

end Orchestrator

-- A version: the graph and the chain of an orchestrator as they were published.
structure Version where
  orchestratorId : String
  number : Int
  graph : Graph
  chain : Chain
  publishedAt : Option String
  createdAt : String

namespace Version

def title : String := "OrchestratorVersion"

def assemble (orchestratorId : String) (number : Int) (nodes : List Node) (edges : List Edge)
    (chain : Chain) (publishedAt : Option String) (createdAt : String) : Version :=
  ⟨orchestratorId, number, ⟨nodes, edges⟩, chain, publishedAt, createdAt⟩

-- The nodes of a version are read as they are: a version is never of an older shape.
def decode (source : Source) (v : Json) : Decode Version :=
  Decode.record source v fun m =>
    assemble <$> Decode.required m ⟨"orchestratorId", "orchestrator_id"⟩ Decode.text
      <*> Decode.required m (.same "version") Decode.integer
      <*> Decode.required m (.same "nodes") (Decode.list (Node.decode source))
      <*> Decode.required m (.same "edges") (Decode.list (Edge.decode source))
      <*> Decode.required m (.same "chain") (Chain.decode source)
      <*> Decode.field m ⟨"publishedAt", "published_at"⟩ (pure none) (Decode.optional Decode.text)
      <*> Decode.required m ⟨"createdAt", "created_at"⟩ Decode.text

def encode (v : Version) : Json :=
  .obj ([("orchestratorId", .str v.orchestratorId), ("version", .int v.number)] ++ v.graph.members ++
    [("chain", v.chain.encode), ("publishedAt", .ofText? v.publishedAt), ("createdAt", .str v.createdAt)])

def dumpFault? (v : Version) : Option Json.DumpFault :=
  match v.graph.dumpFault? with
  | some fault => some fault
  | none => v.chain.dumpFault?

def isWritable (v : Version) : Bool :=
  v.graph.fits && v.chain.dumpFault?.isNone && !v.encode.hasHalf

end Version
end Orchestration
