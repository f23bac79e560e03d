import Orchestration.Lifecycle

namespace Orchestration

-- What a file may hold. A document with a map of actions is a chain and is rebuilt. One with an id and a name is an
-- orchestrator. Every other one is a graph. A list stands for its first item.
inductive Flow where
  | graph (g : Graph)
  | orchestrator (o : Orchestrator)

inductive FlowKind where
  | graph
  | orchestrator
  deriving DecidableEq, Repr

namespace Flow

def toGraph : Flow → Graph
  | .graph g => g
  | .orchestrator o => o.graph

def withGraph (f : Flow) (g : Graph) : Flow :=
  match f with
  | .graph _ => .graph g
  | .orchestrator o => .orchestrator { o with graph := g }

def name? : Flow → Option String
  | .graph _ => none
  | .orchestrator o => some o.name

def encode : Flow → Json
  | .graph g => g.encode
  | .orchestrator o => o.encode

def dumpFault? (f : Flow) : Option Json.DumpFault := f.toGraph.dumpFault?

def relabel (f : Flow) : Flow := f.withGraph f.toGraph.relabel.graph

def ofDocument (kind : FlowKind) (v : Json) (s : Supply) : Except Rejection (Flow × Supply) :=
  match kind with
  | .graph => (Decode.load Graph.title (Graph.decode .document v) s).map fun (g, s) => (.graph g, s)
  | .orchestrator =>
      (Decode.load Orchestrator.title (Orchestrator.decode .document v) s).map fun (o, s) =>
        (.orchestrator o, s)

-- Whether a document is an object that holds all of the keys.
def holds (v : Json) (keys : List String) : Bool :=
  match v.members? with
  | some m => keys.all m.has
  | none => false

def load (v : Json) (s : Supply) : Noted (Except Orchestrator.ImportFault (Flow × Supply)) :=
  let document := Orchestrator.firstDocument v
  if holds document ["actions"] then
    (Orchestrator.ofChainDocument document s).map fun r =>
      r.map fun (o, s) => (.orchestrator o, s)
  else
    let kind := if holds document ["id", "name"] then FlowKind.orchestrator else .graph
    .quiet ((ofDocument kind document s).mapError .rejected)

end Flow
end Orchestration
