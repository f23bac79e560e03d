import Orchestration.Chain.Basic
import Orchestration.Notice

namespace Orchestration.Graph

def chosen? (g : Graph) (id : String) : Option Edge := g.edges.find? (·.source == id)

-- The first node that can be an entry, else the first node.
def entry? (g : Graph) : Option String :=
  match g.nodes.find? (·.kind.isStart) with
  | some n => some n.id
  | none => g.nodes.head?.map Node.id

-- The edges behind others that leave the same node, `left` being the ids already left.
def discardedFrom (g : Graph) (left : List String) : List Edge → List Edge
  | [] => []
  | e :: rest =>
      if left.contains e.source then
        if g.hasNode e.source then e :: discardedFrom g left rest else discardedFrom g left rest
      else discardedFrom g (e.source :: left) rest

-- The edges that no chain can hold: those that leave a node but are not the first to.
def discarded (g : Graph) : List Edge := g.discardedFrom [] g.edges

def action (g : Graph) (n : Node) : Action :=
  let next := g.chosen? n.id
  { kind := n.kind
    args := n.kind.form.handed n.payload
    nextAction := next.map Edge.target
    nextHandle := next.bind Edge.sourceHandle
    fallback := .null
    delayDay := none
    position := n.position }

-- How an edge is spoken of in a notice.
def edgeText (e : Edge) : String := e.id ++ " (" ++ e.source ++ " -> " ++ e.target ++ ")"

def lossNotice (lost : List Edge) : List Notice :=
  if lost.isEmpty then []
  else [.warning ("action chain keeps one next action per node; dropped " ++ toString lost.length ++
    " edge(s): " ++ String.intercalate ", " (lost.map edgeText))]

-- The chain itself. Of nodes with one id the last gives the action.
def compile (g : Graph) (name : String) : Chain :=
  { id := none
    workspaceId := none
    name := name
    firstAction := g.entry?
    actions := Keyed.ofList (g.nodes.map fun n => (n.id, g.action n)) }

-- The chain, with a notice of what is lost, if all payloads can be handed out.
def toChain (g : Graph) (name : String) : Noted (Except Json.DumpFault Chain) :=
  match g.dumpFault? with
  | some fault => .quiet (.error fault)
  | none => ⟨.ok (g.compile name), lossNotice g.discarded⟩

end Orchestration.Graph
