import Orchestration.Graph.Basic
import Orchestration.Sort.Natural

namespace Orchestration

namespace Position

-- Nodes at one place are ordered by their ids, so the order is total where all coordinates are numbers.
def keyLt (a b : Binary64 × Binary64 × String) : Bool :=
  if !a.1.same b.1 then a.1.lt b.1
  else if !a.2.1.same b.2.1 then a.2.1.lt b.2.1
  else a.2.2 < b.2.2

end Position

namespace Node

def rootKey (n : Node) : Binary64 × Binary64 × String := (n.position.x, n.position.y, n.id)

def childKey (n : Node) : Binary64 × Binary64 × String := (n.position.y, n.position.x, n.id)

def rootLt (a b : Node) : Bool := Position.keyLt a.rootKey b.rootKey

def childLt (a b : Node) : Bool := Position.keyLt a.childKey b.childKey

end Node

namespace Graph

-- Whether an edge with two ends leads to the id.
def hasIncoming (g : Graph) (id : String) : Bool :=
  g.edges.any fun e => e.target == id && g.joins e

-- The nodes to which no edge leads, in root order; if there is none, the first node of all
-- in root order.
def roots (g : Graph) : List Node :=
  match g.nodes.filter (fun n => !g.hasIncoming n.id) with
  | [] => (Sort.least? Node.rootLt g.nodes).toList
  | free => Sort.sort Node.rootLt free

-- The nodes to which edges lead from an id, each once, in the order of the edges.
def targets (g : Graph) (id : String) : List Node :=
  (((g.edges.filter fun e => e.source == id && g.joins e).map Edge.target).eraseDups).filterMap
    g.lastNode?

-- The ids to which edges lead from an id, in child order.
def children (g : Graph) (id : String) : List String :=
  (Sort.sort Node.childLt (g.targets id)).map Node.id

end Graph
end Orchestration
