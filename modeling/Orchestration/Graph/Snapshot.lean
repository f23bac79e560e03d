import Orchestration.Graph.Basic
import Orchestration.Json.Dump

namespace Orchestration.Graph

-- A graph is a value, so its copy is the graph itself. Yet copies are made level by level, and a payload that is
-- nested too deep has none.
def deepestCopy : Nat := 480

def isCopyable (g : Graph) : Bool := g.nodes.all fun n => n.payload.encode.within deepestCopy

def snapshot? (g : Graph) : Option Graph := if g.isCopyable then some g else none

end Orchestration.Graph
