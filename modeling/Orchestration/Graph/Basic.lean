import Orchestration.Graph.Node

namespace Orchestration

structure Edge where
  id : String
  source : String
  target : String
  sourceHandle : Option String
  label : Option String
  deriving DecidableEq, Repr

namespace Edge

def title : String := "Edge"

def decode (source : Source) (v : Json) : Decode Edge :=
  Decode.record source v fun m =>
    Edge.mk <$> Decode.required m (.same "id") Decode.text
      <*> Decode.required m (.same "source") Decode.text
      <*> Decode.required m (.same "target") Decode.text
      <*> Decode.field m ⟨"sourceHandle", "source_handle"⟩ (pure none) (Decode.optional Decode.text)
      <*> Decode.field m (.same "label") (pure none) (Decode.optional Decode.text)

def encode (e : Edge) : Json :=
  .obj [("id", .str e.id), ("source", .str e.source), ("target", .str e.target),
    ("sourceHandle", .ofText? e.sourceHandle), ("label", .ofText? e.label)]

-- The id that an edge gets unless another one is asked for. A handle that is empty
-- counts as none.
def conventionalId (source target : String) (handle : Option String) : String :=
  match handle with
  | none => "e-" ++ source ++ "-" ++ target
  | some h =>
      if h = "" then "e-" ++ source ++ "-" ++ target
      else "e-" ++ source ++ "-" ++ h ++ "-" ++ target

theorem decode_encode (source : Source) (e : Edge) (s : Supply) :
    decode source e.encode s = .ok (e, s) := by
  obtain ⟨id, start, target, handle, label⟩ := e
  cases handle <;> cases label <;>
    simp [decode, encode, Decode.record, Decode.required, Decode.field, FieldName.given?, FieldName.same,
      Keyed.find?, List.lookup_cons, Decode.under, Decode.text, Decode.optional, Json.ofText?, Seq.seq,
      Functor.map, Decode.both, Decode.map, Decode.pure]

end Edge

structure Graph where
  nodes : List Node
  edges : List Edge

namespace Graph

def title : String := "WorkflowGraph"

def empty : Graph := ⟨[], []⟩

def decodeNodes (source : Source) : Json → Decode (List Node)
  | .arr vs => Decode.items (Node.decode source) 0 (vs.map Node.normalize)
  | _ => Decode.complain .notList

def readMembers (source : Source) (m : Members) : Decode Graph :=
  Graph.mk <$> Decode.field m (.same "nodes") (pure []) (decodeNodes source)
    <*> Decode.field m (.same "edges") (pure []) (Decode.list (Edge.decode source))

def decode (source : Source) (v : Json) : Decode Graph :=
  Decode.record source v (readMembers source)

def members (g : Graph) : Members :=
  [("nodes", .arr (g.nodes.map Node.encode)), ("edges", .arr (g.edges.map Edge.encode))]

def encode (g : Graph) : Json := .obj g.members

-- Why a graph cannot be handed out, for the first node that cannot.
def dumpFault? (g : Graph) : Option Json.DumpFault := g.nodes.findSome? Node.dumpFault?

def fits (g : Graph) : Bool := g.nodes.all Node.fits

def node? (g : Graph) (id : String) : Option Node := g.nodes.find? (·.id == id)

def edge? (g : Graph) (id : String) : Option Edge := g.edges.find? (·.id == id)

-- The node that stands for an id where nodes are kept by id: the last one.
def lastNode? (g : Graph) (id : String) : Option Node := g.nodes.reverse.find? (·.id == id)

-- The ids of the nodes, each once, in the order in which they first occur.
def ids (g : Graph) : List String := (g.nodes.map Node.id).eraseDups

def hasNode (g : Graph) (id : String) : Bool := g.nodes.any (·.id == id)

def outgoing (g : Graph) (id : String) : List Edge := g.edges.filter (·.source == id)

def incoming (g : Graph) (id : String) : List Edge := g.edges.filter (·.target == id)

def joins (g : Graph) (e : Edge) : Bool := g.hasNode e.source && g.hasNode e.target

theorem hasNode_iff (g : Graph) (id : String) : g.hasNode id = true ↔ ∃ n ∈ g.nodes, n.id = id := by
  simp [hasNode]

theorem hasNode_of_mem {g : Graph} {n : Node} (mem : n ∈ g.nodes) : g.hasNode n.id = true :=
  (g.hasNode_iff n.id).mpr ⟨n, mem, rfl⟩

theorem mem_of_lastNode {g : Graph} {key : String} {n : Node} (found : g.lastNode? key = some n) :
    n ∈ g.nodes ∧ n.id = key := by
  have present := List.mem_of_find?_eq_some found
  have same := List.find?_some found
  exact ⟨List.mem_reverse.mp present, by simpa using same⟩

theorem lastNode_isSome {g : Graph} {key : String} (present : g.hasNode key = true) :
    ∃ n, g.lastNode? key = some n := by
  obtain ⟨n, mem, same⟩ := (g.hasNode_iff key).mp present
  refine Option.isSome_iff_exists.mp ?_
  rw [lastNode?, List.find?_isSome]
  exact ⟨n, List.mem_reverse.mpr mem, by simpa using same⟩

end Graph
end Orchestration
