import Orchestration.InPlace
import Orchestration.Step.RuleEdit

namespace Orchestration.Graph

inductive EditFault where
  | nodeNotFound (id : String)
  | edgeNotFound (id : String)
  | nodeIdInUse (id : String)
  | edgeIdInUse (id : String)
  | build (fault : Node.BuildFault)
  | rejected (r : Rejection)
  | rule (fault : RuleFault)
  | noRules
  -- What the node keeps as its rules is not a collection.
  | notRules
  | notIndex
  deriving Repr

def EditFault.message : EditFault → String
  | .nodeNotFound id => "Node not found: " ++ id
  | .edgeNotFound id => "Edge not found: " ++ id
  | .nodeIdInUse id => "Node id already in use: " ++ id
  | .edgeIdInUse id => "Edge id already in use: " ++ id
  | .build (.kind fault) => fault.message
  | .build (.rejected r) => r.headline
  | .rejected r => r.headline
  | .rule fault => fault.message
  | .noRules => "The node has no rules"
  | .notRules => "The rules of the node are no collection"
  | .notIndex => "The index is no integer"

def EditFault.ofRule : RuleEdit.Fault → EditFault
  | .rule fault => .rule fault
  | .rejected r => .rejected r
  | .notIndex => .notIndex

def requireNode (g : Graph) (id : String) : Except EditFault Node :=
  match g.node? id with
  | some n => .ok n
  | none => .error (.nodeNotFound id)

-- The node that a loose value names. What is no text names none.
def namedNode (g : Graph) : Json → Except EditFault Node
  | .str id => g.requireNode id
  | v => .error (.nodeNotFound (Json.shown v))

-- An id that is asked for, or a fresh one.
def askedOrFresh (id : Json) (s : Supply) : Json × Supply :=
  if id.isGiven then (id, s)
  else
    let (fresh, s) := s.nodeId
    (.str fresh, s)

-- The edge that already joins two nodes through a handle.
def joining? (g : Graph) (source target : String) (handle : Option String) : Option Edge :=
  g.edges.find? fun e => e.source == source && e.target == target && e.sourceHandle == handle

-- A loose value for a handle: none, a text, or neither.
def looseHandle? : Json → Option (Option String)
  | .null => some none
  | .str handle => some (some handle)
  | _ => none

-- The complaint about a loose value that ought to be a text.
def textComplaint (key : String) (isText : Bool) : List Complaint :=
  if isText then [] else [⟨.notText, [.key key]⟩]

def unusedNodeId (g : Graph) (id : Json) : Except EditFault Unit :=
  match id with
  | .str name => if g.hasNode name then .error (.nodeIdInUse name) else .ok ()
  -- An id that is not a text is in use by no node.
  | _ => .ok ()

def unusedEdgeId (g : Graph) (id : String) : Except EditFault Unit :=
  if (g.edge? id).isSome then .error (.edgeIdInUse id) else .ok ()

-- An edge of loose values, of which the handle and the id may be no texts.
def makeEdge (start stop : Node) (handle id : Json) : Except EditFault Edge :=
  match looseHandle? handle, id with
  | some handle, .str id => .ok ⟨id, start.id, stop.id, handle, start.branchLabel handle⟩
  | handle, id =>
      let isText := match id with
        | .str _ => true
        | _ => false
      .error (.rejected ⟨Edge.title, .invalid
        (textComplaint "id" isText ++ textComplaint "source_handle" handle.isSome)⟩)

-- A call that edits a graph in place.
abbrev Call (α : Type) : Type := InPlace Graph EditFault α

namespace Call

-- Appends a node and gives its id.
def addNode (kind id data position : Json) (s : Supply) : Call (String × Supply) := do
  let (id, s) := askedOrFresh id s
  .read (·.unusedNodeId id)
  let (n, s) ← .read fun _ => (Node.build id kind data position s).mapError .build
  .write fun g => { g with nodes := g.nodes ++ [n] }
  return (n.id, s)

-- Merges a patch into the payload of a node. Its id and its kind stay.
def updateNodeData (id : Json) (patch : Members) (s : Supply) : Call Supply := do
  let n ← .read (·.namedNode id)
  let (payload, s) ← .read fun _ =>
    (Decode.load n.kind.form.title (n.payload.merge patch) s).mapError .rejected
  let updated := { n with payload := payload }
  .write fun g => { g with nodes := g.nodes.map fun m => if m.id == n.id then updated else m }
  return s

-- Removes a node and every edge that touches it.
def removeNode (id : Json) : Call Unit := do
  let n ← .read (·.namedNode id)
  .write fun g => { g with nodes := g.nodes.filter (·.id != n.id) }
  .write fun g => { g with edges := g.edges.filter fun e => e.source != n.id && e.target != n.id }

-- Joins two nodes and gives the id of the edge. Nodes that are joined already stay as they are, and the
-- id of an edge that asks for none is made of what is shown of the handle.
def addEdge (source target handle id : Json) : Call String := do
  let start ← .read (·.namedNode source)
  let stop ← .read (·.namedNode target)
  let joined? ← .read fun g => .ok ((looseHandle? handle).bind (g.joining? start.id stop.id))
  match joined? with
  | some e => return e.id
  | none =>
      let shown := if handle.isGiven then some (Json.shown handle) else none
      let id := if id.isGiven then id else .str (Edge.conventionalId start.id stop.id shown)
      .read fun g => match id with
        | .str id => g.unusedEdgeId id
        | _ => .ok ()
      let e ← .read fun _ => makeEdge start stop handle id
      .write fun g => { g with edges := g.edges ++ [e] }
      return e.id

def removeEdge (id : Json) : Call Unit := do
  .read fun g => match id with
    | .str id => if (g.edge? id).isSome then .ok () else .error (.edgeNotFound id)
    | v => .error (.edgeNotFound (Json.shown v))
  .write fun g => match id with
    | .str id => { g with edges := g.edges.filter (·.id != id) }
    | _ => g

end Call

-- The number of things in a collection that a step keeps under the name of rules.
def collectionSize : Json → Option Nat
  | .arr vs => some vs.length
  | .obj m => some m.length
  | .str s => some s.length
  | _ => none

-- The rules after an edit, for a step of any kind. A step that is not conditional may keep
-- a collection under the name of rules; only an empty one can be edited.
def editedRules (p : Payload Details) (edit : RuleEdit) (s : Supply) :
    Except EditFault (List Rule × Supply) :=
  match p.details with
  | .conditional c => (edit.apply c.rules s).mapError .ofRule
  | _ =>
      match p.extras.find? "rules" with
      | none => .error .noRules
      | some v =>
          match collectionSize v with
          | none => .error .notRules
          | some 0 => (edit.apply [] s).mapError .ofRule
          | some (n + 1) =>
              match edit with
              | .add rule =>
                  if Conditional.maxRules ≤ n + 1 then .error (.rule .tooMany)
                  else if rule.id = Branch.fallbackHandle then .error (.rule .reserved)
                  else .error .noRules
              | _ => .error .noRules

-- Edits the rules of a step, and merges those that come of it into its payload.
def Call.editRules (id : Json) (edit : RuleEdit) (s : Supply) : Call Supply := do
  let n ← .read (·.namedNode id)
  let (rules, s) ← .read fun _ => editedRules n.payload edit s
  Call.updateNodeData id [("rules", .arr (rules.map Rule.encode))] s

-- The graph with a node more, and the id of the node.
def addNode (g : Graph) (kind id data position : Json) (s : Supply) :
    Except EditFault ((String × Graph) × Supply) :=
  ((Call.addNode kind id data position s).outcome g).map fun ((id, s), h) => ((id, h), s)

-- The graph with two nodes joined, and the id of the edge between them.
def addEdge (g : Graph) (source target : String) (handle id : Option String) : Except EditFault (String × Graph) :=
  (Call.addEdge (.str source) (.str target) (.ofText? handle) (.ofText? id)).outcome g

end Orchestration.Graph
