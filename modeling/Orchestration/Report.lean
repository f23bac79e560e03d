import Orchestration.Flow

namespace Orchestration

structure Report where
  name : Option String
  nodeCount : Nat
  edgeCount : Nat
  -- The display id of every id, in the order of the nodes.
  labels : Keyed (Option String)
  issues : List Issue
  discarded : List String

namespace Report

def ofFlow (f : Flow) : Report :=
  let g := f.relabel.toGraph
  { name := f.name?
    nodeCount := g.nodes.length
    edgeCount := g.edges.length
    labels := Keyed.ofList (g.nodes.map fun n => (n.id, n.displayId))
    issues := g.issues none
    discarded := g.discarded.map Edge.id }

def encode (r : Report) : Json :=
  .obj [("name", .ofText? r.name), ("node_count", .int r.nodeCount), ("edge_count", .int r.edgeCount),
    ("labels", .obj (r.labels.map fun (id, label) => (id, .ofText? label))),
    ("issues", .arr (r.issues.map Issue.encode)),
    ("discarded_edges", .arr (r.discarded.map .str))]

def rule (c : Char) (width : Nat) : String := String.ofList (List.replicate width c)

def thick : String := rule '=' 60

def thin : String := rule '-' 40

-- A text with blanks in front up to a width.
def padLeft (width : Nat) (s : String) : String := rule ' ' (width - s.length) ++ s

-- A text, or another one for none and for the empty text.
def orElse (s : Option String) (other : String) : String :=
  match s with
  | some s => if s = "" then other else s
  | none => other

def labelLine (id : String) (label : Option String) : String :=
  "  " ++ padLeft 5 (orElse label "--") ++ "  " ++ id

def heading (title : String) : List String := [thin, title, thin]

def labelLines (r : Report) : List String :=
  if r.labels.isEmpty then ["  (no nodes)"] else r.labels.map fun (id, label) => labelLine id label

def lossLines (r : Report) : List String :=
  if r.discarded.isEmpty then []
  else heading "EDGES LOST IN ACTION CHAIN" ++ r.discarded.map ("  • " ++ ·) ++ [""]

def issueLines (r : Report) : List String :=
  if r.issues.isEmpty then heading "✓ Ready to publish"
  else heading ("VALIDATION (" ++ toString r.issues.length ++ " issue(s))") ++
    r.issues.map fun i => "  [" ++ i.code ++ "] " ++ i.message

def lines (r : Report) : List String :=
  [thick, "FLOW: " ++ orElse r.name "(unnamed graph)", thick,
    "Nodes: " ++ toString r.nodeCount, "Edges: " ++ toString r.edgeCount, ""] ++
    heading "DISPLAY IDS" ++ r.labelLines ++ [""] ++ r.lossLines ++ r.issueLines ++ [""]

def text (r : Report) : String := String.intercalate "\n" r.lines

end Report
end Orchestration
