import Orchestration.Proofs.FreshLabels

namespace Orchestration

-- The edge without the label that is derived from its handle.
def Edge.unlabeled (e : Edge) : Edge := { e with label := none }

namespace Graph

-- The graph without all that is derived.
def unlabeled (g : Graph) : Graph := ⟨g.nodes.map Node.unlabeled, g.edges.map Edge.unlabeled⟩

section Unlabeled

variable (g : Graph)

theorem hasNode_unlabeled (key : String) : g.unlabeled.hasNode key = g.hasNode key :=
  hasNode_redraw (f := Node.unlabeled) (fun _ => rfl) g key

theorem lastNode?_unlabeled (key : String) : g.unlabeled.lastNode? key = (g.lastNode? key).map Node.unlabeled := by
  rw [lastNode?, lastNode?, unlabeled, ← List.map_reverse, List.find?_map]
  rfl

-- Nodes are drawn anew without their display ids. The walk reads of an edge no more than its ends.
theorem walk_unlabeled : g.unlabeled.walk = g.walk := by
  have drawn : (g.redraw Node.unlabeled).walk = g.walk :=
    walk_redraw (f := Node.unlabeled) (fun _ => rfl) (fun _ => rfl) g
  have incoming : g.unlabeled.hasIncoming = (g.redraw Node.unlabeled).hasIncoming := by
    funext key
    rw [hasIncoming, unlabeled, List.any_map]
    rfl
  have roots : g.unlabeled.roots = (g.redraw Node.unlabeled).roots := by
    rw [roots, roots, incoming]
    rfl
  have children : g.unlabeled.children = (g.redraw Node.unlabeled).children := by
    funext key
    rw [children, children, targets, targets, unlabeled, List.filter_map, List.map_map]
    rfl
  rw [← drawn, walk, walk, roots, children]
  rfl

theorem ids_unlabeled : g.unlabeled.ids = g.ids := ids_redraw (f := Node.unlabeled) (fun _ => rfl) g

theorem displayIds_unlabeled : g.unlabeled.displayIds = g.displayIds := by
  rw [displayIds, displayIds, walk_unlabeled, ids_unlabeled]

theorem ofEdge_unlabeled (e : Edge) : Issue.ofEdge g.unlabeled e.unlabeled = Issue.ofEdge g e := by
  simp only [Issue.ofEdge, hasNode_unlabeled, lastNode?_unlabeled, Edge.unlabeled]
  cases g.lastNode? e.source <;> rfl

theorem issues_unlabeled (catalog : Option Catalog) : g.unlabeled.issues catalog = g.issues catalog := by
  have edges : g.unlabeled.edges.flatMap (Issue.ofEdge g.unlabeled) = g.edges.flatMap (Issue.ofEdge g) := by
    rw [unlabeled, List.flatMap_map]
    exact congrArg (g.edges.flatMap ·) (funext g.ofEdge_unlabeled)
  rw [issues, issues, edges, unlabeled, List.isEmpty_map, List.map_map, List.map_map, List.flatMap_map]
  rfl

theorem entry?_unlabeled : g.unlabeled.entry? = g.entry? := by
  rw [Graph.entry?, Graph.entry?, unlabeled, List.find?_map, List.head?_map, Option.map_map]
  have start : (fun n : Node => n.kind.isStart) ∘ Node.unlabeled = fun n => n.kind.isStart := rfl
  rw [start]
  cases g.nodes.find? fun n => n.kind.isStart <;> rfl

theorem chosen?_unlabeled (key : String) : g.unlabeled.chosen? key = (g.chosen? key).map Edge.unlabeled := by
  rw [chosen?, chosen?, unlabeled, List.find?_map]
  rfl

theorem action_unlabeled (n : Node) : g.unlabeled.action n.unlabeled = g.action n := by
  have chosen : g.unlabeled.chosen? n.unlabeled.id = (g.chosen? n.id).map Edge.unlabeled := g.chosen?_unlabeled n.id
  rw [action, action, chosen]
  cases g.chosen? n.id <;> rfl

theorem discardedFrom_unlabeled (left : List String) (edges : List Edge) :
    g.unlabeled.discardedFrom left (edges.map Edge.unlabeled) = (g.discardedFrom left edges).map Edge.unlabeled := by
  induction edges generalizing left with
  | nil => rfl
  | cons e rest ih =>
    simp only [List.map_cons, discardedFrom, hasNode_unlabeled, Edge.unlabeled]
    split
    · split
      · exact congrArg _ (ih left)
      · exact ih left
    · exact ih (e.source :: left)

theorem discarded_unlabeled : g.unlabeled.discarded = g.discarded.map Edge.unlabeled :=
  g.discardedFrom_unlabeled [] g.edges

theorem compile_unlabeled (name : String) : g.unlabeled.compile name = g.compile name := by
  have actions : g.unlabeled.nodes.map (fun n => (n.id, g.unlabeled.action n)) =
      g.nodes.map fun n => (n.id, g.action n) := by
    rw [unlabeled, List.map_map]
    exact List.map_congr_left fun n _ => congrArg (Prod.mk n.id) (g.action_unlabeled n)
  rw [compile, compile, actions, entry?_unlabeled]

-- An edge is spoken of by its id and its ends.
theorem toChain_unlabeled (name : String) : g.unlabeled.toChain name = g.toChain name := by
  have fault : g.unlabeled.dumpFault? = g.dumpFault? := by
    rw [dumpFault?, unlabeled, List.findSome?_map]
    rfl
  have notice : lossNotice g.unlabeled.discarded = lossNotice g.discarded := by
    rw [discarded_unlabeled, lossNotice, lossNotice, List.isEmpty_map, List.length_map, List.map_map]
    rfl
  rw [toChain, toChain, fault, compile_unlabeled, notice]

end Unlabeled

-- Two graphs that are one but for display ids and edge labels.
structure SameBeneath (g h : Graph) : Prop where
  nodes : g.nodes.map Node.unlabeled = h.nodes.map Node.unlabeled
  edges : g.edges.map Edge.unlabeled = h.edges.map Edge.unlabeled

-- Two graphs that cannot be told apart by what is made of them. The chain comes with its notices, or is refused for
-- the same fault.
structure Indistinct (g h : Graph) : Prop where
  issues : ∀ catalog, g.issues catalog = h.issues catalog
  chain : ∀ name, g.toChain name = h.toChain name
  discarded : g.discarded.map Edge.id = h.discarded.map Edge.id
  entry : g.entry? = h.entry?
  displayIds : g.displayIds = h.displayIds

theorem SameBeneath.unlabeled {g h : Graph} (same : g.SameBeneath h) : g.unlabeled = h.unlabeled := by
  rw [Graph.unlabeled, Graph.unlabeled, same.nodes, same.edges]

theorem SameBeneath.indistinct {g h : Graph} (same : g.SameBeneath h) : g.Indistinct h where
  issues catalog := by rw [← issues_unlabeled, same.unlabeled, issues_unlabeled]
  chain name := by rw [← toChain_unlabeled, same.unlabeled, toChain_unlabeled]
  discarded := by
    have names : ∀ edges : List Edge, (edges.map Edge.unlabeled).map Edge.id = edges.map Edge.id := fun _ => List.map_map
    rw [← names g.discarded, ← discarded_unlabeled, same.unlabeled, discarded_unlabeled, names]
  entry := by rw [← entry?_unlabeled, same.unlabeled, entry?_unlabeled]
  displayIds := by rw [← displayIds_unlabeled, same.unlabeled, displayIds_unlabeled]

theorem relabel_beneath (g : Graph) : g.relabel.graph.SameBeneath g where
  nodes := by
    rw [relabel_eq, redraw, List.map_map]
    rfl
  edges := rfl

-- A graph that was labeled: nothing but display ids is another than before, those are the ones that the graph asks
-- for, the nodes that had another one are told in their order, and to label it again changes nothing.
structure Relabels (g : Graph) (r : Relabeled) : Prop where
  nodes : r.graph.nodes.map Node.unlabeled = g.nodes.map Node.unlabeled
  edges : r.graph.edges = g.edges
  labels : ∀ n ∈ r.graph.nodes, g.displayIds.find? n.id = some n.displayId
  changed : r.changed = (g.nodes.filter fun n => g.displayIds.find? n.id != some n.displayId).map Node.id
  settled : r.graph.relabel = ⟨r.graph, []⟩

theorem Fresh.unchanged {g : Graph} (fresh : g.Fresh) :
    (g.nodes.filter fun n => g.displayIds.find? n.id != some n.displayId) = [] := by
  rw [List.filter_eq_nil_iff]
  intro n mem
  simp [fresh n mem]

theorem relabel_changed (g : Graph) :
    g.relabel.changed = (g.nodes.filter fun n => g.displayIds.find? n.id != some n.displayId).map Node.id := by
  refine congrArg (List.map Node.id) (List.filter_congr fun n mem => ?_)
  have found : g.displayIds.find? n.id = some (g.labeled n).displayId := by
    have labeled : g.labeled n ∈ g.relabel.graph.nodes := mem_relabel.mpr ⟨n, mem, rfl⟩
    rw [← displayIds_relabel]
    exact find_label labeled
  rw [found, Bool.eq_iff_iff, bne_iff_ne, bne_iff_ne, ne_comm, Ne, Ne, Option.some.injEq]
  rfl

theorem relabel_relabels (g : Graph) : g.Relabels g.relabel where
  nodes := g.relabel_beneath.nodes
  edges := rfl
  labels n mem := by rw [← displayIds_relabel, find_label mem]
  changed := g.relabel_changed
  settled := by
    have labeled := relabel_labeled g
    have unchanged : g.relabel.graph.relabel.changed = [] := by
      rw [relabel_changed, labeled.fresh.unchanged]
      rfl
    calc g.relabel.graph.relabel
        = ⟨g.relabel.graph.relabel.graph, g.relabel.graph.relabel.changed⟩ := rfl
      _ = ⟨g.relabel.graph, []⟩ := by rw [labeled.relabel, unchanged]

end Graph

namespace Orchestrator

theorem relabel_relabel (o : Orchestrator) : o.relabel.relabel = o.relabel := by
  have graph : o.relabel.graph.relabel.graph = o.relabel.graph := (Graph.relabel_labeled o.graph).relabel
  rw [relabel, graph]

theorem toChain_relabel (o : Orchestrator) (workspaceId : Option String) :
    o.relabel.toChain workspaceId = o.toChain workspaceId := by
  have chain := o.graph.relabel_beneath.indistinct.chain o.name
  exact congrArg (Noted.map fun r => r.map fun c => { c with id := some o.id, workspaceId := workspaceId }) chain

theorem publish_relabel (o : Orchestrator) (number : Int) (catalog : Option Catalog) (now : String) :
    o.relabel.publish number catalog now = o.publish number catalog now := by
  have issues : o.relabel.graph.problems catalog = o.graph.problems catalog :=
    congrArg (List.map Issue.message) (o.graph.relabel_beneath.indistinct.issues catalog)
  rw [publish, publish, issues, relabel_relabel]
  rfl

-- Labeling before or after: it is neither seen in the issues nor in what is handed out or published.
structure Settles (o : Orchestrator) (labeled : Orchestrator) : Prop where
  frame : labeled = { o with graph := o.graph.relabel.graph }
  issues : ∀ catalog, labeled.graph.issues catalog = o.graph.issues catalog
  exported : ∀ workspaceId, labeled.toChain workspaceId = o.toChain workspaceId
  published : ∀ number catalog now, labeled.publish number catalog now = o.publish number catalog now

end Orchestrator

namespace Graph

-- An approval with both its branches, and a loop behind one of them.
def approval (label : String → Option String) : Graph :=
  let step (id : String) (details : Details) : Node := ⟨id, .origin, label id, ⟨id, 0, .minutes, details, []⟩⟩
  let edge (id source target : String) (handle : Option String) : Edge := ⟨id, source, target, handle, label id⟩
  { nodes := [step "ask" (.humanApproval ⟨"", "", 24⟩), step "yes" (.trigger ⟨"POST", "", none, none, false⟩),
      step "no" .delay]
    edges := [edge "e1" "ask" "yes" (some "approved"), edge "e2" "ask" "no" (some "rejected"),
      edge "e3" "no" "no" (some "later")] }

end Graph
end Orchestration
