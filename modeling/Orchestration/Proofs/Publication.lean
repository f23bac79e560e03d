import Orchestration.Proofs.ChainDocument
import Orchestration.Proofs.Executable
import Orchestration.Proofs.Requests
import Orchestration.Proofs.StructureLabels

namespace Orchestration

namespace Graph

-- The node with the label that the graph gives to it.
def labeled (g : Graph) (n : Node) : Node :=
  { n with displayId := (g.walk.claimed.find? n.id).map DisplayId.text }

theorem relabel_eq (g : Graph) : g.relabel.graph = g.redraw g.labeled := rfl

theorem displayIds_relabel (g : Graph) : g.relabel.graph.displayIds = g.displayIds :=
  displayIds_redraw (f := g.labeled) (fun _ => rfl) (fun _ => rfl) g

theorem mem_relabel {g : Graph} {m : Node} : m ∈ g.relabel.graph.nodes ↔ ∃ n ∈ g.nodes, g.labeled n = m := by
  rw [relabel_eq, redraw, List.mem_map]

theorem find_label {g : Graph} {n : Node} (mem : n ∈ g.relabel.graph.nodes) :
    g.relabel.graph.displayIds.find? n.id = some n.displayId := by
  rw [displayIds_relabel]
  obtain ⟨m, among, rfl⟩ := mem_relabel.mp mem
  have known : g.hasNode m.id = true := hasNode_of_mem among
  exact Keyed.find?_of_mem (g.keys_displayIds ▸ g.ids_nodup) (mem_displayIds.mpr ⟨known, rfl⟩)

-- What can be executed is a matter of ids, payloads and edges.
theorem executable_redraw {g : Graph} {f : Node → Node} {catalog : Option Catalog} (ids : ∀ n, (f n).id = n.id)
    (payloads : ∀ n, (f n).payload = n.payload) : (g.redraw f).Executable catalog ↔ g.Executable catalog := by
  have names : (g.redraw f).nodes.map Node.id = g.nodes.map Node.id := by
    simp [redraw, Function.comp_def, ids]
  have some : ∀ p : Node → Prop, (∃ m ∈ (g.redraw f).nodes, p m) ↔ ∃ n ∈ g.nodes, p (f n) := by simp [redraw]
  have all : ∀ p : Node → Prop, (∀ m ∈ (g.redraw f).nodes, p m) ↔ ∀ n ∈ g.nodes, p (f n) := by simp [redraw]
  have inhabited : (g.redraw f).nodes ≠ [] ↔ g.nodes ≠ [] := by simp [redraw]
  constructor
  · intro h
    have sources := fun e mem => (some _).mp (h.sources e mem)
    have targets := fun e mem => (some _).mp (h.targets e mem)
    have delays := (all _).mp h.delays
    have ready := (all _).mp h.ready
    simp only [ids, payloads] at sources targets delays ready
    exact ⟨inhabited.mp h.inhabited, names ▸ h.nodeIds, h.edgeIds, delays, ready, sources, targets⟩
  · intro h
    refine ⟨inhabited.mpr h.inhabited, names ▸ h.nodeIds, h.edgeIds, (all _).mpr ?_, (all _).mpr ?_,
      fun e mem => (some _).mpr ?_, fun e mem => (some _).mpr ?_⟩
    · simpa only [payloads] using h.delays
    · simpa only [payloads] using h.ready
    · simpa only [ids, payloads] using h.sources e mem
    · simpa only [ids] using h.targets e mem

theorem executable_relabel {g : Graph} {catalog : Option Catalog} :
    g.relabel.graph.Executable catalog ↔ g.Executable catalog :=
  executable_redraw (f := g.labeled) (fun _ => rfl) (fun _ => rfl)

theorem problems_eq_nil {g : Graph} {catalog : Option Catalog} :
    g.problems catalog = [] ↔ g.Executable catalog := by
  rw [problems, List.map_eq_nil_iff, ← canPublish_iff]
  exact canPublish_iff_executable g catalog

-- All payloads can be handed out.
def Handable (g : Graph) : Prop := ∀ n ∈ g.nodes, n.payload.dumpFault? = none

theorem handable_relabel {g : Graph} : g.relabel.graph.Handable ↔ g.Handable := by
  simp [Handable, relabel_eq, redraw, labeled]

theorem Handable.copyable {g : Graph} (handable : g.Handable) : g.isCopyable = true := by
  rw [isCopyable, List.all_eq_true]
  intro n mem
  have handed : Json.faultWithin (252 + 4) n.payload.encode = none := Payload.faultWithin_encode.mpr (handable n mem)
  exact Json.within_of_faultWithin handed (by decide)

theorem mem_actions {g : Graph} (distinct : (g.nodes.map Node.id).Nodup) {key : String} {a : Action} :
    (key, a) ∈ (g.compile name).actions ↔ ∃ n ∈ g.nodes, n.id = key ∧ g.action n = a := by
  rw [actions_of_distinct distinct name, List.mem_map]
  simp only [Prod.mk.injEq]

-- Where no edge leads nowhere and every handle resolves, no pointer does either.
theorem Executable.pointer {g : Graph} (executable : g.Executable catalog) {n : Node} (mem : n ∈ g.nodes)
    (next : (g.action n).nextAction = some target) :
    target ∈ g.nodes.map Node.id ∧ n.payload.details.Resolves (g.action n).nextHandle := by
  obtain ⟨e, chosen, rfl⟩ := Option.map_eq_some_iff.mp (show (g.chosen? n.id).map Edge.target = some target from next)
  have edge := List.mem_of_find?_eq_some chosen
  have leaves : e.source = n.id := by simpa using List.find?_some chosen
  obtain ⟨m, mem', same, resolves⟩ := executable.sources e edge
  cases eq_of_id_eq executable.nodeIds mem mem' (leaves.symm.trans same.symm)
  have handle : (g.action n).nextHandle = e.sourceHandle := by simp [action, chosen]
  exact ⟨List.mem_map.mpr (executable.targets e edge), handle ▸ resolves⟩

theorem Executable.entry {g : Graph} (executable : g.Executable catalog) :
    ∃ n ∈ g.nodes, g.entry? = some n.id := by
  unfold entry?
  split
  · exact ⟨_, List.mem_of_find?_eq_some ‹_›, rfl⟩
  · obtain ⟨n, rest, nodes⟩ := List.exists_cons_of_ne_nil executable.inhabited
    exact ⟨n, nodes ▸ List.mem_cons_self, by rw [nodes]; rfl⟩

end Graph

namespace Orchestrator

-- What publishing asks for.
structure Publishable (o : Orchestrator) (catalog : Option Catalog) : Prop where
  active : o.status ≠ .archived
  valid : o.graph.problems catalog = []
  handable : o.graph.Handable

-- The version is the labeled graph of what was published, valid, labeled as its own graph asks and with
-- the chain that its own graph compiles to; that chain has one action a node, starts at one of them, and
-- leads on to one of them through a handle of the node it leaves. Nothing else has changed.
structure SelfConsistent (o : Orchestrator) (number : Int) (catalog : Option Catalog) (now : String)
    (p : Publication) : Prop where
  graph : p.version.graph = p.orchestrator.graph
  valid : p.version.graph.problems catalog = []
  labels : ∀ n ∈ p.version.graph.nodes, p.version.graph.displayIds.find? n.id = some n.displayId
  chain : ({ o with graph := p.version.graph }.toChain none).value = .ok p.version.chain
  keys : p.version.chain.actions.map (·.1) = p.version.graph.nodes.map Node.id
  first : ∃ n ∈ p.version.graph.nodes, p.version.chain.firstAction = some n.id
  next : ∀ key a target, (key, a) ∈ p.version.chain.actions → a.nextAction = some target →
    target ∈ p.version.graph.nodes.map Node.id ∧
      ∃ n ∈ p.version.graph.nodes, n.id = key ∧ n.payload.details.Resolves a.nextHandle
  nodes : p.orchestrator.graph.nodes.map Node.unlabeled = o.graph.nodes.map Node.unlabeled
  edges : p.orchestrator.graph.edges = o.graph.edges
  frame : p.orchestrator = { o with
    graph := p.orchestrator.graph, status := .published, publishedVersion := some number, updatedAt := some now }

variable {o : Orchestrator} {number : Int} {catalog : Option Catalog} {now : String}

theorem publish_archived (archived : o.status = .archived) :
    (o.publish number catalog now).value = .error (.publishArchived o.id) := by
  rw [publish, if_pos archived]
  rfl

theorem publish_invalid (active : o.status ≠ .archived) (invalid : o.graph.problems catalog ≠ []) :
    (o.publish number catalog now).value = .error (.publishInvalid o.id (o.graph.problems catalog)) := by
  rw [publish, if_neg active]
  simp only [List.isEmpty_eq_false_iff.mpr invalid, Bool.false_eq_true, if_false]
  rfl

-- What is published in the end.
def published (o : Orchestrator) (number : Int) (now : String) : Publication :=
  ⟨{ o.relabel with status := .published, publishedVersion := some number, updatedAt := some now },
    o.relabel.takeVersion number (o.relabel.compiled none) now⟩

theorem publish_publishable (publishable : o.Publishable catalog) :
    (o.publish number catalog now).value = .ok (o.published number now) := by
  have handable : o.relabel.graph.Handable := Graph.handable_relabel.mpr publishable.handable
  have compiled := toChain_eq o.relabel none handable
  rw [publish, if_neg publishable.active]
  simp only [publishable.valid, List.isEmpty_nil, handable.copyable, Bool.not_true, Bool.false_eq_true, if_false,
    if_true, Noted.bind, compiled]
  rfl

theorem publish_unhandable (active : o.status ≠ .archived) (valid : o.graph.problems catalog = [])
    (unhandable : ¬ o.graph.Handable) :
    (o.publish number catalog now).value = .error .notCopied ∨
      ∃ fault, (o.publish number catalog now).value = .error (.notCompiled fault) := by
  rw [publish, if_neg active]
  simp only [valid, List.isEmpty_nil, if_true]
  split
  · exact Or.inl rfl
  · refine Or.inr ?_
    cases made : (o.relabel.toChain none).value with
    | error fault => exact ⟨fault, by simp [Noted.bind, made, Noted.quiet]⟩
    | ok chain => exact absurd (Graph.handable_relabel.mp (written_of_toChain made).1) unhandable

theorem published_selfConsistent (publishable : o.Publishable catalog) :
    o.SelfConsistent number catalog now (o.published number now) := by
  have executable : o.graph.relabel.graph.Executable catalog :=
    Graph.executable_relabel.mpr (Graph.problems_eq_nil.mp publishable.valid)
  refine ⟨rfl, Graph.problems_eq_nil.mpr executable, fun n mem => ?_, ?_, ?_, executable.entry, ?_, ?_, rfl, rfl⟩
  · exact Graph.find_label mem
  · exact toChain_eq o.relabel none (Graph.handable_relabel.mpr publishable.handable)
  · change (o.graph.relabel.graph.compile o.name).actions.map (·.1) = o.graph.relabel.graph.nodes.map Node.id
    rw [Graph.actions_of_distinct executable.nodeIds, List.map_map]
    rfl
  · intro key a target mem next
    have mem : (key, a) ∈ (o.graph.relabel.graph.compile o.name).actions := mem
    obtain ⟨n, node, rfl, rfl⟩ := (Graph.mem_actions executable.nodeIds).mp mem
    obtain ⟨known, resolves⟩ := executable.pointer node next
    exact ⟨known, n, node, rfl, resolves⟩
  · change o.graph.relabel.graph.nodes.map Node.unlabeled = o.graph.nodes.map Node.unlabeled
    rw [Graph.relabel_eq, Graph.redraw, List.map_map]
    rfl

theorem publishable_of_publish {p : Publication} (done : (o.publish number catalog now).value = .ok p) :
    o.Publishable catalog := by
  by_cases archived : o.status = .archived
  · rw [publish_archived archived] at done
    cases done
  by_cases valid : o.graph.problems catalog = []
  · by_cases handable : o.graph.Handable
    · exact ⟨archived, valid, handable⟩
    · rcases publish_unhandable archived valid handable with copied | ⟨fault, compiled⟩
      · rw [copied] at done
        cases done
      · rw [compiled] at done
        cases done
  · rw [publish_invalid archived valid] at done
    cases done

-- A delay that may be published but for what it carries along.
def laden : Orchestrator := draft "o" "Laden" (.laden (.nested 255))

end Orchestrator

end Orchestration
