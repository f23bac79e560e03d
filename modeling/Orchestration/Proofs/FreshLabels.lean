import Orchestration.Proofs.StoredRecords

namespace Orchestration

namespace Graph

-- The nodes carry the labels that are computed of the graph.
def Fresh (g : Graph) : Prop := ∀ n ∈ g.nodes, g.displayIds.find? n.id = some n.displayId

theorem Labeled.fresh {g : Graph} (labeled : g.Labeled) : g.Fresh := by
  intro n mem
  have found := find_label (g := g) (n := n) (by rwa [labeled.relabel])
  rwa [labeled.relabel] at found

end Graph

namespace Service

-- Labels under ids, and the nodes of an orchestrator, both as they are served.
structure Agree (labels : Members) (nodes : List Json) : Prop where
  each : ∀ v ∈ nodes, ∃ (m : Members) (id : String) (label : Json), v = .obj m ∧
    m.find? "id" = some (.str id) ∧ m.find? "displayId" = some label ∧ labels.find? id = some label
  only : ∀ kv ∈ labels, ∃ m : Members, .obj m ∈ nodes ∧ m.find? "id" = some (.str kv.1)

theorem agree_of_fresh {g : Graph} (fresh : g.Fresh) :
    Agree (g.displayIds.map fun (id, label) => (id, .ofText? label)) (g.nodes.map Node.encode) where
  each := by
    intro v mem
    obtain ⟨n, node, rfl⟩ := List.mem_map.mp mem
    exact ⟨_, n.id, .ofText? n.displayId, rfl, rfl, rfl, Keyed.find?_map (fresh n node)⟩
  only := by
    intro kv mem
    obtain ⟨⟨id, label⟩, among, rfl⟩ := List.mem_map.mp mem
    obtain ⟨n, node, rfl⟩ := (g.hasNode_iff id).mp (Graph.mem_displayIds.mp among).1
    exact ⟨_, List.mem_map_of_mem node, rfl⟩

theorem handle_labels (asks : Asks r (.labels key)) (c : Surroundings) (t : Tables) :
    handle c r t = (labels c key t, t) := by
  rw [handle_asks asks]
  simp [serve, write?, read?, asks.1]

-- Whatever requests came before, and whatever labels were sent along.
theorem stored_labels_fresh (reached : Reached past t) (mem : row ∈ t.records)
    (read : Tables.read? (Orchestrator.decode .document) row.document s = some (l, w)) :
    l.graph.Fresh ∧ ∀ c d r q, Asks r (.labels row.id) → Asks q (.orchestrator row.id) →
      ∃ (labels : Members) (record : Members) (nodes : List Json),
        handle c r t = (.answer 200 (.obj labels), t) ∧ handle d q t = (.answer 200 (.obj record), t) ∧
        record.find? "nodes" = some (.arr nodes) ∧ Agree labels nodes := by
  obtain ⟨inStep, _⟩ := reached_inStep reached
  obtain ⟨gives, rfl⟩ := (reached_sound reached).gives mem read
  have fresh := gives.sound.labeled.fresh
  have found := find_of_read inStep mem read
  refine ⟨fresh, fun c d r q asks other => ⟨_, l.members, _, ?_, ?_, rfl, agree_of_fresh fresh⟩⟩
  · rw [handle_labels asks, labels, found]
    have finite := Json.finiteMembers_written (m := l.graph.displayIds) fun kv _ => Json.finiteOnly_ofText kv.2
    exact congrArg (fun labels => (Reply.answer 200 (.obj labels), t)) finite
  · rw [handle_get other, get, found]
    exact congrArg (fun body => (Reply.answer 200 body, t))
      (Orchestrator.encode_finite (Graph.placed_of_plain gives.plain) gives.sound.score)

-- A draft that comes with labels of its own. One of its steps comes twice, and no root leads to another one.
def mislabeled : Tables :=
  let step (id kind label : String) : Json :=
    .obj [("id", .str id), ("kind", .str kind), ("displayId", .str label)]
  let edge (id source target : String) : Json :=
    .obj [("id", .str id), ("source", .str source), ("target", .str target)]
  let nodes : Json := .arr [step "start" "trigger" "Z9", step "twin" "delay" "A1", step "twin" "delay" "B7",
    step "lost" "delay" "A1"]
  let edges : Json := .arr [edge "e" "start" "twin", edge "f" "lost" "lost"]
  (handle (visit 'a') (sent "/api/orchestrators"
    (.obj [("name", .str "Leave"), ("nodes", nodes), ("edges", edges)])) .empty).2

theorem mislabeled_reached : Reached [(visit 'a').supply] mislabeled :=
  .step .start (visit 'a') _ fun _ mem => absurd mem List.not_mem_nil

theorem mislabeled_fresh : ∃ row ∈ mislabeled.records, ∃ l w,
    Tables.read? (Orchestrator.decode .document) row.document (visit 'b').supply = some (l, w) ∧ l.graph.Fresh ∧
    ∃ (labels : Members) (record : Members) (nodes : List Json),
      handle (visit 'b') (asking "/api/orchestrators/ax/labels") mislabeled = (.answer 200 (.obj labels), mislabeled) ∧
      handle (visit 'c') (asking "/api/orchestrators/ax") mislabeled = (.answer 200 (.obj record), mislabeled) ∧
      record.find? "nodes" = some (.arr nodes) ∧ Agree labels nodes := by
  have loadable : ∃ row ∈ mislabeled.records, row.id = "ax" ∧
      (Tables.read? (Orchestrator.decode .document) row.document (visit 'b').supply).isSome = true := by decide +kernel
  obtain ⟨row, mem, key, some⟩ := loadable
  obtain ⟨⟨l, w⟩, read⟩ := Option.isSome_iff_exists.mp some
  obtain ⟨fresh, served⟩ := stored_labels_fresh mislabeled_reached mem read
  exact ⟨row, mem, l, w, read, fresh,
    served _ _ _ _ (key ▸ ⟨rfl, by decide +kernel⟩) (key ▸ ⟨rfl, by decide +kernel⟩)⟩

end Service
end Orchestration
