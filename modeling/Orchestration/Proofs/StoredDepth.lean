import Orchestration.Proofs.Publication

namespace Orchestration

theorem Payload.encode_loaded (p : Payload Details) :
    p.loaded.encode = .obj (Keyed.erase (p.kind.form.handed p) "displayId") := by
  have finite : Json.membersFinite p.loaded.extras = true :=
    Json.membersFinite_iff.mpr fun kv mem =>
      Json.membersFinite_iff.mp (Json.finiteMembers_isFinite p.extras) kv (List.mem_filter.mp mem).1
  rw [erase_handed, encode_eq, kept_eq_self.mpr finite]

theorem Node.within_encode {n : Node} : Json.within 198 n.encode = true ↔ Json.within 197 n.payload.encode = true := by
  have place : Json.within 197 n.position.encode = true := by
    rw [Position.encode, Json.within_obj]
    simp [Json.within]
  rw [encode, Json.within_obj]
  simp [Json.within, Json.within_ofText, place]

namespace Graph

-- No payload lies deeper than it can be read.
def Shallow (g : Graph) : Prop := ∀ n ∈ g.nodes, n.payload.encode.within (Json.deepestStored - 3) = true

theorem shallow_loaded {g : Graph} (shallow : g.Shallow) : g.loaded.Shallow := by
  intro n mem
  obtain ⟨m, present, rfl⟩ := List.mem_map.mp mem
  have whole : Json.within (196 + 1) (.obj (m.kind.form.handed m.payload)) = true := shallow m present
  show Json.within (196 + 1) m.payload.loaded.encode = true
  rw [Json.within_obj] at whole
  rw [Payload.encode_loaded, Json.within_obj]
  exact fun kv mem => whole kv (List.mem_filter.mp mem).1

theorem shallow_relabel {g : Graph} : g.relabel.graph.Shallow ↔ g.Shallow := by
  simp [Shallow, relabel_eq, redraw, labeled]

theorem members_whole {g : Graph} : Json.membersHalf g.members = false ↔
    (∀ n ∈ g.nodes, n.encode.hasHalf = false) ∧ ∀ e ∈ g.edges, e.encode.hasHalf = false := by
  have keys : Text.hasHalf "nodes" = false ∧ Text.hasHalf "edges" = false := by decide
  simp [Json.membersHalf_eq_false, members, Json.hasHalf_arr, keys]

theorem whole_loaded {g : Graph} (whole : Json.membersHalf g.members = false) :
    Json.membersHalf g.loaded.members = false := by
  rw [members_whole] at whole ⊢
  refine ⟨fun n mem => ?_, whole.2⟩
  obtain ⟨m, present, rfl⟩ := List.mem_map.mp mem
  have before := Json.hasHalf_obj.mp (whole.1 m present)
  have data : (Json.obj (m.kind.form.handed m.payload)).hasHalf = false :=
    (before ("data", m.payload.encode) (by simp)).2
  rw [Json.hasHalf_obj] at data
  have loaded : m.loaded.payload.encode.hasHalf = false := by
    rw [show m.loaded.payload = m.payload.loaded from rfl, Payload.encode_loaded, Json.hasHalf_obj]
    exact fun kv mem => data kv (List.mem_filter.mp mem).1
  simp only [List.forall_mem_cons] at before
  rw [Node.encode, Json.hasHalf_obj]
  simp only [List.forall_mem_cons]
  exact ⟨before.1, before.2.1, before.2.2.1, before.2.2.2.1, ⟨before.2.2.2.2.1.1, loaded⟩, before.2.2.2.2.2⟩

theorem fits_of_shallow {g : Graph} (shallow : g.Shallow) (whole : Json.membersHalf g.members = false) :
    g.fits = true := by
  rw [fits, List.all_eq_true]
  intro n mem
  have down : Json.within 198 n.encode = true := Node.within_encode.mpr (shallow n mem)
  rw [Node.fits, Option.isNone_iff_eq_none]
  exact Json.faultWithin_of_within down ((members_whole.mp whole).1 n mem) (by decide)

end Graph

namespace Orchestrator

theorem within_encode {o : Orchestrator} : o.encode.within Json.deepestStored = true ↔ o.graph.Shallow := by
  have edge : ∀ e : Edge, Json.within 198 e.encode = true := fun e => by
    rw [Edge.encode, Json.within_obj]
    simp [Json.within, Json.within_ofText]
  have nodes : Json.within 199 (.arr (o.graph.nodes.map Node.encode)) = true ↔ o.graph.Shallow := by
    rw [Json.within_arr]
    simp [Node.within_encode, Graph.Shallow, Json.deepestStored]
  have edges : Json.within 199 (.arr (o.graph.edges.map Edge.encode)) = true := by
    rw [Json.within_arr]
    simp [edge]
  rw [encode, Json.deepestStored, Json.within_obj, members]
  simp only [List.forall_mem_append, Graph.members, List.forall_mem_cons, nodes, edges]
  simp [Json.within, Json.within_ofText, Json.within_ofInt]

-- An orchestrator that was written and can be read can be written again, brought up to date or not.
theorem writable_loaded {o : Orchestrator} (writable : o.isWritable = true) (shallow : o.graph.Shallow)
    (health : Health) (last : (Json.ofText? health.lastExecution).hasHalf = false) :
    ({ o.loaded with health := health } : Orchestrator).isWritable = true := by
  obtain ⟨graph, id, name, description, _, created, updated⟩ := whole_encode.mp (isWritable_iff.mp writable).2
  have loaded := Graph.whole_loaded graph
  refine isWritable_iff.mpr ⟨Graph.fits_of_shallow (Graph.shallow_loaded shallow) loaded, ?_⟩
  exact whole_encode.mpr ⟨loaded, id, name, description, last, created, updated⟩

end Orchestrator

end Orchestration
