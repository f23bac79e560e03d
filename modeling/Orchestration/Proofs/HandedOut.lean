import Orchestration.Flow
import Orchestration.Proofs.Levels
import Orchestration.Proofs.ReadBack

namespace Orchestration

theorem Rule.faultWithin_encode (levels : Nat) (r : Rule) : Json.faultWithin (levels + 2) r.encode = none := by
  have keys : ∀ key ∈ ["id", "label", "field", "operator", "value"], Text.hasHalf key = false := by decide
  rw [encode, Json.faultWithin_obj]
  simpa [members] using keys

theorem Position.faultWithin_encode (levels : Nat) (p : Position) :
    Json.faultWithin (levels + 2) p.encode = none := by
  have keys : ∀ key ∈ ["x", "y"], Text.hasHalf key = false := by decide
  rw [encode, Json.faultWithin_obj]
  simpa using keys

theorem Details.write_fault (d : Details) (levels : Nat) :
    ∀ kv ∈ d.write, Json.faultWithin (levels + 3) kv.2 = none := by
  cases d with
  | conditional d =>
    have rules : Json.faultWithin (levels + 3) (.arr (d.rules.map Rule.encode)) = none := by
      rw [Json.faultWithin_arr, List.forall_mem_map]
      exact fun r _ => r.faultWithin_encode levels
    simpa [write, Conditional.write] using rules
  | notification d => simp [write, Notification.write, Json.faultWithin_texts]
  | trigger d => simp [write, Trigger.write]
  | startFlow d => simp [write, StartFlow.write]
  | humanApproval d => simp [write, HumanApproval.write]
  | tagMutation d => simp [write, TagMutation.write]
  | delay => simp [write]
  | registerEmployee d => simp [write, RegisterEmployee.write]
  | systemUpdate d => simp [write, SystemUpdate.write]
  | csvUpload d => simp [write, CsvUpload.write]
  | triggerWorkflow d => simp [write, TriggerWorkflow.write]

namespace Payload

variable {levels : Nat}

theorem own_fault (p : Payload Details) : Json.membersFault (levels + 3) p.own = none := by
  rw [Json.membersFault_none]
  intro kv mem
  refine ⟨?_, ?_⟩
  · obtain ⟨f, field, same⟩ := own_wire mem
    rw [← same]
    exact p.kind.wires_whole f field
  · rcases List.mem_append.mp mem with base | detail
    · simp only [List.mem_cons, List.not_mem_nil, or_false] at base
      rcases base with rfl | rfl | rfl <;> rfl
    · exact p.details.write_fault levels kv detail

theorem handed_fault {p : Payload Details} : Json.membersFault (levels + 3) (p.kind.form.handed p) = none ↔
    Json.membersFault (levels + 3) p.extras = none := by
  have parts : p.kind.form.handed p = p.own ++ Json.finiteMembers p.extras := p.kept.members_eq
  rw [parts, Json.membersFault_append, Json.membersFault_finite, and_iff_right p.own_fault]

theorem handed_loose {p : Payload Details} : Json.looseFaults? (p.kind.form.handed p) = none ↔ p.dumpFault? = none :=
  handed_fault

theorem faultWithin_encode {p : Payload Details} : Json.faultWithin (levels + 4) p.encode = none ↔
    Json.membersFault (levels + 3) p.extras = none :=
  handed_fault

end Payload

theorem Node.faultWithin_encode {n : Node} : Json.faultWithin (levels + 5) n.encode = none ↔
    Json.membersFault (levels + 3) n.payload.extras = none := by
  have keys : ∀ key ∈ ["id", "position", "displayId", "kind", "data"], Text.hasHalf key = false := by decide
  simp only [List.forall_mem_cons] at keys
  rw [encode, Json.faultWithin_obj]
  simp [keys, Position.faultWithin_encode, Payload.faultWithin_encode]

theorem Edge.faultWithin_encode (levels : Nat) (e : Edge) : Json.faultWithin (levels + 2) e.encode = none := by
  have keys : ∀ key ∈ ["id", "source", "target", "sourceHandle", "label"], Text.hasHalf key = false := by decide
  rw [encode, Json.faultWithin_obj]
  simpa using keys

namespace Graph

theorem dumpFault_none {g : Graph} : g.dumpFault? = none ↔ ∀ n ∈ g.nodes, n.payload.dumpFault? = none :=
  List.findSome?_eq_none_iff

theorem membersFault_members {g : Graph} : Json.membersFault (levels + 6) g.members = none ↔
    ∀ n ∈ g.nodes, Json.membersFault (levels + 3) n.payload.extras = none := by
  have keys : Text.hasHalf "nodes" = false ∧ Text.hasHalf "edges" = false := by decide
  rw [Json.membersFault_none, members]
  simp [keys, Json.faultWithin_arr, Node.faultWithin_encode, Edge.faultWithin_encode]

end Graph

-- A node is written as a whole, with two levels above what its payload carries along.
theorem Graph.fits_iff {g : Graph} : g.fits = true ↔
    ∀ n ∈ g.nodes, Json.membersFault (Json.deepestDump - 2) n.payload.extras = none := by
  have node : ∀ n : Node, n.fits = true ↔ Json.membersFault 253 n.payload.extras = none := fun n =>
    Option.isNone_iff_eq_none.trans Node.faultWithin_encode
  simp [fits, node, Json.deepestDump]

theorem Graph.dumpFault_of_fits {g : Graph} (fits : g.fits = true) : g.dumpFault? = none :=
  dumpFault_none.mpr fun n mem => Json.membersFault_mono (fits_iff.mp fits n mem) (by decide)

-- Four levels of the document of a flow lie above what a payload carries along.
theorem Flow.faultWithin_encode {f : Flow} (handed : f.dumpFault? = none) :
    Json.faultWithin (Json.deepestDump + 4) f.encode = none := by
  have graph : Json.membersFault (252 + 6) f.toGraph.members = none :=
    Graph.membersFault_members.mpr (Graph.dumpFault_none.mp handed)
  cases f with
  | graph g => exact graph
  | orchestrator o =>
    have keys : ∀ key ∈ ["id", "name", "description", "status", "executionHealth", "errorCount", "lastExecution",
        "publishedVersion", "createdAt", "updatedAt"], Text.hasHalf key = false := by decide
    show Json.membersFault (252 + 6) o.members = none
    rw [Orchestrator.members, Json.membersFault_append]
    refine ⟨graph, ?_⟩
    rw [Json.membersFault_none]
    simpa using keys

theorem Orchestrator.whole_encode {o : Orchestrator} : o.encode.hasHalf = false ↔
    Json.membersHalf o.graph.members = false ∧ Text.hasHalf o.id = false ∧ Text.hasHalf o.name = false ∧
      Text.hasHalf o.description = false ∧ (Json.ofText? o.health.lastExecution).hasHalf = false ∧
      (Json.ofText? o.createdAt).hasHalf = false ∧ (Json.ofText? o.updatedAt).hasHalf = false := by
  have keys : ∀ key ∈ ["id", "name", "description", "status", "executionHealth", "errorCount", "lastExecution",
      "publishedVersion", "createdAt", "updatedAt"], Text.hasHalf key = false := by decide
  have status : Text.hasHalf o.status.tag = false := by cases o.status <;> decide
  have number : (Json.ofInt? o.publishedVersion).hasHalf = false := by cases o.publishedVersion <;> rfl
  simp only [List.forall_mem_cons] at keys
  rw [encode, Json.hasHalf_obj, members, List.forall_mem_append, ← Json.membersHalf_eq_false]
  simp [Json.hasHalf, keys, status, number]

theorem Orchestrator.isWritable_iff {o : Orchestrator} :
    o.isWritable = true ↔ o.graph.fits = true ∧ o.encode.hasHalf = false := by
  simp [isWritable]

theorem Version.isWritable_parts {v : Version} (writable : v.isWritable = true) :
    v.graph.fits = true ∧ v.encode.hasHalf = false := by
  simp only [isWritable, Bool.and_eq_true, Bool.not_eq_true'] at writable
  exact ⟨writable.1.1, writable.2⟩

theorem Version.whole_parts {v : Version} (whole : v.encode.hasHalf = false) :
    Json.membersHalf v.graph.members = false ∧ Text.hasHalf v.createdAt = false := by
  rw [encode, Json.hasHalf_obj, List.forall_mem_append, List.forall_mem_append] at whole
  obtain ⟨⟨_, graph⟩, rest⟩ := whole
  exact ⟨Json.membersHalf_eq_false.mpr graph, (rest ("createdAt", .str v.createdAt) (by simp)).2⟩

end Orchestration
