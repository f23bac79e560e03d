import Orchestration.Proofs.ConventionalIds

namespace Orchestration.Graph

-- The first edge to leave its source, as a chain keeps it. No two edges are equal where no two have one id.
def leads (g : Graph) (e : Edge) : Bool := (g.outgoing e.source).head? == some e

-- The edges that no chain holds and no report names.
def unreported (g : Graph) : List Edge := g.edges.filter fun e => g.leads e && e.target == ""

variable {g : Graph} {catalog : Option Catalog}

theorem leads_iff {before after : List Edge} (edges : g.edges = before ++ e :: after) (distinct : g.edges.Nodup) :
    g.leads e = true ↔ e.source ∉ before.map Edge.source := by
  have leaving : g.outgoing e.source = before.filter (·.source == e.source) ++ e :: after.filter (·.source == e.source) := by
    simp [outgoing, edges]
  rw [leads, leaving, beq_iff_eq]
  cases earlier : before.filter (·.source == e.source) with
  | nil =>
    have none := List.filter_eq_nil_iff.mp earlier
    simp only [List.nil_append, List.head?_cons, true_iff]
    intro among
    obtain ⟨f, mem, same⟩ := List.mem_map.mp among
    exact none f mem (beq_iff_eq.mpr same)
  | cons f rest =>
    have first : f ∈ before.filter (·.source == e.source) := earlier ▸ List.mem_cons_self
    obtain ⟨mem, same⟩ := List.mem_filter.mp first
    have other : f ≠ e := by
      rintro rfl
      rw [edges] at distinct
      exact (List.nodup_append.mp distinct).2.2 f mem f List.mem_cons_self rfl
    have left : e.source ∈ before.map Edge.source := List.mem_map.mpr ⟨f, mem, eq_of_beq same⟩
    simp [other, left]

-- The induction is on the edges that are still to be looked at, the sources of the others being left.
theorem discardedFrom_eq {left : List String} {before after : List Edge} (edges : g.edges = before ++ after)
    (distinct : g.edges.Nodup) (joined : ∀ e ∈ g.edges, g.hasNode e.source = true)
    (seen : ∀ key, key ∈ left ↔ key ∈ before.map Edge.source) :
    g.discardedFrom left after = after.filter fun e => !g.leads e := by
  induction after generalizing left before with
  | nil => rfl
  | cons e after ih =>
    have known := joined e (edges ▸ List.mem_append_right before List.mem_cons_self)
    have first := leads_iff edges distinct
    have rest : g.edges = (before ++ [e]) ++ after := by rw [edges, List.append_assoc, List.singleton_append]
    rw [discardedFrom, List.filter_cons]
    by_cases behind : e.source ∈ left
    · have follows : g.leads e = false := by
        rw [← Bool.not_eq_true, first, not_not, ← seen]
        exact behind
      have again : ∀ key, key ∈ left ↔ key ∈ (before ++ [e]).map Edge.source := by
        intro key
        rw [List.map_append, List.mem_append, ← seen, List.map_singleton, List.mem_singleton]
        exact ⟨.inl, fun either => either.elim id fun same => same ▸ behind⟩
      simp only [List.contains_eq_mem, behind, decide_true, known, if_true, follows, Bool.not_false]
      rw [ih rest again]
    · have ahead : g.leads e = true := first.mpr fun among => behind ((seen _).mpr among)
      have grown : ∀ key, key ∈ e.source :: left ↔ key ∈ (before ++ [e]).map Edge.source := by
        intro key
        rw [List.map_append, List.mem_append, ← seen, List.map_singleton, List.mem_singleton, List.mem_cons, or_comm]
      simp only [List.contains_eq_mem, behind, decide_false, Bool.false_eq_true, if_false, ahead, Bool.not_true]
      exact ih rest grown

theorem Executable.edges_distinct (executable : g.Executable catalog) : g.edges.Nodup :=
  List.Nodup.of_map _ executable.edgeIds

theorem Executable.discarded_eq (executable : g.Executable catalog) :
    g.discarded = g.edges.filter fun e => !g.leads e := by
  have joined : ∀ e ∈ g.edges, g.hasNode e.source = true := by
    intro e mem
    obtain ⟨n, present, same, _⟩ := executable.sources e mem
    exact (g.hasNode_iff _).mpr ⟨n, present, same⟩
  have none : ∀ key : String, key ∈ [] ↔ key ∈ ([] : List Edge).map Edge.source := by simp
  exact discardedFrom_eq rfl executable.edges_distinct joined none

-- What a pointer tells of is the first edge to leave a node, unless it leads to the empty id.
theorem Executable.mem_pointed (executable : g.Executable catalog) :
    e ∈ g.nodes.filterMap g.pointed ↔ e ∈ g.edges ∧ (g.leads e && e.target != "") = true := by
  rw [List.mem_filterMap, Bool.and_eq_true, leads, beq_iff_eq]
  constructor
  · intro ⟨n, _, pointed⟩
    obtain ⟨survives, named⟩ := Option.filter_eq_some_iff.mp pointed
    obtain ⟨first, _⟩ := Option.filter_eq_some_iff.mp survives
    exact ⟨(pointed_parts pointed).1, (source_of_outgoing first).symm ▸ first, named⟩
  · intro ⟨mem, first, named⟩
    obtain ⟨n, present, same, _⟩ := executable.sources e mem
    refine ⟨n, present, Option.filter_eq_some_iff.mpr ⟨Option.filter_eq_some_iff.mpr ⟨same ▸ first, ?_⟩, named⟩⟩
    exact (g.hasNode_iff _).mpr (executable.targets e mem)

theorem Executable.pointed_perm (executable : g.Executable catalog) :
    (g.nodes.filterMap g.pointed).Perm (g.edges.filter fun e => g.leads e && e.target != "") := by
  have sources : ∀ n e, g.pointed n = some e → e.source = n.id := fun _ _ pointed => (pointed_parts pointed).2.1
  have distinct : (g.nodes.filterMap g.pointed).Nodup := by
    rw [List.Nodup, List.pairwise_filterMap]
    refine (List.pairwise_map.mp executable.nodeIds).imp ?_
    rintro m n apart e first f second rfl
    exact apart ((sources m e first).symm.trans (sources n e second))
  refine (List.perm_ext_iff_of_nodup distinct (executable.edges_distinct.filter _)).mpr fun e => ?_
  rw [executable.mem_pointed, List.mem_filter]

theorem course_rebuilt (g : Graph) :
    g.rebuilt.edges.map Edge.course = (g.nodes.filterMap g.pointed).map Edge.course := by
  rw [rebuilt, List.map_filterMap, List.map_filterMap]
  refine List.filterMap_congr fun n _ => ?_
  cases pointed : g.pointed n with
  | none => rfl
  | some e => simp [course_pointerEdge (Option.filter_eq_some_iff.mp pointed).1]

-- The edges fall apart into those that are kept, those that are reported and those that are neither.
theorem Executable.edges_shared (executable : g.Executable catalog) :
    (g.nodes.filterMap g.pointed ++ g.discarded ++ g.unreported).Perm g.edges := by
  have ahead : (g.nodes.filterMap g.pointed ++ g.unreported).Perm (g.edges.filter g.leads) := by
    have parts := List.filter_append_perm (fun e => e.target != "") (g.edges.filter g.leads)
    rw [List.filter_filter, List.filter_filter] at parts
    refine ((executable.pointed_perm.append_right _).trans ?_).trans parts
    simp [unreported, Bool.and_comm, bne]
  have swapped : (g.nodes.filterMap g.pointed ++ g.discarded ++ g.unreported).Perm
      (g.nodes.filterMap g.pointed ++ g.unreported ++ g.discarded) := by
    rw [List.append_assoc, List.append_assoc]
    exact List.perm_append_comm.append_left _
  refine (swapped.trans (ahead.append_right _)).trans ?_
  rw [executable.discarded_eq]
  exact List.filter_append_perm _ _

-- Of a workflow that can be published every edge is rebuilt or reported, but for those that lead to the empty
-- id; and reported is, in their order, what is not the first to leave its source.
theorem edges_accounted (valid : g.Validated) (publishable : g.canPublish catalog = true) :
    ((∃ h, g.Becomes h) ↔ g.Handable) ∧
    g.discarded = g.edges.filter (fun e => !g.leads e) ∧
    (∀ h, g.Becomes h →
      (h.edges.map Edge.course ++ g.discarded.map Edge.course ++ g.unreported.map Edge.course).Perm
        (g.edges.map Edge.course) ∧
      ((h.edges.map Edge.course ++ g.discarded.map Edge.course).Perm (g.edges.map Edge.course) ↔
        ∀ e ∈ g.edges, g.leads e = true → e.target ≠ "")) ∧
    ((∀ n ∈ g.nodes, n.id ≠ "") → ∀ e ∈ g.edges, e.target ≠ "") := by
  have executable := (canPublish_iff_executable g catalog).mp publishable
  have becomes := fun h => becomes_iff (h := h) valid executable.nodeIds
  refine ⟨⟨?_, fun handable => ⟨_, (becomes _).mpr ⟨handable, rfl⟩⟩⟩, executable.discarded_eq, ?_, ?_⟩
  · intro ⟨h, done⟩
    exact ((becomes h).mp done).1
  · intro h done
    obtain ⟨_, rfl⟩ := (becomes h).mp done
    have shared := executable.edges_shared.map Edge.course
    rw [List.map_append, List.map_append, ← course_rebuilt] at shared
    refine ⟨shared, ?_⟩
    have none : (∀ e ∈ g.edges, g.leads e = true → e.target ≠ "") ↔ g.unreported = [] := by
      simp [unreported, List.filter_eq_nil_iff]
    rw [none]
    constructor
    · intro whole
      have lengths := (shared.trans whole.symm).length_eq
      simpa using lengths
    · intro empty
      simpa [empty] using shared
  · intro named e mem empty
    obtain ⟨n, present, same⟩ := executable.targets e mem
    exact named n present (same.trans empty)

-- Two edges leave the first step, and the second of them is discarded.
def fork : Graph := route ["a", "b", "c"] [("e1", "a", "b"), ("e2", "a", "c")]

theorem fork_accounted : ∃ h, fork.Becomes h ∧ fork.discarded.map Edge.id = ["e2"] ∧
    (h.edges.map Edge.course ++ fork.discarded.map Edge.course).Perm (fork.edges.map Edge.course) := by
  have publishable : fork.canPublish none = true := by decide +kernel
  obtain ⟨becomes, discarded, shared, named⟩ := edges_accounted (route_validated _ _) publishable
  obtain ⟨h, done⟩ := becomes.mpr (by unfold Handable; decide +kernel)
  refine ⟨h, done, by decide +kernel, (shared h done).2.mpr fun e mem _ => named (by decide +kernel) e mem⟩

-- The second step has the empty id.
def nameless : Graph := route ["a", ""] [("e1", "a", "")]

theorem nameless_not_accounted : ¬ ∀ (g : Graph) (catalog : Option Catalog), g.Validated →
    g.canPublish catalog = true → ∀ h, g.Becomes h →
      (h.edges.map Edge.course ++ g.discarded.map Edge.course).Perm (g.edges.map Edge.course) := by
  intro always
  have handable : nameless.Handable := by
    unfold Handable
    decide +kernel
  have becomes : nameless.Becomes nameless.rebuilt :=
    (becomes_iff (route_validated _ _) (by decide +kernel)).mpr ⟨handable, rfl⟩
  have whole := always nameless none (route_validated _ _) (by decide +kernel) _ becomes
  have lost : nameless.rebuilt.edges.map Edge.course ++ nameless.discarded.map Edge.course = [] := by decide +kernel
  have lengths := whole.length_eq
  rw [lost] at lengths
  cases lengths

end Orchestration.Graph
