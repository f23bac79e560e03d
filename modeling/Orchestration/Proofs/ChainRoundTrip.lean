import Mathlib.Data.List.Basic
import Orchestration.Chain.Rebuild
import Orchestration.Proofs.HandedOut

namespace Orchestration

-- What a chain can tell of an edge.
def Edge.course (e : Edge) : String × String × Option String := (e.source, e.target, e.sourceHandle)

namespace Graph

-- The edge of a node that survives: the first to leave it, unless that one leads nowhere.
def surviving (g : Graph) (n : Node) : Option Edge :=
  (g.outgoing n.id).head?.filter fun e => g.hasNode e.target

-- The second graph is the first one after a stay in a chain.
structure Rebuilds (g h : Graph) : Prop where
  nodes : h.nodes = g.nodes.map Node.unlabeled
  entry : h.entry? = g.entry?
  edges : h.edges.map Edge.course = (g.nodes.filterMap g.surviving).map Edge.course
  whole : (∀ n ∈ g.nodes, (g.outgoing n.id).length ≤ 1) → (∀ e ∈ g.edges, g.joins e = true) →
    (h.edges.map Edge.course).Perm (g.edges.map Edge.course)

-- A graph whose ids can be the keys of actions.
structure Keyable (g : Graph) : Prop where
  distinct : (g.nodes.map Node.id).Nodup
  named : ∀ n ∈ g.nodes, n.id ≠ ""

end Graph

-- Grouping by keys that are distinct and that cover every element only moves elements.
theorem perm_groups {key : α → String} (keys : List String) (xs : List α) (distinct : keys.Nodup)
    (covered : ∀ x ∈ xs, key x ∈ keys) :
    (keys.flatMap fun k => xs.filter (key · == k)).Perm xs := by
  induction keys generalizing xs with
  | nil =>
    cases xs with
    | nil => exact List.Perm.refl _
    | cons x _ => exact absurd (covered x List.mem_cons_self) List.not_mem_nil
  | cons k rest ih =>
    rw [List.nodup_cons] at distinct
    have others : ∀ x ∈ xs.filter (fun x => !(key x == k)), key x ∈ rest := by
      intro x mem
      obtain ⟨present, other⟩ := List.mem_filter.mp mem
      rcases List.mem_cons.mp (covered x present) with same | later
      · simp [same] at other
      · exact later
    have groups : (rest.flatMap fun j => xs.filter (key · == j)) =
        rest.flatMap fun j => (xs.filter fun x => !(key x == k)).filter (key · == j) := by
      rw [List.flatMap_def, List.flatMap_def]
      refine congrArg List.flatten (List.map_congr_left fun j mem => ?_)
      rw [List.filter_filter]
      refine List.filter_congr fun x _ => ?_
      by_cases same : key x = j
      · have other : key x ≠ k := by
          rintro rfl
          exact distinct.1 (same ▸ mem)
        have unequal : j ≠ k := same ▸ other
        simp [same, unequal]
      · simp [same]
    rw [List.flatMap_cons, groups]
    exact ((ih _ distinct.2 others).append_left _).trans (List.filter_append_perm _ xs)

namespace Graph

theorem chosen?_eq (g : Graph) (key : String) : g.chosen? key = (g.outgoing key).head? := by
  simp [chosen?, outgoing]

theorem source_of_outgoing {g : Graph} {key : String} (first : (g.outgoing key).head? = some e) :
    e.source = key := by
  have mem := List.mem_of_head? first
  simpa [outgoing] using (List.mem_filter.mp mem).2

theorem hasNode_empty {g : Graph} (keyable : g.Keyable) : g.hasNode "" = false := by
  rw [Bool.eq_false_iff]
  intro present
  obtain ⟨n, mem, empty⟩ := (g.hasNode_iff "").mp present
  exact keyable.named n mem empty

theorem actions_of_distinct {g : Graph} (distinct : (g.nodes.map Node.id).Nodup) (name : String) :
    (g.compile name).actions = g.nodes.map fun n => (n.id, g.action n) := by
  refine Keyed.ofList_of_nodup ?_
  simpa [Function.comp_def] using distinct

theorem actions_compile {g : Graph} (keyable : g.Keyable) (name : String) :
    (g.compile name).actions = g.nodes.map fun n => (n.id, g.action n) :=
  actions_of_distinct keyable.distinct name

theorem has_actions {g : Graph} {actions : Keyed Action}
    (same : actions = g.nodes.map fun n => (n.id, g.action n)) (id : String) :
    actions.has id = g.hasNode id := by
  subst same
  simp [Keyed.has, hasNode, Function.comp_def]

theorem toChain_eq (g : Graph) (name : String)
    (written : ∀ n ∈ g.nodes, n.payload.dumpFault? = none) :
    (g.toChain name).value = .ok (g.compile name) := by
  simp only [toChain, dumpFault_none.mpr written]

theorem written_of_toChain {g : Graph} (compiled : (g.toChain name).value = .ok c) :
    (∀ n ∈ g.nodes, n.payload.dumpFault? = none) ∧ c = g.compile name := by
  unfold toChain at compiled
  cases fault : g.dumpFault? with
  | some f => simp [fault, Noted.quiet] at compiled
  | none =>
    simp only [fault, Except.ok.injEq] at compiled
    exact ⟨dumpFault_none.mp fault, compiled.symm⟩

-- The edge that is rebuilt from the pointer of a node.
def pointerEdge (n : Node) (e : Edge) : Edge :=
  ⟨Edge.conventionalId n.id e.target none, n.id, e.target, e.sourceHandle, none⟩

-- The edge that a pointer tells of. A pointer to the empty id counts as none.
def pointed (g : Graph) (n : Node) : Option Edge := (g.surviving n).filter (·.target != "")

theorem edgeOf_pointed {g : Graph} {c : Chain} (actions : c.actions = g.nodes.map fun n => (n.id, g.action n))
    (n : Node) : (c.edgeOf n.id (g.action n)).value = (g.pointed n).map (pointerEdge n) := by
  unfold Chain.edgeOf pointed surviving action
  simp only [chosen?_eq, has_actions actions]
  cases (g.outgoing n.id).head? with
  | none => rfl
  | some e =>
    by_cases empty : e.target = "" <;> by_cases known : g.hasNode e.target = true <;>
      simp_all [Noted.quiet, pointerEdge, Option.filter]

theorem pointed_of_keyable {g : Graph} (keyable : g.Keyable) (n : Node) : g.pointed n = g.surviving n := by
  rw [pointed]
  cases survives : g.surviving n with
  | none => rfl
  | some e =>
    have known := (Option.filter_eq_some_iff.mp survives).2
    have named : e.target ≠ "" := by
      intro empty
      rw [empty, hasNode_empty keyable] at known
      cases known
    simp [Option.filter, named]

theorem edgeOf_action {g : Graph} (keyable : g.Keyable) {c : Chain}
    (actions : c.actions = g.nodes.map fun n => (n.id, g.action n)) (n : Node) :
    (c.edgeOf n.id (g.action n)).value = (g.surviving n).map (pointerEdge n) := by
  rw [edgeOf_pointed actions, pointed_of_keyable keyable]

theorem course_pointerEdge {g : Graph} {n : Node} (survives : g.surviving n = some e) :
    (pointerEdge n e).course = e.course := by
  obtain ⟨first, _⟩ := Option.filter_eq_some_iff.mp survives
  simp [pointerEdge, Edge.course, (source_of_outgoing first).symm]

-- The graph that is rebuilt from the chain.
def recovered (g : Graph) : Graph where
  nodes := g.nodes.map fun n => n.kept.unlabeled
  edges := g.nodes.filterMap fun n => (g.surviving n).map (pointerEdge n)

-- The induction is on the nodes whose actions are still to be turned back.
theorem parts_pointers {g : Graph} {c : Chain} {edge : Node → Option Edge}
    (pointers : ∀ n, (c.edgeOf n.id (g.action n)).value = edge n) (s : Supply) (ns : List Node)
    (settled : ∀ n ∈ ns, n.payload.Settled) :
    (c.parts s (ns.map fun n => (n.id, g.action n))).value =
      .ok ((ns.map fun n => n.kept.unlabeled, ns.filterMap edge), s) := by
  induction ns with
  | nil => rfl
  | cons n rest ih =>
    have built : Node.build (.str n.id) (.str n.kind.tag) (.obj (n.kind.form.handed n.payload))
        n.position.encode s = .ok (n.kept.unlabeled, s) :=
      Node.build_encode (settled n List.mem_cons_self) s
    have tail := ih fun m mem => settled m (List.mem_cons_of_mem _ mem)
    have head := pointers n
    simp only [List.map_cons, Chain.parts, action, built] at tail head ⊢
    simp only [Noted.bind, Noted.map, tail, head]
    cases survives : edge n <;> simp [survives]

theorem toGraph_pointers {g : Graph} (valid : g.Validated) {c : Chain} {edge : Node → Option Edge}
    (actions : c.actions = g.nodes.map fun n => (n.id, g.action n))
    (pointers : ∀ n, (c.edgeOf n.id (g.action n)).value = edge n) (s : Supply) :
    (c.toGraph s).value = .ok (⟨g.nodes.map fun n => n.kept.unlabeled, g.nodes.filterMap edge⟩, s) := by
  have parts := parts_pointers pointers s g.nodes fun n mem => (valid n mem).settled
  rw [← actions] at parts
  simp only [Chain.toGraph, Noted.bind, parts]

theorem entry_recovered (g : Graph) : g.recovered.entry? = g.entry? := by
  have start : (fun n : Node => n.kept.unlabeled.kind.isStart) = fun n => n.kind.isStart := rfl
  simp only [ entry?, recovered, List.find?_map, Function.comp_def, start, List.head?_map]
  cases g.nodes.find? (·.kind.isStart) <;> simp [Node.unlabeled, Node.kept, Function.comp_def]

theorem surviving_of_single {g : Graph} {n : Node} (single : (g.outgoing n.id).length ≤ 1)
    (joined : ∀ e ∈ g.edges, g.joins e = true) : (g.surviving n).toList = g.outgoing n.id := by
  unfold surviving
  cases found : g.outgoing n.id with
  | nil => rfl
  | cons e rest =>
    have mem : e ∈ g.outgoing n.id := by simp [found]
    have ends := joined e (List.mem_filter.mp mem).1
    simp only [joins, Bool.and_eq_true] at ends
    have last : rest = [] := by simpa [found] using single
    simp [last, ends.2]

theorem surviving_perm {g : Graph} (keyable : g.Keyable)
    (single : ∀ n ∈ g.nodes, (g.outgoing n.id).length ≤ 1) (joined : ∀ e ∈ g.edges, g.joins e = true) :
    (g.nodes.filterMap g.surviving).Perm g.edges := by
  have covered : ∀ e ∈ g.edges, e.source ∈ g.nodes.map Node.id := by
    intro e mem
    have ends := joined e mem
    simp only [joins, Bool.and_eq_true, hasNode_iff] at ends
    obtain ⟨n, present, same⟩ := ends.1
    exact List.mem_map.mpr ⟨n, present, same⟩
  have grouped := perm_groups _ g.edges keyable.distinct covered
  have same : g.nodes.filterMap g.surviving = g.nodes.flatMap fun n => g.outgoing n.id := by
    rw [List.filterMap_eq_flatMap_toList, List.flatMap_def, List.flatMap_def]
    exact congrArg List.flatten (List.map_congr_left fun n mem => surviving_of_single (single n mem) joined)
  rw [same]
  rwa [List.flatMap_map] at grouped

theorem toGraph_actions {g : Graph} (valid : g.Validated) (keyable : g.Keyable) {c : Chain}
    (actions : c.actions = g.nodes.map fun n => (n.id, g.action n)) (s : Supply) :
    (c.toGraph s).value = .ok (g.recovered, s) :=
  toGraph_pointers valid actions (edgeOf_action keyable actions) s

theorem course_recovered (g : Graph) :
    g.recovered.edges.map Edge.course = (g.nodes.filterMap g.surviving).map Edge.course := by
  rw [recovered, List.map_filterMap, List.map_filterMap]
  refine List.filterMap_congr fun n _ => ?_
  cases survives : g.surviving n with
  | none => rfl
  | some e => simp [course_pointerEdge survives]

theorem nodes_recovered {g : Graph} : g.recovered.nodes = g.nodes.map Node.unlabeled ↔
    ∀ n ∈ g.nodes, Json.membersFinite n.payload.extras = true := by
  rw [recovered, List.map_inj_left]
  constructor
  · intro same n mem
    exact Payload.kept_eq_self.mp (congrArg Node.payload (same n mem))
  · intro finite n mem
    rw [Node.kept, Payload.kept_eq_self.mpr (finite n mem)]

theorem rebuilds_recovered {g : Graph} (keyable : g.Keyable) :
    g.Rebuilds g.recovered ↔ ∀ n ∈ g.nodes, Json.membersFinite n.payload.extras = true := by
  constructor
  · intro rebuilt
    exact nodes_recovered.mp rebuilt.nodes
  · intro finite
    refine ⟨nodes_recovered.mpr finite, g.entry_recovered, g.course_recovered, ?_⟩
    intro single joined
    rw [course_recovered]
    exact (surviving_perm keyable single joined).map _

end Graph

end Orchestration
