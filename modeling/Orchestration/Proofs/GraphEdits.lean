import Mathlib.Data.List.Nodup
import Orchestration.Graph.Edit
import Orchestration.Proofs.ChainRoundTrip
import Orchestration.Proofs.Executable

namespace Orchestration

theorem Node.build_id {name tag data place : Json} (built : build name tag data place s = .ok (n, t)) :
    name = .str n.id := by
  obtain ⟨_, read⟩ := build_parts built
  obtain ⟨k, m, same, inner⟩ := decode_parts read
  cases same
  obtain ⟨_, _, _, first, _, whole⟩ := Decode.seq_parts inner
  obtain ⟨_, _, _, second, _, whole2⟩ := Decode.seq_parts first
  obtain ⟨_, _, _, third, _, whole3⟩ := Decode.seq_parts second
  obtain ⟨id, text, whole4⟩ := Decode.map_parts third
  subst whole4 whole3 whole2 whole
  have text := Decode.field_parts (f := .same "id") rfl text
  cases name with
  | str _ =>
    cases text
    rfl
  | null | bool _ | int _ | float _ | arr _ | obj _ => cases text

namespace Graph

-- One call of an editing operation. What it is given may be anything.
inductive Edit where
  | addNode (kind id data position : Json)
  | updateNodeData (id : Json) (patch : Members)
  | removeNode (id : Json)
  | addEdge (source target handle id : Json)
  | removeEdge (id : Json)

namespace Edit

def call (s : Supply) : Edit → Call Unit
  | .addNode kind id data position => do
      let _ ← Call.addNode kind id data position s
      return ()
  | .updateNodeData id patch => do
      let _ ← Call.updateNodeData id patch s
      return ()
  | .removeNode id => Call.removeNode id
  | .addEdge source target handle id => do
      let _ ← Call.addEdge source target handle id
      return ()
  | .removeEdge id => Call.removeEdge id

def apply (g : Graph) (s : Supply) (e : Edit) : Except EditFault Graph := ((e.call s).outcome g).map (·.2)

-- The graph that a caller holds after a call, accepted or refused.
def after (g : Graph) (s : Supply) (e : Edit) : Graph := (e.call s g).2

theorem apply_ok {g : Graph} {s : Supply} {e : Edit} : e.apply g s = .ok h ↔ e.call s g = (.ok (), h) := by
  rw [apply, ← InPlace.outcome_eq_ok]
  cases (e.call s).outcome g <;> simp [Except.map, Prod.ext_iff]

theorem apply_error {g : Graph} {s : Supply} {e : Edit} :
    e.apply g s = .error fault ↔ ∃ h, e.call s g = (.error fault, h) := by
  rw [apply, ← InPlace.outcome_eq_error]
  cases (e.call s).outcome g <;> simp [Except.map]

end Edit

-- Every call draws from names of its own, so nothing hangs on what refused calls have drawn.
def run (g : Graph) (calls : List (Edit × Supply)) : Graph :=
  calls.foldl (fun h (e, s) => e.after h s) g

-- Every edge of the second graph that leads nowhere led nowhere in the first one.
def Anchored (g h : Graph) : Prop :=
  ∀ e ∈ h.edges, h.joins e = false → e ∈ g.edges ∧ g.joins e = false

structure Distinct (g : Graph) : Prop where
  nodes : (g.nodes.map Node.id).Nodup
  edges : (g.edges.map Edge.id).Nodup
  courses : (g.edges.map Edge.course).Nodup

theorem Anchored.refl (g : Graph) : g.Anchored g := fun _ mem loose => ⟨mem, loose⟩

theorem Anchored.trans {g h k : Graph} (first : g.Anchored h) (second : h.Anchored k) : g.Anchored k := by
  intro e mem loose
  obtain ⟨before, still⟩ := second e mem loose
  exact first e before still

theorem hasNode_false {g : Graph} : g.hasNode key = false ↔ key ∉ g.nodes.map Node.id := by
  rw [Bool.eq_false_iff, ne_eq, hasNode_iff, List.mem_map]

theorem requireNode_parts {g : Graph} (required : g.requireNode key = .ok n) :
    g.node? key = some n ∧ n.id = key := by
  unfold requireNode at required
  cases found : g.node? key with
  | none => simp [found] at required
  | some m =>
    simp only [found, Except.ok.injEq] at required
    subst required
    exact ⟨rfl, by simpa using List.find?_some found⟩

theorem namedNode_parts {g : Graph} (named : g.namedNode v = .ok n) :
    n ∈ g.nodes ∧ v = .str n.id ∧ g.node? n.id = some n := by
  cases v with
  | str key =>
    obtain ⟨found, same⟩ := requireNode_parts named
    exact ⟨List.mem_of_find?_eq_some found, by rw [same], by rwa [same]⟩
  | null | bool _ | int _ | float _ | arr _ | obj _ => cases named

theorem unusedNodeId_ok {g : Graph} (unused : g.unusedNodeId (.str key) = .ok ()) : g.hasNode key = false := by
  unfold unusedNodeId at unused
  dsimp only at unused
  split at unused
  · cases unused
  · rename_i free
    simpa using free

theorem Call.addNode_parts {g : Graph} {name : Json}
    (added : Call.addNode kind name data place s g = (.ok (key, t), h)) :
    ∃ n : Node, n.id = key ∧ g.hasNode key = false ∧ h = { g with nodes := g.nodes ++ [n] } := by
  obtain ⟨_, unused, rest⟩ := InPlace.read_parts added
  obtain ⟨⟨n, u⟩, made, written⟩ := InPlace.read_parts rest
  cases written
  rw [Node.build_id (mapError_parts made)] at unused
  exact ⟨n, rfl, unusedNodeId_ok unused, rfl⟩

theorem Call.updateNodeData_parts {g : Graph} {name : Json}
    (updated : Call.updateNodeData name patch s g = (.ok t, h)) :
    ∃ n p, n ∈ g.nodes ∧ name = .str n.id ∧ g.node? n.id = some n ∧ n.payload.merge patch s = .ok (p, t) ∧
      h = { g with nodes := g.nodes.map fun m => if m.id == n.id then { n with payload := p } else m } := by
  obtain ⟨n, named, rest⟩ := InPlace.read_parts updated
  obtain ⟨⟨p, u⟩, loaded, written⟩ := InPlace.read_parts rest
  cases written
  obtain ⟨mem, same, found⟩ := namedNode_parts named
  exact ⟨n, p, mem, same, found, Decode.load_parts (mapError_parts loaded), rfl⟩

theorem Call.removeNode_parts {g : Graph} {name : Json} (removed : Call.removeNode name g = (.ok (), h)) :
    ∃ n ∈ g.nodes, name = .str n.id ∧
      h = { nodes := g.nodes.filter (·.id != n.id),
            edges := g.edges.filter fun e => e.source != n.id && e.target != n.id } := by
  obtain ⟨n, named, written⟩ := InPlace.read_parts removed
  cases written
  obtain ⟨mem, same, _⟩ := namedNode_parts named
  exact ⟨n, mem, same, rfl⟩

-- A new edge joins two nodes, under an id and along a course that no other edge has.
structure NewEdge (g : Graph) (e : Edge) : Prop where
  joined : g.joins e = true
  unnamed : e.id ∉ g.edges.map Edge.id
  untaken : e.course ∉ g.edges.map Edge.course

theorem edge?_isSome {g : Graph} {name : String} :
    (g.edge? name).isSome = false ↔ name ∉ g.edges.map Edge.id := by
  simp [edge?]

theorem untaken_of_joining {g : Graph} (none : g.joining? source target handle = none) :
    (source, target, handle) ∉ g.edges.map Edge.course := by
  intro mem
  obtain ⟨e, present, same⟩ := List.mem_map.mp mem
  have differs := List.find?_eq_none.mp none e present
  simp only [Edge.course, Prod.mk.injEq] at same
  simp [same.1, same.2.1, same.2.2] at differs

theorem makeEdge_parts (made : makeEdge start stop handle name = .ok e) :
    ∃ key through, name = .str key ∧ looseHandle? handle = some through ∧
      e = ⟨key, start.id, stop.id, through, start.branchLabel through⟩ := by
  unfold makeEdge at made
  split at made
  · cases made
    exact ⟨_, _, rfl, ‹_›, rfl⟩
  · cases made

theorem joining?_parts {g : Graph} (found : g.joining? source target handle = some e) :
    e ∈ g.edges ∧ e.course = (source, target, handle) := by
  have same := List.find?_some found
  simp only [Bool.and_eq_true, beq_iff_eq] at same
  exact ⟨List.mem_of_find?_eq_some found, by rw [Edge.course, same.1.1, same.1.2, same.2]⟩

-- Either an edge is there that joins the nodes already, or a new one is drawn.
theorem Call.addEdge_parts {g : Graph} {source target handle name : Json}
    (added : Call.addEdge source target handle name g = (.ok key, h)) :
    ∃ (start stop : Node) (through : Option String), source = .str start.id ∧ target = .str stop.id ∧ looseHandle? handle = some through ∧
      g.node? start.id = some start ∧ g.hasNode stop.id = true ∧
      ((∃ e ∈ g.edges, e.course = (start.id, stop.id, through) ∧ h = g) ∨
        ∃ e, g.NewEdge e ∧ e.course = (start.id, stop.id, through) ∧ e.label = start.branchLabel through ∧
          h = { g with edges := g.edges ++ [e] }) := by
  obtain ⟨start, named, rest⟩ := InPlace.read_parts added
  obtain ⟨stop, reached, rest⟩ := InPlace.read_parts rest
  obtain ⟨joined?, seen, rest⟩ := InPlace.read_parts rest
  obtain ⟨first, rfl, found⟩ := namedNode_parts named
  obtain ⟨last, rfl, _⟩ := namedNode_parts reached
  cases seen
  cases known : (looseHandle? handle).bind (g.joining? start.id stop.id) with
  | some e =>
    simp only [known] at rest
    cases rest
    obtain ⟨through, loose, joins⟩ := Option.bind_eq_some_iff.mp known
    obtain ⟨mem, course⟩ := joining?_parts joins
    exact ⟨start, stop, through, rfl, rfl, loose, found, hasNode_of_mem last, .inl ⟨e, mem, course, rfl⟩⟩
  | none =>
    simp only [known] at rest
    obtain ⟨_, free, rest⟩ := InPlace.read_parts rest
    obtain ⟨e, made, written⟩ := InPlace.read_parts rest
    cases written
    obtain ⟨asked, through, same, loose, rfl⟩ := makeEdge_parts made
    rw [loose, Option.bind_some] at known
    simp only [same, unusedEdgeId] at free
    have joined : g.joins ⟨asked, start.id, stop.id, through, start.branchLabel through⟩ = true := by
      rw [joins, hasNode_of_mem first, hasNode_of_mem last]
      rfl
    have unnamed : asked ∉ g.edges.map Edge.id := by
      rw [← edge?_isSome, ← Bool.not_eq_true]
      intro used
      rw [if_pos used] at free
      cases free
    exact ⟨start, stop, through, rfl, rfl, loose, found, hasNode_of_mem last,
      .inr ⟨_, ⟨joined, unnamed, untaken_of_joining known⟩, rfl, rfl, rfl⟩⟩

theorem Call.removeEdge_parts {g : Graph} {name : Json} (removed : Call.removeEdge name g = (.ok (), h)) :
    ∃ key, name = .str key ∧ h = { g with edges := g.edges.filter (·.id != key) } := by
  obtain ⟨_, found, written⟩ := InPlace.read_parts removed
  cases name with
  | str key =>
    cases written
    exact ⟨key, rfl, rfl⟩
  | null | bool _ | int _ | float _ | arr _ | obj _ => cases found

-- All that an accepted call can do to a graph.
inductive Change (g : Graph) : Graph → Prop where
  | same : Change g g
  | grown {n : Node} : g.hasNode n.id = false → Change g { g with nodes := g.nodes ++ [n] }
  | patched {n : Node} : g.node? key = some n → n.payload.merge patch s = .ok (p, t) →
      Change g { g with nodes := g.nodes.map fun m => if m.id == key then { n with payload := p } else m }
  | pruned : Change g { nodes := g.nodes.filter (·.id != key),
                        edges := g.edges.filter fun e => e.source != key && e.target != key }
  | joined : g.NewEdge e → Change g { g with edges := g.edges ++ [e] }
  | parted : Change g { g with edges := g.edges.filter (·.id != key) }

theorem change_of_call {g : Graph} {s : Supply} {e : Edit} (accepted : e.call s g = (.ok (), h)) : g.Change h := by
  cases e with
  | addNode kind name data place =>
    obtain ⟨⟨key, t⟩, u, added, same⟩ := InPlace.bind_parts accepted
    cases same
    obtain ⟨n, rfl, free, rfl⟩ := Call.addNode_parts added
    exact .grown free
  | updateNodeData name patch =>
    obtain ⟨t, u, updated, same⟩ := InPlace.bind_parts accepted
    cases same
    obtain ⟨n, p, _, _, found, merged, rfl⟩ := Call.updateNodeData_parts updated
    exact .patched found merged
  | removeNode name =>
    obtain ⟨n, _, _, rfl⟩ := Call.removeNode_parts accepted
    exact .pruned
  | addEdge source target handle name =>
    obtain ⟨key, u, added, same⟩ := InPlace.bind_parts accepted
    cases same
    obtain ⟨_, _, _, _, _, _, _, _, ⟨_, _, _, rfl⟩ | ⟨e, new, _, _, rfl⟩⟩ := Call.addEdge_parts added
    · exact .same
    · exact .joined new
  | removeEdge name =>
    obtain ⟨key, _, rfl⟩ := Call.removeEdge_parts accepted
    exact .parted

-- Every call looks at all that it may refuse before it writes anything.
theorem careful_call (s : Supply) (e : Edit) : (e.call s).Careful := by
  cases e with
  | addNode kind name data place =>
    refine InPlace.Careful.bind ?_ fun _ => InPlace.certain_pure ()
    refine InPlace.careful_read fun _ => InPlace.careful_read fun built => ?_
    exact InPlace.careful_write (InPlace.certain_pure _)
  | updateNodeData name patch =>
    refine InPlace.Careful.bind ?_ fun _ => InPlace.certain_pure ()
    refine InPlace.careful_read fun n => InPlace.careful_read fun merged => ?_
    exact InPlace.careful_write (InPlace.certain_pure _)
  | removeNode name =>
    exact InPlace.careful_read fun n => InPlace.careful_write (InPlace.certain_write _)
  | addEdge source target handle name =>
    refine InPlace.Careful.bind ?_ fun _ => InPlace.certain_pure ()
    refine InPlace.careful_read fun start => InPlace.careful_read fun stop => InPlace.careful_read fun joined? => ?_
    cases joined? with
    | some e => exact InPlace.careful_pure e.id
    | none =>
      refine InPlace.careful_read fun _ => InPlace.careful_read fun e => ?_
      exact InPlace.careful_write (InPlace.certain_pure _)
  | removeEdge name => exact InPlace.careful_read fun _ => (InPlace.certain_write _).careful

theorem change_after (g : Graph) (s : Supply) (e : Edit) : g.Change (e.after g s) := by
  unfold Edit.after
  rcases done : e.call s g with ⟨_ | _, h⟩
  · rw [careful_call s e _ _ _ done]
    exact .same
  · exact change_of_call done

theorem ids_patched {g : Graph} {n : Node} {p : Payload Details} (found : g.node? key = some n) :
    (g.nodes.map fun m => if m.id == key then { n with payload := p } else m).map Node.id = g.nodes.map Node.id := by
  have named : n.id = key := by simpa using List.find?_some found
  rw [List.map_map]
  refine List.map_congr_left fun m _ => ?_
  by_cases same : m.id = key
  · simp [same, named]
  · simp [same]

theorem joins_false {g : Graph} {e : Edge} :
    g.joins e = false ↔ e.source ∉ g.nodes.map Node.id ∨ e.target ∉ g.nodes.map Node.id := by
  rw [joins, Bool.and_eq_false_iff, hasNode_false, hasNode_false]

theorem Change.anchored {g h : Graph} (change : g.Change h) : g.Anchored h := by
  intro e mem loose
  rw [joins_false] at loose ⊢
  cases change with
  | same => exact ⟨mem, loose⟩
  | grown free =>
    refine ⟨mem, loose.imp ?_ ?_⟩ <;>
    · intro absent present
      exact absent (by rw [List.map_append]; exact List.mem_append_left _ present)
  | patched found merged =>
    rw [ids_patched found] at loose
    exact ⟨mem, loose⟩
  | @pruned key =>
    obtain ⟨old, apart⟩ := List.mem_filter.mp mem
    simp only [Bool.and_eq_true, bne_iff_ne, ne_eq] at apart
    have stays : ∀ end_, end_ ≠ key → end_ ∈ g.nodes.map Node.id →
        end_ ∈ (g.nodes.filter (·.id != key)).map Node.id := by
      intro end_ other present
      obtain ⟨n, node, same⟩ := List.mem_map.mp present
      exact List.mem_map.mpr ⟨n, List.mem_filter.mpr ⟨node, by simpa [same] using other⟩, same⟩
    exact ⟨old, loose.imp (mt (stays _ apart.1)) (mt (stays _ apart.2))⟩
  | joined new =>
    rcases List.mem_append.mp mem with old | this
    · exact ⟨old, loose⟩
    · have joined := new.joined
      rw [← List.mem_singleton.mp this] at joined
      have apart : g.joins e = false := joins_false.mpr loose
      rw [apart] at joined
      cases joined
  | parted => exact ⟨(List.mem_filter.mp mem).1, loose⟩

theorem nodup_grown {xs : List α} {f : α → β} (distinct : (xs.map f).Nodup) (new : f x ∉ xs.map f) :
    ((xs ++ [x]).map f).Nodup := by
  rw [List.map_append, List.map_singleton]
  exact List.nodup_append.mpr ⟨distinct, List.nodup_singleton _, by
    rintro a old b mem rfl
    exact new (List.mem_singleton.mp mem ▸ old)⟩

theorem Change.distinct {g h : Graph} (change : g.Change h) (distinct : g.Distinct) : h.Distinct := by
  obtain ⟨nodes, edges, courses⟩ := distinct
  cases change with
  | same => exact ⟨nodes, edges, courses⟩
  | grown free => exact ⟨nodup_grown nodes (hasNode_false.mp free), edges, courses⟩
  | patched found merged => exact ⟨by rwa [ids_patched found], edges, courses⟩
  | pruned =>
    exact ⟨nodes.sublist (List.filter_sublist.map _), edges.sublist (List.filter_sublist.map _),
      courses.sublist (List.filter_sublist.map _)⟩
  | joined new => exact ⟨nodes, nodup_grown edges new.unnamed, nodup_grown courses new.untaken⟩
  | parted =>
    exact ⟨nodes, edges.sublist (List.filter_sublist.map _), courses.sublist (List.filter_sublist.map _)⟩

-- The induction is on the calls, each of which makes one change.
theorem run_anchored (g : Graph) (calls : List (Edit × Supply)) : g.Anchored (g.run calls) := by
  induction calls generalizing g with
  | nil => exact .refl g
  | cons call rest ih => exact (change_after g call.2 call.1).anchored.trans (ih _)

theorem run_distinct {g : Graph} (distinct : g.Distinct) (calls : List (Edit × Supply)) :
    (g.run calls).Distinct := by
  induction calls generalizing g with
  | nil => exact distinct
  | cons call rest ih => exact ih ((change_after g call.2 call.1).distinct distinct)

-- Nothing is other than before but the payload of one node.
structure Spares (key : String) (g h : Graph) : Prop where
  edges : h.edges = g.edges
  nodes : List.Forall₂ (fun m n : Node => n.id = m.id ∧ n.kind = m.kind ∧ n.position = m.position ∧
    n.displayId = m.displayId ∧ (m.id ≠ key → n = m)) g.nodes h.nodes

-- One node is gone, and the edges that touched it. What is left is in the order of before.
structure Drops (key : String) (g h : Graph) : Prop where
  nodes : ∃ before n later, n.id = key ∧ g.nodes = before ++ n :: later ∧ h.nodes = before ++ later
  edges : h.edges = g.edges.filter fun e => e.source != key && e.target != key

theorem spares_of_update {g h : Graph} {name : Json} (distinct : (g.nodes.map Node.id).Nodup)
    (updated : Call.updateNodeData name patch s g = (.ok t, h)) : ∃ key, name = .str key ∧ Spares key g h := by
  obtain ⟨n, p, present, named, _, merged, rfl⟩ := Call.updateNodeData_parts updated
  refine ⟨n.id, named, rfl, ?_⟩
  rw [List.forall₂_map_right_iff, List.forall₂_same]
  intro m mem
  by_cases same : m.id = n.id
  · have this : m = n := eq_of_id_eq distinct mem present same
    subst this
    have kind : p.kind = m.kind := (Payload.settled_of_merge merged).1
    rw [if_pos (by simp)]
    exact ⟨rfl, kind, rfl, rfl, fun other => absurd same other⟩
  · rw [if_neg (by simpa using same)]
    exact ⟨rfl, rfl, rfl, rfl, fun _ => rfl⟩

theorem drops_of_remove {g h : Graph} {name : Json} (distinct : (g.nodes.map Node.id).Nodup)
    (removed : Call.removeNode name g = (.ok (), h)) : ∃ key, name = .str key ∧ Drops key g h := by
  obtain ⟨n, present, named, whole⟩ := Call.removeNode_parts removed
  obtain ⟨before, later, split⟩ := List.append_of_mem present
  refine ⟨n.id, named, ⟨before, n, later, rfl, split, ?_⟩, ?_⟩
  · have others : ∀ m ∈ before ++ later, m.id != n.id := by
      intro m mem
      rw [split, List.map_append, List.map_cons, List.nodup_middle, List.nodup_cons, ← List.map_append] at distinct
      rw [bne_iff_ne]
      intro same
      exact distinct.1 (same ▸ List.mem_map_of_mem mem)
    have front := List.filter_eq_self.mpr fun m mem => others m (List.mem_append_left _ mem)
    have back := List.filter_eq_self.mpr fun m mem => others m (List.mem_append_right _ mem)
    simp [whole, split, front, back]
  · rw [whole]

-- Edits bring no edge that leads nowhere and repeat nothing that is distinct, a refused one leaves
-- the graph as it was, and one that names a node leaves the others alone.
theorem run_wellFormed (g : Graph) (calls : List (Edit × Supply)) :
    g.Anchored (g.run calls) ∧
    ((∀ e ∈ g.edges, g.joins e = true) → ∀ e ∈ (g.run calls).edges, (g.run calls).joins e = true) ∧
    (g.Distinct → (g.run calls).Distinct) ∧
    ∀ h s, h = g.run calls →
      (∀ call fault, Edit.apply h s call = .error fault → call.after h s = h) ∧
      ((h.nodes.map Node.id).Nodup →
        (∀ v patch k, Edit.apply h s (.updateNodeData v patch) = .ok k → ∃ key, v = .str key ∧ Spares key h k) ∧
        ∀ v k, Edit.apply h s (.removeNode v) = .ok k → ∃ key, v = .str key ∧ Drops key h k) := by
  refine ⟨run_anchored g calls, ?_, fun distinct => run_distinct distinct calls, ?_⟩
  · intro joined e mem
    rw [← Bool.not_eq_false]
    intro loose
    obtain ⟨old, before⟩ := run_anchored g calls e mem loose
    rw [joined e old] at before
    cases before
  · rintro h s -
    refine ⟨?_, fun distinct => ⟨?_, ?_⟩⟩
    · intro call fault refused
      obtain ⟨k, ended⟩ := Edit.apply_error.mp refused
      rw [Edit.after, ended]
      exact careful_call s call h fault k ended
    · intro v patch k accepted
      obtain ⟨t, u, updated, same⟩ := InPlace.bind_parts (Edit.apply_ok.mp accepted)
      cases same
      exact spares_of_update distinct updated
    · intro v k accepted
      exact drops_of_remove distinct (Edit.apply_ok.mp accepted)

end Graph
end Orchestration
