import Mathlib.Data.List.Pairwise
import Orchestration.Proofs.Publication

namespace Orchestration

namespace Edge

-- A piece between two hyphens is counted to the source or to the target.
def Shifted (source target source' target' : String) : Prop :=
  ∃ piece, source' = source ++ "-" ++ piece ∧ target = piece ++ "-" ++ target'

theorem Shifted.sameId {source target source' target' : String}
    (shifted : Shifted source target source' target') :
    conventionalId source target none = conventionalId source' target' none := by
  obtain ⟨piece, rfl, rfl⟩ := shifted
  simp only [conventionalId, String.append_assoc]

theorem Shifted.irrefl {source target target' : String} (shifted : Shifted source target source target') : False := by
  obtain ⟨piece, same, _⟩ := shifted
  have length := congrArg String.length same
  simp only [String.length_append] at length
  have hyphen : "-".length = 1 := rfl
  omega

-- The first hyphen behind one of the sources lies inside of the other source, or ends it too.
theorem shifted_of_append {source target source' target' : String} {piece : List Char}
    (sources : source'.toList = source.toList ++ piece)
    (targets : '-' :: target.toList = piece ++ '-' :: target'.toList) :
    (source = source' ∧ target = target') ∨ Shifted source target source' target' := by
  cases piece with
  | nil =>
    rw [List.append_nil] at sources
    rw [List.nil_append, List.cons.injEq] at targets
    exact .inl ⟨String.toList_inj.mp sources.symm, String.toList_inj.mp targets.2⟩
  | cons hyphen piece =>
    rw [List.cons_append, List.cons.injEq] at targets
    obtain ⟨rfl, targets⟩ := targets
    refine .inr ⟨String.ofList piece, String.toList_inj.mp ?_, String.toList_inj.mp ?_⟩
    · simp [sources]
    · simp [targets]

theorem conventionalId_eq {source target source' target' : String} :
    conventionalId source target none = conventionalId source' target' none ↔
      (source = source' ∧ target = target') ∨ Shifted source target source' target' ∨
        Shifted source' target' source target := by
  constructor
  · intro same
    have chars := congrArg String.toList same
    simp only [conventionalId, String.toList_append, List.append_assoc] at chars
    have ends : source.toList ++ '-' :: target.toList = source'.toList ++ '-' :: target'.toList :=
      List.append_cancel_left chars
    rcases List.append_eq_append_iff.mp ends with ⟨piece, sources, targets⟩ | ⟨piece, sources, targets⟩
    · exact (shifted_of_append sources targets).imp_right .inl
    · rcases shifted_of_append sources targets with ⟨first, last⟩ | back
      · exact .inl ⟨first.symm, last.symm⟩
      · exact .inr (.inr back)
  · rintro (⟨rfl, rfl⟩ | there | back)
    · rfl
    · exact there.sameId
    · exact back.sameId.symm

end Edge

namespace Graph

-- The rebuilt graph: of every node its first edge, if it leads to a node.
def rebuilt (g : Graph) : Graph where
  nodes := g.nodes.map fun n => n.kept.unlabeled
  edges := g.nodes.filterMap fun n => (g.pointed n).map (pointerEdge n)

-- Through its chain a graph becomes another one, under any name.
def Becomes (g h : Graph) : Prop :=
  ∀ name s, ∃ c, (g.toChain name).value = .ok c ∧ (c.toGraph s).value = .ok (h, s)

theorem becomes_iff {g h : Graph} (valid : g.Validated) (distinct : (g.nodes.map Node.id).Nodup) :
    g.Becomes h ↔ g.Handable ∧ h = g.rebuilt := by
  have built : ∀ name s, ((g.compile name).toGraph s).value = .ok (g.rebuilt, s) := fun name s =>
    toGraph_pointers valid (actions_of_distinct distinct name)
      (edgeOf_pointed (actions_of_distinct distinct name)) s
  constructor
  · intro becomes
    obtain ⟨c, compiled, back⟩ := becomes "" ⟨fun _ => "", 0⟩
    obtain ⟨handable, rfl⟩ := written_of_toChain compiled
    rw [built] at back
    cases back
    exact ⟨handable, rfl⟩
  · rintro ⟨handable, rfl⟩ name s
    exact ⟨_, toChain_eq g name handable, built name s⟩

-- No two pointers get one id.
def Unconfused (g : Graph) : Prop :=
  ∀ m ∈ g.nodes, ∀ n ∈ g.nodes, ∀ e f, g.pointed m = some e → g.pointed n = some f →
    ¬ Edge.Shifted m.id e.target n.id f.target

theorem edgeIds_rebuilt {g : Graph} (distinct : (g.nodes.map Node.id).Nodup) :
    (g.rebuilt.edges.map Edge.id).Nodup ↔ g.Unconfused := by
  have ids : g.rebuilt.edges.map Edge.id = g.nodes.filterMap fun n =>
      (g.pointed n).map fun e => Edge.conventionalId n.id e.target none := by
    rw [rebuilt, List.map_filterMap]
    refine List.filterMap_congr fun n _ => ?_
    cases g.pointed n <;> rfl
  rw [ids, List.Nodup, List.pairwise_filterMap]
  constructor
  · intro apart m left n right e f first second shifted
    have other : m ≠ n := by
      rintro rfl
      exact shifted.irrefl
    refine @List.Pairwise.forall _ _ _ ⟨fun _ _ different b made b' made' => (different b' made' b made).symm⟩
      apart m left n right other _ ?_ _ ?_ shifted.sameId
    · rw [first]
      rfl
    · rw [second]
      rfl
  · intro unconfused
    refine (List.Nodup.of_map _ distinct).pairwise_of_forall_ne fun m left n right other b made b' made' same => ?_
    obtain ⟨e, first, rfl⟩ := Option.map_eq_some_iff.mp made
    obtain ⟨f, second, rfl⟩ := Option.map_eq_some_iff.mp made'
    rcases Edge.conventionalId_eq.mp same with ⟨ids, _⟩ | there | back
    · exact other (eq_of_id_eq distinct left right ids)
    · exact unconfused m left n right e f first second there
    · exact unconfused n right m left f e second first back

-- But for the ids of edges, a graph has no issue if each part of it has none.
theorem issues_of_parts {g : Graph} (inhabited : g.nodes ≠ []) (nodeIds : (g.nodes.map Node.id).Nodup)
    (delays : ∀ n ∈ g.nodes, 0 ≤ n.payload.delayValue)
    (ready : ∀ n ∈ g.nodes, n.payload.details.Ready catalog n.payload.delayValue)
    (sources : ∀ e ∈ g.edges, ∃ n ∈ g.nodes, n.id = e.source ∧ n.payload.details.Resolves e.sourceHandle)
    (targets : ∀ e ∈ g.edges, ∃ n ∈ g.nodes, n.id = e.target) :
    g.issues catalog = (Issue.repeated (g.edges.map Edge.id)).map .repeatedEdgeId := by
  have steps : g.nodes.flatMap (Issue.ofNode catalog) = [] :=
    List.flatMap_eq_nil_iff.mpr fun n mem => Issue.ofNode_eq_nil.mpr ⟨delays n mem, ready n mem⟩
  have edges : g.edges.flatMap (Issue.ofEdge g) = [] :=
    List.flatMap_eq_nil_iff.mpr fun e mem => (ofEdge_eq_nil nodeIds).mpr ⟨sources e mem, targets e mem⟩
  rw [issues, if_neg (by simpa using inhabited), Issue.repeated_eq_nil.mpr nodeIds, steps, edges]
  simp

theorem pointed_parts {g : Graph} {n : Node} (pointed : g.pointed n = some e) :
    e ∈ g.edges ∧ e.source = n.id ∧ g.hasNode e.target = true := by
  obtain ⟨survives, _⟩ := Option.filter_eq_some_iff.mp pointed
  obtain ⟨first, known⟩ := Option.filter_eq_some_iff.mp survives
  exact ⟨(List.mem_filter.mp (List.mem_of_head? first)).1, source_of_outgoing first, known⟩

theorem issues_rebuilt {g : Graph} (executable : g.Executable catalog) :
    g.rebuilt.issues catalog = (Issue.repeated (g.rebuilt.edges.map Edge.id)).map .repeatedEdgeId := by
  have nodes : ∀ p : Node → Prop, (∀ n ∈ g.rebuilt.nodes, p n) ↔ ∀ n ∈ g.nodes, p n.kept.unlabeled := by
    simp [rebuilt]
  have known : ∀ n ∈ g.nodes, n.kept.unlabeled ∈ g.rebuilt.nodes := fun n mem => List.mem_map_of_mem mem
  refine issues_of_parts ?_ ?_ ((nodes _).mpr executable.delays) ((nodes _).mpr executable.ready) ?_ ?_
  · simpa [rebuilt] using executable.inhabited
  · have same : g.rebuilt.nodes.map Node.id = g.nodes.map Node.id := by
      rw [rebuilt, List.map_map]
      rfl
    exact same ▸ executable.nodeIds
  all_goals
    intro e mem
    obtain ⟨n, present, made⟩ := List.mem_filterMap.mp mem
    obtain ⟨f, pointed, rfl⟩ := Option.map_eq_some_iff.mp made
    obtain ⟨edge, leaves, arrives⟩ := pointed_parts pointed
  · obtain ⟨m, among, same, resolves⟩ := executable.sources f edge
    cases eq_of_id_eq executable.nodeIds present among (leaves.symm.trans same.symm)
    exact ⟨_, known n present, rfl, resolves⟩
  · obtain ⟨m, among, same⟩ := (g.hasNode_iff f.target).mp arrives
    exact ⟨_, known m among, same⟩

-- Without hyphens in the ids of its nodes nothing is confused.
theorem unconfused_of_plain {g : Graph} (plain : ∀ n ∈ g.nodes, '-' ∉ n.id.toList) : g.Unconfused := by
  intro m _ n mem e f _ _ shifted
  obtain ⟨piece, source, _⟩ := shifted
  refine plain n mem ?_
  rw [source]
  simp

-- What can be published becomes what has no issue but edges of one id, which takes two pointers of which
-- one id has a hyphen at the place where the other one ends.
theorem canPublish_rebuilt {g : Graph} (valid : g.Validated) (publishable : g.canPublish catalog = true) :
    ((∃ h, g.Becomes h) ↔ g.Handable) ∧
    (∀ h, g.Becomes h → h.issues catalog = (Issue.repeated (h.edges.map Edge.id)).map .repeatedEdgeId ∧
      (h.canPublish catalog = true ↔ g.Unconfused)) ∧
    ((∀ n ∈ g.nodes, '-' ∉ n.id.toList) → g.Unconfused) := by
  have executable := (canPublish_iff_executable g catalog).mp publishable
  refine ⟨⟨?_, ?_⟩, ?_, unconfused_of_plain⟩
  · rintro ⟨h, becomes⟩
    exact ((becomes_iff valid executable.nodeIds).mp becomes).1
  · exact fun handable => ⟨_, (becomes_iff valid executable.nodeIds).mpr ⟨handable, rfl⟩⟩
  · intro h becomes
    obtain ⟨_, rfl⟩ := (becomes_iff valid executable.nodeIds).mp becomes
    have issues := issues_rebuilt executable
    refine ⟨issues, ?_⟩
    rw [canPublish_iff, issues, List.map_eq_nil_iff, Issue.repeated_eq_nil, edgeIds_rebuilt executable.nodeIds]

-- A step that waits for an hour.
def stopOver (key : String) : Node := ⟨key, .origin, none, ⟨"", 1, .hours, .delay, []⟩⟩

theorem stopOver_settled (key : String) : (stopOver key).payload.Settled :=
  ⟨fun _ mem => absurd mem List.not_mem_nil, fun _ mem => absurd mem List.not_mem_nil, fun _ shape => nomatch shape⟩

-- A workflow of such steps.
def route (keys : List String) (legs : List (String × String × String)) : Graph :=
  ⟨keys.map stopOver, legs.map fun (id, source, target) => ⟨id, source, target, none, none⟩⟩

theorem route_validated (keys : List String) (legs : List (String × String × String)) :
    (route keys legs).Validated := by
  intro n mem
  obtain ⟨key, _, rfl⟩ := List.mem_map.mp mem
  exact Node.validated_of_settled (stopOver_settled key)

theorem route_rebuilt : ∃ h, (route ["a", "b"] [("e1", "a", "b")]).Becomes h ∧ h.canPublish none = true := by
  have publishable : (route ["a", "b"] [("e1", "a", "b")]).canPublish none = true := by decide +kernel
  obtain ⟨becomes, issues, plain⟩ := canPublish_rebuilt (route_validated _ _) publishable
  obtain ⟨h, same⟩ := becomes.mpr (by unfold Handable; decide +kernel)
  exact ⟨h, same, (issues h same).2.mpr (plain (by decide +kernel))⟩

-- Both edges of the rebuilt graph have the id e-a-b-c.
def crossing : Graph := route ["a", "b-c", "a-b", "c"] [("e1", "a", "b-c"), ("e2", "a-b", "c")]

theorem crossing_confused : ¬ ∀ (g : Graph) (catalog : Option Catalog), g.Validated →
    g.canPublish catalog = true → ∀ h, g.Becomes h → h.canPublish catalog = true := by
  intro always
  have handable : crossing.Handable := by
    unfold Handable
    decide +kernel
  have becomes : crossing.Becomes crossing.rebuilt :=
    (becomes_iff (route_validated _ _) (by decide +kernel)).mpr ⟨handable, rfl⟩
  have published := always crossing none (route_validated _ _) (by decide +kernel) _ becomes
  have refused : crossing.rebuilt.canPublish none = false := by decide +kernel
  rw [refused] at published
  cases published

end Graph

end Orchestration
