import Mathlib.Data.Prod.Lex
import Mathlib.Data.String.Basic
import Mathlib.Logic.Relation
import Orchestration.Proofs.DisplayIds
import Orchestration.Proofs.SortImage
import Orchestration.Proofs.Sorted

namespace Orchestration

namespace DisplayId.Walk

-- Two walks that differ in the order of what is free, if at all.
structure Alike (v w : Walk) : Prop where
  claimed : v.claimed = w.claimed
  free : v.free.Perm w.free
  opened : v.opened = w.opened

variable {v w : Walk}

theorem Alike.claim (alike : v.Alike w) (key : String) (branch : Nat) : (v.claim key branch).Alike (w.claim key branch) where
  claimed := by simp only [Walk.claim, nextNumber, alike.claimed]
  free := alike.free.erase key
  opened := alike.opened

theorem Alike.openBranch (alike : v.Alike w) : v.openBranch.1 = w.openBranch.1 ∧ v.openBranch.2.Alike w.openBranch.2 :=
  ⟨alike.opened, alike.claimed, alike.free, congrArg (· + 1) alike.opened⟩

theorem Alike.spread (alike : v.Alike w) (branch : Nat) (continued : Bool) (cs : List String) :
    (v.spread branch continued cs).1.Alike (w.spread branch continued cs).1 ∧
      (v.spread branch continued cs).2 = (w.spread branch continued cs).2 := by
  induction cs generalizing v w continued with
  | nil => exact ⟨alike, rfl⟩
  | cons c rest ih =>
    unfold Walk.spread
    by_cases free : c ∈ v.free
    · have free' := alike.free.mem_iff.mp free
      obtain ⟨fresh, opened⟩ := alike.openBranch
      cases continued with
      | true =>
        simp only [free, free', not_true, if_false, if_true, ← fresh]
        obtain ⟨later, same⟩ := ih (opened.claim c v.openBranch.1) true
        exact ⟨later, congrArg _ same⟩
      | false =>
        simp only [free, free', not_true, if_false, Bool.false_eq_true]
        obtain ⟨later, same⟩ := ih (alike.claim c branch) true
        exact ⟨later, congrArg _ same⟩
    · have free' := mt alike.free.mem_iff.mpr free
      simp only [free, free', not_false_eq_true, if_true]
      exact ih alike continued

theorem Alike.drain (alike : v.Alike w) (children : String → List String) (queue : List (String × Nat)) :
    (v.drain children queue).Alike (w.drain children queue) := by
  fun_induction Walk.drain children v queue generalizing w with
  | case1 v => simpa [Walk.drain] using alike
  | case2 v key branch queue ih =>
    obtain ⟨spreads, same⟩ := alike.spread branch false (children key)
    rw [Walk.drain, ← same]
    exact ih spreads

theorem Alike.fromRoot (alike : v.Alike w) (children : String → List String) (root : String) :
    (v.fromRoot children root).Alike (w.fromRoot children root) := by
  unfold Walk.fromRoot
  by_cases free : root ∈ v.free
  · obtain ⟨fresh, opened⟩ := alike.openBranch
    simp only [free, alike.free.mem_iff.mp free, if_true, ← fresh]
    exact (opened.claim root v.openBranch.1).drain children _
  · simpa only [free, mt alike.free.mem_iff.mpr free, if_false] using alike

theorem Alike.fromRoots (alike : v.Alike w) (children : String → List String) (roots : List String) :
    (roots.foldl (Walk.fromRoot children) v).Alike (roots.foldl (Walk.fromRoot children) w) := by
  induction roots generalizing v w with
  | nil => exact alike
  | cons root rest ih => exact ih (alike.fromRoot children root)

end DisplayId.Walk

namespace Graph

theorem walk_alike {g h : Graph} (roots : g.roots.map Node.id = h.roots.map Node.id)
    (children : ∀ key, g.children key = h.children key) (ids : g.ids.Perm h.ids) : g.walk.Alike h.walk := by
  have start : (DisplayId.Walk.start g.ids).Alike (DisplayId.Walk.start h.ids) := ⟨rfl, ids, rfl⟩
  rw [walk, walk, roots, funext children]
  exact start.fromRoots h.children _

theorem keys_displayIds (g : Graph) : g.displayIds.map (·.1) = g.ids := by
  simp [displayIds, Function.comp_def]

theorem displayIds_alike {g h : Graph} (ids : g.ids.Perm h.ids) (alike : g.walk.Alike h.walk) :
    g.displayIds.Perm h.displayIds := by
  rw [displayIds, displayIds, alike.claimed]
  exact ids.map _

section Redraw

-- Nodes that are drawn anew where they stand: kind, payload and display id may be others.
variable {f : Node → Node} (ids : ∀ n, (f n).id = n.id) (places : ∀ n, (f n).position = n.position) (g : Graph)

def redraw (f : Node → Node) (g : Graph) : Graph := { g with nodes := g.nodes.map f }

include ids

theorem hasNode_redraw (key : String) : (g.redraw f).hasNode key = g.hasNode key := by
  simp [redraw, hasNode, Function.comp_def, ids]

theorem joins_redraw (e : Edge) : (g.redraw f).joins e = g.joins e := by
  simp only [joins, hasNode_redraw ids]

theorem ids_redraw : (g.redraw f).ids = g.ids := by
  simp [redraw, Graph.ids, Function.comp_def, ids]

theorem targets_redraw (key : String) : (g.redraw f).targets key = (g.targets key).map f := by
  have last : ∀ target, (g.redraw f).lastNode? target = (g.lastNode? target).map f := by
    intro target
    simp only [lastNode?, redraw, ← List.map_reverse, List.find?_map, Function.comp_def, ids]
  simp only [targets, joins_redraw ids, last]
  rw [List.map_filterMap]
  rfl

include places

theorem rootLt_redraw (m n : Node) : (f m).rootLt (f n) = m.rootLt n := by
  simp only [Node.rootLt, Node.rootKey, ids, places]

theorem childLt_redraw (m n : Node) : (f m).childLt (f n) = m.childLt n := by
  simp only [Node.childLt, Node.childKey, ids, places]

theorem roots_redraw : (g.redraw f).roots = g.roots.map f := by
  have incoming : ∀ key, (g.redraw f).hasIncoming key = g.hasIncoming key := by
    intro key
    simp only [hasIncoming, joins_redraw ids]
    rfl
  have free : (g.redraw f).nodes.filter (fun n => !(g.redraw f).hasIncoming n.id) =
      (g.nodes.filter fun n => !g.hasIncoming n.id).map f := by
    change (g.nodes.map f).filter (fun n => !(g.redraw f).hasIncoming n.id) = _
    rw [List.filter_map]
    simp only [Function.comp_def, incoming, ids]
  unfold roots
  rw [free]
  cases g.nodes.filter fun n => !g.hasIncoming n.id with
  | nil =>
    simp only [List.map_nil]
    rw [redraw, Sort.least?_map f (rootLt_redraw ids places)]
    cases Sort.least? Node.rootLt g.nodes <;> rfl
  | cons n rest =>
    rw [← Sort.sort_map f (rootLt_redraw ids places)]
    rfl

theorem walk_redraw : (g.redraw f).walk = g.walk := by
  have roots : (g.redraw f).roots.map Node.id = g.roots.map Node.id := by
    rw [roots_redraw ids places, List.map_map]
    exact List.map_congr_left fun n _ => ids n
  have children : (g.redraw f).children = g.children := by
    funext key
    rw [children, children, targets_redraw ids, Sort.sort_map f (childLt_redraw ids places), List.map_map]
    exact List.map_congr_left fun n _ => ids n
  rw [walk, walk, roots, children, ids_redraw ids]

theorem displayIds_redraw : (g.redraw f).displayIds = g.displayIds := by
  rw [displayIds, displayIds, walk_redraw ids places, ids_redraw ids]

end Redraw

end Graph

namespace Binary64

-- The rank of what is a number.
def order (x : Binary64) : Int := x.rank.getD 0

variable {x y : Binary64}

theorem rank_eq_order (number : ∀ shared, x ≠ .nan shared) : x.rank = some x.order := by
  cases x with
  | nan shared => exact absurd rfl (number shared)
  | infinite | finite => rfl

theorem lt_eq_order (number : ∀ shared, x ≠ .nan shared) (number' : ∀ shared, y ≠ .nan shared) :
    x.lt y = decide (x.order < y.order) := by
  simp only [lt, rank_eq_order number, rank_eq_order number']

theorem same_iff_order (number : ∀ shared, x ≠ .nan shared) (number' : ∀ shared, y ≠ .nan shared) :
    x.same y = true ↔ x.order = y.order := by
  have rank := rank_eq_order number
  have rank' := rank_eq_order number'
  cases x <;> cases y <;> simp_all [same]

end Binary64

namespace Node

-- The places in which nodes are sorted, as one linear order each: by rank, then by id.
def rootRank (n : Node) : Int ×ₗ Int ×ₗ String := toLex (n.position.x.order, toLex (n.position.y.order, n.id))

def childRank (n : Node) : Int ×ₗ Int ×ₗ String := toLex (n.position.y.order, toLex (n.position.x.order, n.id))

def site (n : Node) : String × Position := (n.id, n.position)

-- Neither coordinate is NaN.
def Sited (n : Node) : Prop := (∀ shared, n.position.x ≠ .nan shared) ∧ ∀ shared, n.position.y ≠ .nan shared

instance (n : Node) : Decidable n.Sited := inferInstanceAs (Decidable (_ ∧ _))

end Node

theorem Position.keyLt_eq {x y x' y' : Binary64} (name name' : String) (left : ∀ shared, x ≠ .nan shared)
    (left' : ∀ shared, y ≠ .nan shared) (right : ∀ shared, x' ≠ .nan shared) (right' : ∀ shared, y' ≠ .nan shared) :
    keyLt (x, y, name) (x', y', name') =
      decide ((toLex (x.order, toLex (y.order, name)) : Int ×ₗ Int ×ₗ String) <
        toLex (x'.order, toLex (y'.order, name'))) := by
  have first := Binary64.same_iff_order left right
  have second := Binary64.same_iff_order left' right'
  simp only [keyLt, Binary64.lt_eq_order left right, Binary64.lt_eq_order left' right', Prod.Lex.toLex_lt_toLex]
  by_cases equal : x.order = x'.order
  · by_cases equal' : y.order = y'.order
    · simp [first.mpr equal, second.mpr equal', equal, equal']
    · have unequal : y.same y' = false := Bool.eq_false_iff.mpr (mt second.mp equal')
      simp [first.mpr equal, unequal, equal, equal']
  · have unequal : x.same x' = false := Bool.eq_false_iff.mpr (mt first.mp equal)
    simp [unequal, equal]

namespace Node

variable {m n : Node}

theorem rootLt_eq (left : m.Sited) (right : n.Sited) : m.rootLt n = decide (m.rootRank < n.rootRank) :=
  Position.keyLt_eq m.id n.id left.1 left.2 right.1 right.2

theorem childLt_eq (left : m.Sited) (right : n.Sited) : m.childLt n = decide (m.childRank < n.childRank) :=
  Position.keyLt_eq m.id n.id left.2 left.1 right.2 right.1

-- One id at one place, where zeros are equal whatever their signs.
structure SamePlace (m n : Node) : Prop where
  id : m.id = n.id
  x : m.position.x.same n.position.x = true
  y : m.position.y.same n.position.y = true

instance (m n : Node) : Decidable (m.SamePlace n) :=
  decidable_of_iff (m.id = n.id ∧ m.position.x.same n.position.x = true ∧ m.position.y.same n.position.y = true)
    ⟨fun ⟨id, x, y⟩ => ⟨id, x, y⟩, fun same => ⟨same.id, same.x, same.y⟩⟩

theorem SamePlace.rootRank (same : m.SamePlace n) (left : m.Sited) (right : n.Sited) : m.rootRank = n.rootRank := by
  rw [Node.rootRank, (Binary64.same_iff_order left.1 right.1).mp same.x,
    (Binary64.same_iff_order left.2 right.2).mp same.y, same.id, Node.rootRank]

theorem SamePlace.childRank (same : m.SamePlace n) (left : m.Sited) (right : n.Sited) : m.childRank = n.childRank := by
  rw [Node.childRank, (Binary64.same_iff_order left.1 right.1).mp same.x,
    (Binary64.same_iff_order left.2 right.2).mp same.y, same.id, Node.childRank]

theorem id_of_rootRank (same : m.rootRank = n.rootRank) : m.id = n.id := congrArg (fun k => (ofLex (ofLex k).2).2) same

theorem id_of_childRank (same : m.childRank = n.childRank) : m.id = n.id := congrArg (fun k => (ofLex (ofLex k).2).2) same

end Node

def Edge.ends (e : Edge) : String × String := (e.source, e.target)

namespace Graph

-- Distinct ids, and no coordinate that is NaN.
structure Located (g : Graph) : Prop where
  distinct : (g.nodes.map Node.id).Nodup
  sited : ∀ n ∈ g.nodes, n.Sited

instance (g : Graph) : Decidable g.Located :=
  decidable_of_iff ((g.nodes.map Node.id).Nodup ∧ ∀ n ∈ g.nodes, n.Sited)
    ⟨fun ⟨distinct, sited⟩ => ⟨distinct, sited⟩, fun located => ⟨located.distinct, located.sited⟩⟩

def Joined (g : Graph) (source target : String) : Prop :=
  ∃ e ∈ g.edges, g.joins e = true ∧ e.source = source ∧ e.target = target

-- The same ids at the same places, and the same pairs of nodes that are joined.
structure SameStructure (g h : Graph) : Prop where
  covered : ∀ n ∈ g.nodes, ∃ m ∈ h.nodes, n.SamePlace m
  covers : ∀ m ∈ h.nodes, ∃ n ∈ g.nodes, n.SamePlace m
  joined : ∀ source target, g.Joined source target ↔ h.Joined source target

-- The same map from ids to display ids.
def SameLabels (g h : Graph) : Prop :=
  g.displayIds.Perm h.displayIds ∧ ∀ key, g.displayIds.find? key = h.displayIds.find? key

theorem hasIncoming_iff {g : Graph} {key : String} : g.hasIncoming key = true ↔ ∃ source, g.Joined source key := by
  simp only [hasIncoming, List.any_eq_true, Bool.and_eq_true, beq_iff_eq, Joined]
  constructor
  · rintro ⟨e, mem, target, joined⟩
    exact ⟨e.source, e, mem, joined, rfl, target⟩
  · rintro ⟨_, e, mem, joined, _, target⟩
    exact ⟨e, mem, target, joined⟩

theorem ranks_perm {xs ys : List Node} {rank : Node → κ} (distinct : (xs.map Node.id).Nodup)
    (distinct' : (ys.map Node.id).Nodup) (named : ∀ m n, rank m = rank n → m.id = n.id)
    (covered : ∀ n ∈ xs, ∃ m ∈ ys, rank n = rank m) (covers : ∀ m ∈ ys, ∃ n ∈ xs, rank n = rank m) :
    (xs.map rank).Perm (ys.map rank) := by
  have single : ∀ {zs : List Node}, (zs.map Node.id).Nodup → (zs.map rank).Nodup := by
    intro zs ids
    rw [List.nodup_map_iff_inj_on ids.of_map]
    exact fun m mem n mem' same => List.inj_on_of_nodup_map ids mem mem' (named m n same)
  rw [List.perm_ext_iff_of_nodup (single distinct) (single distinct')]
  intro k
  simp only [List.mem_map]
  constructor
  · rintro ⟨n, mem, rfl⟩
    obtain ⟨m, mem', same⟩ := covered n mem
    exact ⟨m, mem', same.symm⟩
  · rintro ⟨m, mem, rfl⟩
    obtain ⟨n, mem', same⟩ := covers m mem
    exact ⟨n, mem', same⟩

variable {g h : Graph}

theorem SameStructure.hasNode (same : g.SameStructure h) (key : String) : g.hasNode key = h.hasNode key := by
  rw [Bool.eq_iff_iff, hasNode_iff, hasNode_iff]
  constructor
  · rintro ⟨n, mem, rfl⟩
    obtain ⟨m, mem', place⟩ := same.covered n mem
    exact ⟨m, mem', place.id.symm⟩
  · rintro ⟨m, mem, rfl⟩
    obtain ⟨n, mem', place⟩ := same.covers m mem
    exact ⟨n, mem', place.id⟩

theorem SameStructure.ids (same : g.SameStructure h) : g.ids.Perm h.ids := by
  rw [List.perm_ext_iff_of_nodup g.ids_nodup h.ids_nodup]
  intro key
  rw [mem_ids, mem_ids, same.hasNode]

theorem SameStructure.hasIncoming (same : g.SameStructure h) (key : String) : g.hasIncoming key = h.hasIncoming key := by
  rw [Bool.eq_iff_iff, hasIncoming_iff, hasIncoming_iff]
  exact exists_congr fun source => same.joined source key

theorem sorted_roots {xs : List Node} (sited : ∀ n ∈ xs, n.Sited) :
    (Sort.sort Node.rootLt xs).map Node.rootRank = Sort.sort (fun a b => decide (a < b)) (xs.map Node.rootRank) :=
  (Sort.sort_map_of_mem Node.rootRank fun m mem n mem' => (Node.rootLt_eq (sited m mem) (sited n mem')).symm).symm

theorem sorted_children {xs : List Node} (sited : ∀ n ∈ xs, n.Sited) :
    (Sort.sort Node.childLt xs).map Node.childRank = Sort.sort (fun a b => decide (a < b)) (xs.map Node.childRank) :=
  (Sort.sort_map_of_mem Node.childRank fun m mem n mem' => (Node.childLt_eq (sited m mem) (sited n mem')).symm).symm

theorem chosen_rank (located : g.Located) (located' : h.Located) (same : g.SameStructure h) (p : String → Bool) :
    ((g.nodes.filter fun n => p n.id).map Node.rootRank).Perm ((h.nodes.filter fun n => p n.id).map Node.rootRank) := by
  refine ranks_perm (located.distinct.sublist (List.filter_sublist.map _))
    (located'.distinct.sublist (List.filter_sublist.map _)) (fun _ _ => Node.id_of_rootRank) ?_ ?_
  · intro n mem
    obtain ⟨among, chosen⟩ := List.mem_filter.mp mem
    obtain ⟨m, mem', place⟩ := same.covered n among
    exact ⟨m, List.mem_filter.mpr ⟨mem', place.id ▸ chosen⟩, place.rootRank (located.sited n among) (located'.sited m mem')⟩
  · intro m mem
    obtain ⟨among, chosen⟩ := List.mem_filter.mp mem
    obtain ⟨n, mem', place⟩ := same.covers m among
    exact ⟨n, List.mem_filter.mpr ⟨mem', place.id ▸ chosen⟩, place.rootRank (located.sited n mem') (located'.sited m among)⟩

theorem roots_rank (located : g.Located) (located' : h.Located) (same : g.SameStructure h) :
    g.roots.map Node.rootRank = h.roots.map Node.rootRank := by
  have least : ∀ {k : Graph}, k.Located → (Sort.least? Node.rootLt k.nodes).map Node.rootRank =
      Sort.least? (fun a b => decide (a < b)) (k.nodes.map Node.rootRank) := fun located =>
    (Sort.least?_map_of_mem Node.rootRank fun m mem n mem' =>
      (Node.rootLt_eq (located.sited m mem) (located.sited n mem')).symm).symm
  have free := chosen_rank located located' same (!g.hasIncoming ·)
  have all := chosen_rank located located' same fun _ => true
  simp only [List.filter_true] at all
  have incoming : ∀ n : Node, (!h.hasIncoming n.id) = !g.hasIncoming n.id := fun n => by rw [same.hasIncoming]
  have among : ∀ n ∈ g.nodes.filter (fun n => !g.hasIncoming n.id), n.Sited :=
    fun n mem => located.sited n (List.mem_filter.mp mem).1
  have among' : ∀ n ∈ h.nodes.filter (fun n => !g.hasIncoming n.id), n.Sited :=
    fun n mem => located'.sited n (List.mem_filter.mp mem).1
  unfold roots
  simp only [incoming]
  generalize g.nodes.filter (fun n => !g.hasIncoming n.id) = xs at *
  generalize h.nodes.filter (fun n => !g.hasIncoming n.id) = ys at *
  cases xs with
  | nil =>
    cases List.map_eq_nil_iff.mp (List.nil_perm.mp free)
    rw [← Option.toList_map, ← Option.toList_map, least located, least located', Sort.least?_linear_eq all]
  | cons n rest =>
    cases ys with
    | nil => exact absurd (List.perm_nil.mp free) (List.cons_ne_nil _ _)
    | cons m rest' =>
      change (Sort.sort Node.rootLt (n :: rest)).map _ = (Sort.sort Node.rootLt (m :: rest')).map _
      rw [sorted_roots among, sorted_roots among', Sort.sort_linear_eq free]

theorem ids_targets (g : Graph) (key : String) : (g.targets key).map Node.id =
    ((g.edges.filter fun e => e.source == key && g.joins e).map Edge.target).eraseDups := by
  rw [targets, List.map_filterMap]
  refine (List.filterMap_congr fun target mem => ?_).trans (List.filterMap_some ..)
  obtain ⟨e, edge, rfl⟩ := List.mem_map.mp (List.mem_eraseDups.mp mem)
  have joined := (Bool.and_eq_true_iff.mp (List.mem_filter.mp edge).2).2
  obtain ⟨n, found⟩ := lastNode_isSome (joins_iff.mp joined).2
  rw [found, Option.map_some, (mem_of_lastNode found).2]

theorem targets_nodup (g : Graph) (key : String) : ((g.targets key).map Node.id).Nodup := by
  rw [ids_targets]
  exact eraseDups_nodup _

theorem mem_targets (distinct : (g.nodes.map Node.id).Nodup) {key : String} {n : Node} :
    n ∈ g.targets key ↔ n ∈ g.nodes ∧ g.Joined key n.id := by
  simp only [targets, List.mem_filterMap, List.mem_eraseDups, List.mem_map, List.mem_filter, Bool.and_eq_true, beq_iff_eq]
  constructor
  · rintro ⟨_, ⟨e, ⟨edge, source, joined⟩, rfl⟩, found⟩
    obtain ⟨mem, same⟩ := mem_of_lastNode found
    exact ⟨mem, e, edge, joined, source, same.symm⟩
  · rintro ⟨mem, e, edge, joined, source, target⟩
    obtain ⟨m, found⟩ := lastNode_isSome (joins_iff.mp joined).2
    obtain ⟨mem', same⟩ := mem_of_lastNode found
    cases List.inj_on_of_nodup_map distinct mem mem' (target.symm.trans same.symm)
    exact ⟨e.target, ⟨e, ⟨edge, source, joined⟩, rfl⟩, found⟩

theorem targets_rank (located : g.Located) (located' : h.Located) (same : g.SameStructure h) (key : String) :
    ((g.targets key).map Node.childRank).Perm ((h.targets key).map Node.childRank) := by
  refine ranks_perm (g.targets_nodup key) (h.targets_nodup key) (fun _ _ => Node.id_of_childRank) ?_ ?_
  · intro n mem
    obtain ⟨among, joined⟩ := (mem_targets located.distinct).mp mem
    obtain ⟨m, mem', place⟩ := same.covered n among
    exact ⟨m, (mem_targets located'.distinct).mpr ⟨mem', place.id ▸ (same.joined _ _).mp joined⟩,
      place.childRank (located.sited n among) (located'.sited m mem')⟩
  · intro m mem
    obtain ⟨among, joined⟩ := (mem_targets located'.distinct).mp mem
    obtain ⟨n, mem', place⟩ := same.covers m among
    exact ⟨n, (mem_targets located.distinct).mpr ⟨mem', place.id ▸ (same.joined _ _).mpr joined⟩,
      place.childRank (located.sited n mem') (located'.sited m among)⟩

theorem children_rank (located : g.Located) (key : String) : g.children key =
    (Sort.sort (fun a b => decide (a < b)) ((g.targets key).map Node.childRank)).map
      fun r => (ofLex (ofLex r).2).2 := by
  rw [children, ← sorted_children fun n mem => located.sited n ((mem_targets located.distinct).mp mem).1, List.map_map]
  rfl

theorem walk_of_structure (located : g.Located) (located' : h.Located) (same : g.SameStructure h) :
    g.walk.Alike h.walk := by
  refine walk_alike ?_ (fun key => ?_) same.ids
  · have names : ∀ k : Graph, k.roots.map Node.id = (k.roots.map Node.rootRank).map fun r => (ofLex (ofLex r).2).2 := by
      intro k
      rw [List.map_map]
      rfl
    rw [names, names, roots_rank located located' same]
  · rw [children_rank located, children_rank located', Sort.sort_linear_eq (targets_rank located located' same key)]

theorem sameLabels_of_structure (located : g.Located) (located' : h.Located) (same : g.SameStructure h) :
    g.SameLabels h := by
  have perm := displayIds_alike same.ids (walk_of_structure located located' same)
  exact ⟨perm, Keyed.find?_of_perm perm (g.keys_displayIds ▸ g.ids_nodup)⟩

theorem SameLabels.symm (same : g.SameLabels h) : h.SameLabels g :=
  ⟨same.1.symm, fun key => (same.2 key).symm⟩

theorem SameLabels.trans (left : g.SameLabels h) (right : h.SameLabels k) : g.SameLabels k :=
  ⟨left.1.trans right.1, fun key => (left.2 key).trans (right.2 key)⟩

-- What labels do not see: the order of nodes and of edges, an edge that is there twice or that leads
-- nowhere, and all that is written on nodes and edges but for ids, places and ends.
inductive Unseen (g : Graph) : Graph → Prop where
  | nodes {nodes : List Node} : (g.nodes.map Node.site).Perm (nodes.map Node.site) → Unseen g ⟨nodes, g.edges⟩
  | edges {edges : List Edge} : (g.edges.map Edge.ends).Perm (edges.map Edge.ends) → Unseen g ⟨g.nodes, edges⟩
  | twice : e ∈ g.edges → e'.ends = e.ends → Unseen g ⟨g.nodes, e' :: g.edges⟩
  | dangling : g.joins e = false → Unseen g ⟨g.nodes, e :: g.edges⟩

-- Located is a matter of ids and places.
theorem located_of_sites {nodes : List Node} (perm : (g.nodes.map Node.site).Perm (nodes.map Node.site))
    (located : g.Located) (edges : List Edge) : Located ⟨nodes, edges⟩ := by
  have ids := (perm.map Prod.fst).nodup_iff
  simp only [List.map_map] at ids
  refine ⟨ids.mp located.distinct, fun n mem => ?_⟩
  obtain ⟨m, mem', same⟩ := List.mem_map.mp (perm.mem_iff.mpr (List.mem_map_of_mem mem))
  have place : m.position = n.position := congrArg Prod.snd same
  have sited := located.sited m mem'
  rwa [Node.Sited, place] at sited

theorem Unseen.located (unseen : g.Unseen h) : g.Located ↔ h.Located := by
  cases unseen with
  | nodes perm =>
    exact ⟨fun located => located_of_sites perm located _, fun located => located_of_sites perm.symm located _⟩
  | edges | twice | dangling =>
    exact ⟨fun located => ⟨located.distinct, located.sited⟩, fun located => ⟨located.distinct, located.sited⟩⟩

theorem samePlace_of_site {m n : Node} (sited : m.Sited) (same : m.site = n.site) : m.SamePlace n := by
  have place : m.position = n.position := congrArg Prod.snd same
  exact ⟨congrArg Prod.fst same, (Binary64.same_iff_order sited.1 (place ▸ sited.1)).mpr (by rw [place]),
    (Binary64.same_iff_order sited.2 (place ▸ sited.2)).mpr (by rw [place])⟩

theorem sameStructure_of_joined (located : g.Located) {edges : List Edge}
    (joined : ∀ source target, g.Joined source target ↔ Joined ⟨g.nodes, edges⟩ source target) :
    g.SameStructure ⟨g.nodes, edges⟩ where
  covered := fun n mem => ⟨n, mem, samePlace_of_site (located.sited n mem) rfl⟩
  covers := fun n mem => ⟨n, mem, samePlace_of_site (located.sited n mem) rfl⟩
  joined := joined

-- Whether an edge joins two nodes is a matter of its ends and of the ids.
theorem joined_iff_ends {g : Graph} {source target : String} :
    g.Joined source target ↔
      (source, target) ∈ g.edges.map Edge.ends ∧ g.hasNode source = true ∧ g.hasNode target = true := by
  simp only [Joined, joins_iff, List.mem_map, Edge.ends, Prod.mk.injEq]
  constructor
  · rintro ⟨e, mem, known, rfl, rfl⟩
    exact ⟨⟨e, mem, rfl, rfl⟩, known⟩
  · rintro ⟨⟨e, mem, rfl, rfl⟩, known⟩
    exact ⟨e, mem, known, rfl, rfl⟩

theorem Unseen.structure (unseen : g.Unseen h) (located : g.Located) : g.SameStructure h := by
  cases unseen with
  | @nodes nodes perm =>
    have known : ∀ key, g.hasNode key = hasNode ⟨nodes, g.edges⟩ key := by
      intro key
      have ids := (perm.map Prod.fst).mem_iff (a := key)
      simp only [List.map_map] at ids
      rw [Bool.eq_iff_iff, hasNode_iff, hasNode_iff, ← List.mem_map, ← List.mem_map]
      exact ids
    refine ⟨fun n mem => ?_, fun m mem => ?_, fun source target => ?_⟩
    · obtain ⟨m, mem', same⟩ := List.mem_map.mp (perm.mem_iff.mp (List.mem_map_of_mem mem))
      exact ⟨m, mem', samePlace_of_site (located.sited n mem) same.symm⟩
    · obtain ⟨n, mem', same⟩ := List.mem_map.mp (perm.mem_iff.mpr (List.mem_map_of_mem mem))
      exact ⟨n, mem', samePlace_of_site (located.sited n mem') same⟩
    · rw [joined_iff_ends, joined_iff_ends, known, known]
  | edges perm =>
    refine sameStructure_of_joined located fun source target => ?_
    rw [joined_iff_ends, joined_iff_ends, perm.mem_iff]
    rfl
  | @twice e e' mem same =>
    refine sameStructure_of_joined located fun source target => ?_
    have known : e'.ends ∈ g.edges.map Edge.ends := same ▸ List.mem_map_of_mem mem
    rw [joined_iff_ends, joined_iff_ends, List.map_cons, List.mem_cons, or_iff_right_of_imp fun first => first ▸ known]
    rfl
  | dangling loose =>
    refine sameStructure_of_joined located fun source target => ?_
    rw [joined_iff_ends, joined_iff_ends, List.map_cons, List.mem_cons]
    refine ⟨fun joined => ⟨Or.inr joined.1, joined.2⟩, ?_⟩
    rintro ⟨first | later, known⟩
    · cases first
      have joins : g.joins _ = true := joins_iff.mpr known
      rw [loose] at joins
      cases joins
    · exact ⟨later, known⟩

-- Roots and children are sorted by rank and id, which leaves no ties, so the order in which nodes and edges are
-- listed is not seen.
theorem displayIds_structural (g : Graph) (located : g.Located) :
    (∀ h : Graph, h.Located → g.SameStructure h → g.SameLabels h) ∧
      ∀ h, Relation.EqvGen Unseen g h → g.SameLabels h := by
  refine ⟨fun h located' same => sameLabels_of_structure located located' same, fun h unseen => ?_⟩
  have step : (g.Located ↔ h.Located) ∧ (g.Located → g.SameLabels h) := by
    clear located
    induction unseen with
    | rel g h unseen =>
      exact ⟨unseen.located, fun located =>
        sameLabels_of_structure located (unseen.located.mp located) (unseen.structure located)⟩
    | refl g => exact ⟨Iff.rfl, fun _ => ⟨.refl _, fun _ => rfl⟩⟩
    | symm g h _ ih => exact ⟨ih.1.symm, fun located => (ih.2 (ih.1.mpr located)).symm⟩
    | trans g h k _ _ left right =>
      exact ⟨left.1.trans right.1, fun located => (left.2 located).trans (right.2 (left.1.mp located))⟩
  exact step.2 located

-- A node above two others in one place, and the same drawn in another way: the zeros have other
-- signs, an edge is there twice, and another one leads nowhere.
def above : Graph where
  nodes :=
    [⟨"a", ⟨.zero, .ofInt 1⟩, none, ⟨"", 0, .hours, .delay, []⟩⟩, ⟨"b", .origin, none, ⟨"", 0, .hours, .delay, []⟩⟩,
      ⟨"c", .origin, some "C7", ⟨"", 0, .hours, .delay, []⟩⟩]
  edges := [⟨"e1", "a", "b", none, none⟩, ⟨"e2", "a", "c", none, none⟩]

def above' : Graph where
  nodes :=
    [⟨"c", ⟨.finite true 0, .zero⟩, none, ⟨"", 0, .days, .delay, []⟩⟩, ⟨"b", .origin, none, ⟨"B", 0, .hours, .delay, []⟩⟩,
      ⟨"a", ⟨.zero, .ofInt 1⟩, some "A1", ⟨"", 0, .hours, .delay, []⟩⟩]
  edges := [⟨"e2", "a", "c", none, none⟩, ⟨"e1", "a", "b", some "success", none⟩, ⟨"e3", "a", "c", none, some "again"⟩,
    ⟨"e4", "c", "ghost", none, none⟩]

theorem above_same : above.SameStructure above' := by
  refine ⟨by decide +kernel, by decide +kernel, fun source target => ?_⟩
  rw [joined_iff_ends, joined_iff_ends]
  simp only [above, above', hasNode, Edge.ends, List.map_cons, List.map_nil, List.mem_cons, List.not_mem_nil,
    List.any_cons, List.any_nil, Prod.mk.injEq]
  grind

theorem above_labels : above.Located ∧ above.SameStructure above' ∧ above.SameLabels above' := by
  have located : above.Located := by decide +kernel
  have located' : above'.Located := by decide +kernel
  exact ⟨located, above_same, (displayIds_structural above located).1 above' located' above_same⟩

end Graph

end Orchestration
