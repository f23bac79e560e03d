import Orchestration.Proofs.LetterPaths

namespace Orchestration

namespace DisplayId

namespace Walk

variable {w : Walk} {ids : List String}

-- Who is free stays free, or is claimed and waits.
theorem free_spread (free : key ∈ w.free) (branch : Nat) (continued : Bool) (cs : List String) :
    key ∈ (w.spread branch continued cs).1.free ∨ key ∈ (w.spread branch continued cs).2.map (·.1) := by
  induction cs generalizing w continued with
  | nil => exact .inl free
  | cons c cs ih =>
    unfold spread
    split
    · exact ih free continued
    · by_cases same : key = c
      · subst same
        split <;> exact .inr List.mem_cons_self
      · have left : key ∈ w.free.erase c := (List.mem_erase_of_ne same).mpr free
        split
        · exact (ih (w := w.openBranch.2.claim c w.opened) left true).imp_right (List.mem_cons_of_mem _)
        · exact (ih (w := w.claim c branch) left true).imp_right (List.mem_cons_of_mem _)

theorem claimed_spread (w : Walk) (branch : Nat) (continued : Bool) (cs : List String) :
    w.claimed ⊆ (w.spread branch continued cs).1.claimed :=
  ((Extends.refl (Nat.zero_le _)).spread (Nat.zero_le branch) continued cs).1.claimed

-- Children behind the first one, all of them free, open one letter after the other.
theorem spread_opens (kept : w.Kept ids) (branch : Nat) {cs : List String} (distinct : cs.Nodup)
    (free : ∀ c ∈ cs, c ∈ w.free) (place : cs[i]? = some c) :
    (c, ⟨w.opened + i, 1⟩) ∈ (w.spread branch true cs).1.claimed := by
  induction cs generalizing w i with
  | nil => cases place
  | cons first cs ih =>
    obtain ⟨single, distinct⟩ := List.nodup_cons.mp distinct
    obtain ⟨front, others⟩ := List.forall_mem_cons.mp free
    have fresh : w.opened < w.openBranch.2.opened := Nat.lt_succ_self _
    have claimed := kept.openBranch.claim (w := w.openBranch.2) front fresh
    simp only [spread, front, not_true_eq_false, if_false, if_true]
    cases i with
    | zero =>
      cases place
      have number : w.openBranch.2.nextNumber w.opened = 1 := congrArg (List.length · + 1) (held_opened kept.below)
      refine claimed_spread _ _ _ _ (List.mem_append_right _ (List.mem_singleton.mpr ?_))
      rw [Nat.add_zero, ← number]
      rfl
    | succ i =>
      have left : ∀ c ∈ cs, c ∈ w.free.erase first := by
        intro c mem
        refine (List.mem_erase_of_ne ?_).mpr (others c mem)
        rintro rfl
        exact single mem
      have later := ih claimed distinct left place
      rwa [show (w.openBranch.2.claim first w.opened).opened + i = w.opened + (i + 1) by
        simp only [openBranch, claim]; omega] at later

end Walk

variable {children : String → List String} {ids starts : List String} {reached : String → Prop} {letter : Nat}

-- Before a node is visited its children are free. From then on they have the labels that it gave to them.
inductive Fan (key first : String) (rest : List String) (c : Config) : Prop where
  | waiting (free : ∀ child ∈ first :: rest, child ∈ c.walk.free)
    (ahead : key ∈ c.walk.free ∨ key ∈ c.queue.map (·.1))
  | done (letter number next : Nat) (own : (key, ⟨letter, number⟩) ∈ c.walk.claimed)
    (onward : (first, ⟨letter, number + 1⟩) ∈ c.walk.claimed) (later : letter < next)
    (opened : ∀ i child, rest[i]? = some child → (child, ⟨next + i, 1⟩) ∈ c.walk.claimed)

theorem Step.claimed (taken : Step children c d) : c.walk.claimed ⊆ d.walk.claimed :=
  (taken.extends (fun _ _ => Nat.zero_le _) (.refl (Nat.zero_le _))).1.claimed

theorem fan_visit {w : Walk} (kept : w.Kept ids) (threads : w.Threads children starts ((key, letter) :: queue))
    (opened : letter < w.opened) (distinct : (first :: rest).Nodup) (free : ∀ child ∈ first :: rest, child ∈ w.free) :
    Fan key first rest ⟨roots, queue ++ (w.spread letter false (first :: rest)).2,
      (w.spread letter false (first :: rest)).1⟩ := by
  obtain ⟨single, distinct⟩ := List.nodup_cons.mp distinct
  obtain ⟨front, others⟩ := List.forall_mem_cons.mp free
  obtain ⟨⟨branch, number⟩, last⟩ := threads.tips _ List.mem_cons_self
  obtain ⟨claimed, same⟩ := Walk.mem_held.mp (List.mem_of_getLast? last)
  dsimp only at last same
  subst same
  -- The node is the last one under its letter, so its number is how many nodes the letter has.
  have count : (w.held branch).length = number := by
    obtain ⟨before, same⟩ := List.getLast?_eq_some_iff.mp last
    have inside : before.length < (w.held branch).length := by simp [same]
    have place := kept.number inside
    simp only [same, List.getElem_concat_length] at place
    simp [same, place]
  have left : ∀ c ∈ rest, c ∈ (w.claim first branch).free := by
    intro c mem
    refine (List.mem_erase_of_ne ?_).mpr (others c mem)
    rintro rfl
    exact single mem
  simp only [Walk.spread, front, not_true_eq_false, if_false, Bool.false_eq_true]
  have stays := (w.claim first branch).claimed_spread branch true rest
  refine .done branch number w.opened (stays (List.mem_append_left _ claimed))
    (stays (List.mem_append_right _ (List.mem_singleton.mpr ?_))) opened fun i child place => ?_
  · rw [← count]
    rfl
  · exact Walk.spread_opens (kept.claim front opened) branch distinct left place

section Fan

variable (single : ids.Nodup) (below : children key = first :: rest) (distinct : (first :: rest).Nodup)
  (alone : ∀ child ∈ first :: rest, ∀ parent, child ∈ children parent → parent = key)
  (rootless : ∀ child ∈ first :: rest, child ∉ starts)
include single below distinct alone rootless

theorem Step.fan (taken : Step children c d) (holds : c.Holds children ids starts reached)
    (threads : c.walk.Threads children starts c.queue) (fan : Fan key first rest c) : Fan key first rest d := by
  cases fan with
  | done letter number next own onward later opened =>
    exact .done letter number next (taken.claimed own) (taken.claimed onward) later fun i child place =>
      taken.claimed (opened i child place)
  | waiting free ahead =>
    cases taken with
    | pass _ => exact .waiting free ahead
    | @enter root w roots _ =>
      refine .waiting (fun child mem => ?_) ?_
      · refine (List.mem_erase_of_ne ?_).mpr (free child mem)
        rintro rfl
        exact rootless child mem (holds.coming child List.mem_cons_self)
      · by_cases same : key = root
        · exact .inr (List.mem_singleton.mpr same)
        · rcases ahead with still | queued
          · exact .inl ((List.mem_erase_of_ne same).mpr still)
          · cases queued
    | @visit roots key' queue w branch =>
      have opened := (holds.known _ List.mem_cons_self).1
      by_cases same : key' = key
      · subst same
        rw [below]
        exact fan_visit holds.kept threads opened distinct free
      · -- Another node has none of the children, so whoever it claims is not among them.
        have spreads := Walk.spread_spreads single holds.kept holds.filled opened false (children key')
        refine .waiting (fun child mem => ?_) ?_
        · refine (Walk.free_spread (free child mem) branch false _).resolve_right fun queued => ?_
          obtain ⟨q, among, rfl⟩ := List.mem_map.mp queued
          exact same (alone _ mem _ (spreads.among q among).1)
        · rw [List.map_append, List.mem_append]
          rcases ahead with still | queued
          · exact (Walk.free_spread still branch false _).imp_right .inr
          · rcases List.mem_cons.mp queued with here | behind
            · exact absurd here.symm same
            · exact .inr (.inl behind)

theorem Run.fan (run : Run children steps c d) (holds : c.Holds children ids starts fun _ => True)
    (threads : c.walk.Threads children starts c.queue) (fan : Fan key first rest c) : Fan key first rest d := by
  induction run with
  | halt => exact fan
  | step taken _ ih =>
    exact ih (taken.holds single (fun _ _ => trivial) (fun _ _ _ _ => trivial) holds)
      (taken.threads holds.coming threads).1 (taken.fan single below distinct alone rootless holds threads fan)

end Fan

end DisplayId

namespace Graph

variable {g : Graph}

-- The children of a node in the order of their places, where no two nodes are at one place with one id.
theorem children_eq (located : g.Located) {cs : List Node} (sorted : cs.Pairwise fun b c => b.childLt c = true)
    (members : ∀ c, c ∈ cs ↔ c ∈ g.nodes ∧ g.Joined key c.id) : g.children key = cs.map Node.id := by
  have rising : (cs.map Node.childRank).Pairwise (· < ·) := by
    refine List.pairwise_map.mpr (sorted.imp_of_mem fun left right before => ?_)
    have sited := located.sited _ ((members _).mp left).1
    rw [Node.childLt_eq sited (located.sited _ ((members _).mp right).1)] at before
    exact of_decide_eq_true before
  have perm : (g.targets key).Perm cs := by
    refine (List.perm_ext_iff_of_nodup (g.targets_nodup key).of_map (List.Nodup.of_map Node.childRank ?_)).mpr fun c => ?_
    · exact rising.imp ne_of_lt
    · rw [mem_targets located.distinct, members]
  have ranks : Sort.sort (fun a b => decide (a < b)) ((g.targets key).map Node.childRank) = cs.map Node.childRank := by
    refine List.Perm.eq_of_pairwise ?_ (Sort.sort_ordered Sort.compares_linear _)
      (rising.imp fun before => decide_eq_false before.asymm) ((Sort.sort_perm _ _).trans (perm.map _))
    intro a b _ _ before behind
    exact le_antisymm (not_lt.mp (of_decide_eq_false before)) (not_lt.mp (of_decide_eq_false behind))
  rw [children_rank located, ranks, List.map_map]
  rfl

theorem children_nodup (g : Graph) (key : String) : (g.children key).Nodup :=
  ((Sort.sort_perm Node.childLt _).map Node.id).nodup_iff.mpr (g.targets_nodup key)

-- That no child is the node itself need not be said: a node that is no root and has no other parent is not reached.
theorem fan_out_labels (located : g.Located) {first : Node} {rest : List Node} (shown : g.Shows key letter number)
    (sorted : (first :: rest).Pairwise fun b c => b.childLt c = true)
    (members : ∀ c, c ∈ first :: rest ↔ c ∈ g.nodes ∧ g.Joined key c.id)
    (alone : ∀ c ∈ first :: rest, ∀ source, g.Joined source c.id → source = key)
    (rootless : ∀ c ∈ first :: rest, c ∉ g.roots) :
    g.Shows first.id letter (number + 1) ∧ ∃ next, letter < next ∧
      ∀ i c, rest[i]? = some c → g.Shows c.id (next + i) 1 := by
  have below : g.children key = first.id :: rest.map Node.id := children_eq located sorted members
  have known : ∀ child ∈ first.id :: rest.map Node.id, child ∈ g.ids := by
    intro child mem
    obtain ⟨_, _, joined, _, rfl⟩ := mem_children.mp (below ▸ mem)
    exact mem_ids.mpr (joins_iff.mp joined).2
  have own : ∀ child ∈ first.id :: rest.map Node.id, ∀ parent, child ∈ g.children parent → parent = key := by
    intro child mem parent joined
    obtain ⟨c, among, rfl⟩ := List.mem_map.mp (List.map_cons ▸ mem)
    exact alone c among parent (mem_children.mp joined)
  have later : ∀ child ∈ first.id :: rest.map Node.id, child ∉ g.roots.map Node.id := by
    intro child mem root
    obtain ⟨c, among, rfl⟩ := List.mem_map.mp (List.map_cons ▸ mem)
    obtain ⟨r, chosen, same⟩ := List.mem_map.mp root
    cases List.inj_on_of_nodup_map located.distinct (roots_mem chosen) ((members c).mp among).1 same
    exact rootless c among chosen
  have claimed := shows_iff.mp shown
  have unvisited := mem_ids.mpr (claimed_iff.mp ⟨_, claimed⟩).hasNode
  obtain ⟨_, _, run⟩ := g.walk_runs
  cases run.fan g.ids_nodup below (below ▸ g.children_nodup key) own later (DisplayId.start_holds ..)
    (DisplayId.Walk.start_threads ..) (.waiting known (.inl unvisited)) with
  | waiting _ ahead =>
    have parts := g.walk_kept.parts.nodup_iff.mpr g.ids_nodup
    rcases ahead with still | queued
    · exact absurd rfl ((List.nodup_append.mp parts).2.2 _ (List.mem_map_of_mem claimed) _ still)
    · cases queued
  | done letter' number' next here onward behind opened =>
    have same := (Keyed.find?_of_mem g.claims_nodup here).symm.trans (Keyed.find?_of_mem g.claims_nodup claimed)
    cases same
    refine ⟨shows_iff.mpr onward, next, behind, fun i c place => shows_iff.mpr (opened i c.id ?_)⟩
    rw [List.getElem?_map, place, Option.map_some]

def placed (key : String) (y : Int) : Node := ⟨key, ⟨.zero, .ofInt y⟩, none, ⟨"", 0, .hours, .delay, []⟩⟩

-- The letter of b is the first one, and the second one is in use when b fans out to d, e and f.
def fanned : Graph where
  nodes := [placed "f" 2, placed "a" 0, placed "b" 0, placed "c" 1, placed "d" 0, placed "e" 1]
  edges := [⟨"e1", "a", "b", none, none⟩, ⟨"e2", "a", "c", none, none⟩, ⟨"e3", "b", "f", none, none⟩,
    ⟨"e4", "b", "d", none, none⟩, ⟨"e5", "b", "e", none, none⟩]

theorem fanned_joined : fanned.Joined source target ↔ (source, target) ∈ fanned.edges.map Edge.ends := by
  have joins : ∀ e ∈ fanned.edges, fanned.joins e = true := by decide +kernel
  simp only [Joined, List.mem_map, Edge.ends, Prod.mk.injEq]
  exact exists_congr fun e => and_congr_right fun mem => and_iff_right (joins e mem)

theorem fanned_labels : fanned.Shows "b" 0 2 ∧ fanned.Shows "d" 0 3 ∧ ∃ next, 0 < next ∧
    ∀ i c, [placed "e" 1, placed "f" 2][i]? = some c → fanned.Shows c.id (next + i) 1 := by
  have located : fanned.Located := by decide +kernel
  have shown : fanned.Shows "b" 0 2 := by decide +kernel
  have ordered : [placed "d" 0, placed "e" 1, placed "f" 2].Pairwise fun b c => b.childLt c = true := by decide +kernel
  refine ⟨shown, fan_out_labels located shown ordered (fun c => ?_) ?_ ?_⟩
  · simp only [fanned_joined]
    constructor
    · have below : ∀ c ∈ [placed "d" 0, placed "e" 1, placed "f" 2], ("b", c.id) ∈ fanned.edges.map Edge.ends := by
        decide
      intro mem
      refine ⟨?_, below c mem⟩
      simp only [fanned, List.mem_cons] at mem ⊢
      tauto
    · rintro ⟨mem, joined⟩
      simp only [fanned, List.mem_cons, List.not_mem_nil, or_false] at mem
      rcases mem with rfl | rfl | rfl | rfl | rfl | rfl
      all_goals first | exact absurd joined (by decide) | simp
  · simp only [fanned_joined]
    have above : ∀ c ∈ [placed "d" 0, placed "e" 1, placed "f" 2], ∀ ends ∈ fanned.edges.map Edge.ends,
        ends.2 = c.id → ends.1 = "b" := by decide
    exact fun c mem source joined => above c mem _ joined rfl
  · have others : ∀ c ∈ [placed "d" 0, placed "e" 1, placed "f" 2], c.id ∉ fanned.roots.map Node.id := by
      decide +kernel
    exact fun c mem root => others c mem (List.mem_map_of_mem root)

end Graph
end Orchestration
