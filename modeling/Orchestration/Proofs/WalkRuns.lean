import Mathlib.Data.List.Nodup
import Orchestration.DisplayId.Walk

namespace Orchestration.DisplayId

-- The walk as a machine: the roots still to come, the nodes still to be visited, and the claims so far. Each step
-- uses up a root, a place in the queue or a free id.
structure Config where
  roots : List String
  queue : List (String × Nat)
  walk : Walk

inductive Step (children : String → List String) : Config → Config → Prop where
  | pass : root ∉ w.free → Step children ⟨root :: roots, [], w⟩ ⟨roots, [], w⟩
  | enter : root ∈ w.free →
      Step children ⟨root :: roots, [], w⟩ ⟨roots, [(root, w.opened)], w.openBranch.2.claim root w.opened⟩
  | visit {branch : Nat} : Step children ⟨roots, (key, branch) :: queue, w⟩
      ⟨roots, queue ++ (w.spread branch false (children key)).2, (w.spread branch false (children key)).1⟩

inductive Run (children : String → List String) : Nat → Config → Config → Prop where
  | halt : Run children 0 c c
  | step : Step children c d → Run children steps d e → Run children (steps + 1) c e

theorem Run.trans {children : String → List String} (first : Run children steps c d)
    (second : Run children more d e) : Run children (steps + more) c e := by
  induction first with
  | halt => rwa [Nat.zero_add]
  | step taken _ ih =>
    rw [Nat.add_right_comm]
    exact .step taken (ih second)

-- What a step uses up.
def Config.budget (c : Config) : Nat := c.roots.length + c.queue.length + c.walk.free.length

theorem Step.budget {children : String → List String} (taken : Step children c d) :
    d.budget + 1 = c.budget := by
  cases taken with
  | pass _ => simp [Config.budget]; omega
  | @enter root w roots opened =>
    have shorter := List.length_erase_of_mem opened
    have positive := List.length_pos_of_mem opened
    simp only [Config.budget, Walk.openBranch, Walk.claim, List.length_cons, List.length_nil]
    omega
  | @visit roots key queue w branch =>
    have spent := Walk.length_spread w branch false (children key)
    simp only [Config.budget, List.length_append, List.length_cons]
    omega

theorem Run.budget {children : String → List String} (run : Run children steps c d) :
    d.budget + steps = c.budget := by
  induction run with
  | halt => rfl
  | step taken _ ih =>
    have one := taken.budget
    omega

-- The induction is the one that drains the queue.
theorem drain_runs (children : String → List String) (roots : List String) (w : Walk)
    (queue : List (String × Nat)) :
    ∃ steps, Run children steps ⟨roots, queue, w⟩ ⟨roots, [], w.drain children queue⟩ := by
  induction w, queue using Walk.drain.induct children with
  | case1 w =>
    rw [Walk.drain]
    exact ⟨0, .halt⟩
  | case2 w key branch queue ih =>
    obtain ⟨steps, run⟩ := ih
    rw [Walk.drain]
    exact ⟨steps + 1, .step .visit run⟩

theorem fromRoots_runs (children : String → List String) (roots : List String) (w : Walk) :
    ∃ steps, Run children steps ⟨roots, [], w⟩ ⟨[], [], roots.foldl (Walk.fromRoot children) w⟩ := by
  induction roots generalizing w with
  | nil => exact ⟨0, .halt⟩
  | cons root roots ih =>
    rw [List.foldl_cons]
    obtain ⟨later, rest⟩ := ih (w.fromRoot children root)
    by_cases opened : root ∈ w.free
    · have entered : w.fromRoot children root =
          (w.openBranch.2.claim root w.opened).drain children [(root, w.opened)] := by
        simp [Walk.fromRoot, opened, Walk.openBranch]
      obtain ⟨steps, run⟩ :=
        drain_runs children roots (w.openBranch.2.claim root w.opened) [(root, w.opened)]
      rw [← entered] at run
      exact ⟨_, .step (.enter opened) (run.trans rest)⟩
    · have passed : w.fromRoot children root = w := by
        simp [Walk.fromRoot, opened]
      rw [passed] at rest ⊢
      exact ⟨_, .step (.pass opened) rest⟩

namespace Walk

-- The claims in a branch, oldest first.
def held (w : Walk) (branch : Nat) : Keyed DisplayId := w.claimed.filter (·.2.branch == branch)

-- Every id is claimed or free but not both, and the claims in a branch are numbered from one on.
structure Kept (ids : List String) (w : Walk) : Prop where
  parts : (w.claimed.map (·.1) ++ w.free).Perm ids
  numbers : ∀ b, (w.held b).map (·.2.number) = List.range' 1 (w.held b).length
  below : ∀ kv ∈ w.claimed, kv.2.branch < w.opened

-- No branch is open in vain.
def Filled (w : Walk) : Prop := ∀ b < w.opened, ∃ kv ∈ w.claimed, kv.2.branch = b

variable {ids : List String} {w v : Walk}

theorem Kept.free_nodup (kept : w.Kept ids) (distinct : ids.Nodup) : w.free.Nodup :=
  (List.nodup_append.mp (kept.parts.nodup_iff.mpr distinct)).2.1

theorem Kept.claimed_nodup (kept : w.Kept ids) (distinct : ids.Nodup) : (w.claimed.map (·.1)).Nodup :=
  (List.nodup_append.mp (kept.parts.nodup_iff.mpr distinct)).1

theorem Kept.claimed_of_taken (kept : w.Kept ids) (known : key ∈ ids) (taken : key ∉ w.free) :
    ∃ d, (key, d) ∈ w.claimed := by
  rcases List.mem_append.mp (kept.parts.mem_iff.mpr known) with claimed | free
  · obtain ⟨⟨_, d⟩, mem, rfl⟩ := List.mem_map.mp claimed
    exact ⟨d, mem⟩
  · exact absurd free taken

theorem start_kept (ids : List String) : (start ids).Kept ids where
  parts := List.Perm.refl _
  numbers := fun _ => rfl
  below := fun _ mem => nomatch mem

theorem held_claim (w : Walk) (key : String) (branch b : Nat) :
    (w.claim key branch).held b =
      if branch = b then w.held b ++ [(key, ⟨branch, (w.held b).length + 1⟩)] else w.held b := by
  by_cases same : branch = b
  · subst same
    simp [claim, held, nextNumber]
  · simp [claim, held, same]

theorem Kept.claim (kept : w.Kept ids) (free : key ∈ w.free) {branch : Nat} (opened : branch < w.opened) :
    (w.claim key branch).Kept ids where
  parts := by
    have moved : ((w.claim key branch).claimed.map (·.1) ++ (w.claim key branch).free) =
        w.claimed.map (·.1) ++ key :: w.free.erase key := by
      simp [Walk.claim]
    rw [moved]
    exact ((List.perm_cons_erase free).symm.append_left _).trans kept.parts
  numbers := by
    intro b
    rw [held_claim]
    by_cases same : branch = b
    · rw [if_pos same, List.map_append, kept.numbers b, List.length_append, List.length_singleton,
        List.range'_1_concat, Nat.add_comm 1]
      rfl
    · rw [if_neg same]
      exact kept.numbers b
  below := by
    intro kv mem
    rcases List.mem_append.mp mem with old | new
    · exact kept.below kv old
    · cases List.mem_singleton.mp new
      exact opened

theorem Kept.openBranch (kept : w.Kept ids) : w.openBranch.2.Kept ids where
  parts := kept.parts
  numbers := kept.numbers
  below := fun kv mem => Nat.lt_succ_of_lt (kept.below kv mem)

theorem Filled.claim (filled : w.Filled) (key : String) (branch : Nat) : (w.claim key branch).Filled := by
  intro b opened
  obtain ⟨kv, mem, same⟩ := filled b opened
  exact ⟨kv, List.mem_append_left _ mem, same⟩

theorem Filled.openBranch (filled : w.Filled) (key : String) :
    (w.openBranch.2.claim key w.opened).Filled := by
  intro b opened
  rcases Nat.lt_or_eq_of_le (Nat.le_of_lt_succ opened) with old | rfl
  · obtain ⟨kv, mem, same⟩ := filled b old
    exact ⟨kv, List.mem_append_left _ mem, same⟩
  · exact ⟨_, List.mem_append_right _ List.mem_cons_self, rfl⟩

-- What spreading over children does to the claims: the walk after it and the nodes that it queues.
structure Spreads (ids : List String) (w : Walk) (cs : List String) (v : Walk)
    (more : List (String × Nat)) : Prop where
  kept : v.Kept ids
  filled : v.Filled
  opened : w.opened ≤ v.opened
  free : ∀ key ∈ v.free, key ∈ w.free
  new : ∀ kv ∈ v.claimed, kv ∈ w.claimed ∨ kv.1 ∈ more.map (·.1)
  among : ∀ q ∈ more, q.1 ∈ cs ∧ q.2 < v.opened
  spent : ∀ c ∈ cs, c ∉ v.free

theorem Spreads.cons {u : Walk} {branch : Nat} (later : Spreads ids u cs v more) (distinct : w.free.Nodup)
    (grown : w.opened ≤ u.opened) (claimed : u.claimed = w.claimed ++ [(c, d)])
    (left : u.free = w.free.erase c) (known : branch < u.opened) :
    Spreads ids w (c :: cs) v ((c, branch) :: more) where
  kept := later.kept
  filled := later.filled
  opened := Nat.le_trans grown later.opened
  free := by
    intro key mem
    exact List.mem_of_mem_erase (left ▸ later.free key mem)
  new := by
    intro kv mem
    rcases later.new kv mem with before | queued
    · rw [claimed] at before
      rcases List.mem_append.mp before with old | this
      · exact Or.inl old
      · cases List.mem_singleton.mp this
        exact Or.inr List.mem_cons_self
    · exact Or.inr (List.mem_cons_of_mem _ queued)
  among := by
    intro q mem
    rcases List.mem_cons.mp mem with rfl | queued
    · exact ⟨List.mem_cons_self, Nat.lt_of_lt_of_le known later.opened⟩
    · exact ⟨List.mem_cons_of_mem _ (later.among q queued).1, (later.among q queued).2⟩
  spent := by
    intro child mem
    rcases List.mem_cons.mp mem with rfl | behind
    · intro still
      exact distinct.not_mem_erase (left ▸ later.free child still)
    · exact later.spent child behind

theorem spread_spreads (distinct : ids.Nodup) (kept : w.Kept ids) (filled : w.Filled) {branch : Nat}
    (opened : branch < w.opened) (continued : Bool) (cs : List String) :
    Spreads ids w cs (w.spread branch continued cs).1 (w.spread branch continued cs).2 := by
  induction cs generalizing w continued with
  | nil =>
    exact ⟨kept, filled, Nat.le_refl _, fun _ mem => mem, fun _ mem => Or.inl mem,
      fun _ mem => (nomatch mem), fun _ mem => (nomatch mem)⟩
  | cons c cs ih =>
    have single := kept.free_nodup distinct
    unfold spread
    by_cases free : c ∈ w.free
    · cases continued with
      | false =>
        simp only [free, not_true_eq_false, if_false, Bool.false_eq_true]
        exact (ih (kept.claim free opened) (filled.claim c branch) opened true).cons single
          (Nat.le_refl _) rfl rfl opened
      | true =>
        simp only [free, not_true_eq_false, if_false, if_true]
        have fresh : w.opened < w.openBranch.2.opened := Nat.lt_succ_self _
        exact (ih (kept.openBranch.claim (w := w.openBranch.2) free fresh) (filled.openBranch c)
          (Nat.lt_trans opened fresh) true).cons single (Nat.le_of_lt fresh) rfl rfl fresh
    · simp only [free, not_false_eq_true, if_true]
      have others := ih kept filled opened continued
      refine ⟨others.kept, others.filled, others.opened, others.free, others.new, ?_, ?_⟩
      · exact fun q mem => ⟨List.mem_cons_of_mem _ (others.among q mem).1, (others.among q mem).2⟩
      · intro child mem
        rcases List.mem_cons.mp mem with rfl | behind
        · exact fun still => free (others.free child still)
        · exact others.spent child behind

end Walk

-- What holds between steps. Claims go to `reached` ids only, whoever is claimed is either queued or has
-- no free child, and whatever root is passed is not free.
structure Config.Holds (children : String → List String) (ids starts : List String) (reached : String → Prop)
    (c : Config) : Prop where
  kept : c.walk.Kept ids
  filled : c.walk.Filled
  known : ∀ q ∈ c.queue, q.2 < c.walk.opened ∧ reached q.1
  claims : ∀ kv ∈ c.walk.claimed, reached kv.1
  closed : ∀ kv ∈ c.walk.claimed, kv.1 ∈ c.queue.map (·.1) ∨ ∀ child ∈ children kv.1, child ∉ c.walk.free
  started : ∀ root ∈ starts, root ∈ c.roots ∨ root ∉ c.walk.free
  coming : ∀ root ∈ c.roots, root ∈ starts

variable {children : String → List String} {ids starts : List String} {reached : String → Prop}

theorem start_holds (children : String → List String) (ids starts : List String) (reached : String → Prop) :
    Config.Holds children ids starts reached ⟨starts, [], .start ids⟩ where
  kept := Walk.start_kept ids
  filled := fun _ opened => nomatch opened
  known := fun _ mem => nomatch mem
  claims := fun _ mem => nomatch mem
  closed := fun _ mem => nomatch mem
  started := fun _ mem => Or.inl mem
  coming := fun _ mem => mem

theorem Step.holds (taken : Step children c d) (distinct : ids.Nodup) (roots : ∀ root ∈ starts, reached root)
    (grows : ∀ key, reached key → ∀ child ∈ children key, reached child)
    (holds : c.Holds children ids starts reached) : d.Holds children ids starts reached := by
  obtain ⟨kept, filled, known, claims, closed, started, coming⟩ := holds
  cases taken with
  | pass spent =>
    refine ⟨kept, filled, known, claims, closed, ?_, fun r mem => coming r (List.mem_cons_of_mem _ mem)⟩
    intro r mem
    rcases started r mem with ahead | passed
    · rcases List.mem_cons.mp ahead with rfl | behind
      · exact Or.inr spent
      · exact Or.inl behind
    · exact Or.inr passed
  | @enter root later w free =>
    have single := kept.free_nodup distinct
    have first : reached root := roots root (coming root List.mem_cons_self)
    have fresh : w.opened < w.openBranch.2.opened := Nat.lt_succ_self _
    refine ⟨kept.openBranch.claim (w := w.openBranch.2) free fresh, filled.openBranch root, ?_, ?_, ?_, ?_,
      fun r mem => coming r (List.mem_cons_of_mem _ mem)⟩
    · intro q mem
      cases List.mem_singleton.mp mem
      exact ⟨fresh, first⟩
    · intro kv mem
      rcases List.mem_append.mp mem with old | new
      · exact claims kv old
      · cases List.mem_singleton.mp new
        exact first
    · intro kv mem
      rcases List.mem_append.mp mem with old | new
      · rcases closed kv old with queued | spent
        · cases queued
        · exact Or.inr fun child mem still => spent child mem (List.mem_of_mem_erase still)
      · cases List.mem_singleton.mp new
        exact Or.inl List.mem_cons_self
    · intro r mem
      rcases started r mem with ahead | passed
      · rcases List.mem_cons.mp ahead with rfl | behind
        · exact Or.inr single.not_mem_erase
        · exact Or.inl behind
      · exact Or.inr fun still => passed (List.mem_of_mem_erase still)
  | @visit roots key queue w branch =>
    obtain ⟨opened, here⟩ := known (key, branch) List.mem_cons_self
    have spreads := Walk.spread_spreads distinct kept filled opened false (children key)
    have below : ∀ q ∈ (w.spread branch false (children key)).2, reached q.1 :=
      fun q mem => grows key here q.1 (spreads.among q mem).1
    refine ⟨spreads.kept, spreads.filled, ?_, ?_, ?_, ?_, coming⟩
    · intro q mem
      rcases List.mem_append.mp mem with waiting | queued
      · obtain ⟨early, fine⟩ := known q (List.mem_cons_of_mem _ waiting)
        exact ⟨Nat.lt_of_lt_of_le early spreads.opened, fine⟩
      · exact ⟨(spreads.among q queued).2, below q queued⟩
    · intro kv mem
      rcases spreads.new kv mem with old | queued
      · exact claims kv old
      · obtain ⟨q, among, same⟩ := List.mem_map.mp queued
        exact same ▸ below q among
    · intro kv mem
      rw [List.map_append, List.mem_append]
      rcases spreads.new kv mem with old | queued
      · rcases closed kv old with waiting | spent
        · rcases List.mem_cons.mp waiting with same | behind
          · have same : kv.1 = key := same
            exact Or.inr fun child mem => spreads.spent child (same ▸ mem)
          · exact Or.inl (Or.inl behind)
        · exact Or.inr fun child mem still => spent child mem (spreads.free child still)
      · exact Or.inl (Or.inr queued)
    · intro r mem
      rcases started r mem with ahead | passed
      · exact Or.inl ahead
      · exact Or.inr fun still => passed (spreads.free r still)

theorem Run.holds (run : Run children steps c d) (distinct : ids.Nodup) (roots : ∀ root ∈ starts, reached root)
    (grows : ∀ key, reached key → ∀ child ∈ children key, reached child)
    (holds : c.Holds children ids starts reached) : d.Holds children ids starts reached := by
  induction run with
  | halt => exact holds
  | step taken _ ih => exact ih (taken.holds distinct roots grows holds)

end Orchestration.DisplayId
