import Mathlib.Data.List.Chain
import Orchestration.Proofs.StructureLabels

namespace Orchestration

namespace DisplayId

namespace Walk

variable {children : String → List String} {starts : List String} {w v : Walk} {branch : Nat}
  {queue : List (String × Nat)}

theorem mem_held {kv : String × DisplayId} : kv ∈ w.held b ↔ kv ∈ w.claimed ∧ kv.2.branch = b := by
  simp [held]

theorem held_opened (below : ∀ kv ∈ w.claimed, kv.2.branch < w.opened) : w.held w.opened = [] := by
  refine List.eq_nil_iff_forall_not_mem.mpr fun kv mem => ?_
  obtain ⟨claimed, same⟩ := mem_held.mp mem
  exact absurd same (Nat.ne_of_lt (below kv claimed))

-- Every letter is a path along children, and begins with a start or with a child of a node of an earlier
-- letter. The queue holds the ends of some of these paths.
structure Threads (children : String → List String) (starts : List String) (w : Walk)
    (queue : List (String × Nat)) : Prop where
  chained : ∀ b, (w.held b).IsChain fun p c => c.1 ∈ children p.1
  opening : ∀ kv ∈ w.claimed, kv.2.number = 1 →
    kv.1 ∈ starts ∨ ∃ p ∈ w.claimed, p.2.branch < kv.2.branch ∧ kv.1 ∈ children p.1
  tips : ∀ q ∈ queue, ∃ d, (w.held q.2).getLast? = some (q.1, d)
  apart : (queue.map (·.2)).Nodup
  below : ∀ kv ∈ w.claimed, kv.2.branch < w.opened

theorem start_threads (children : String → List String) (starts ids : List String) :
    Threads children starts (start ids) [] where
  chained := fun _ => .nil
  opening := fun _ mem => nomatch mem
  tips := fun _ mem => nomatch mem
  apart := .nil
  below := fun _ mem => nomatch mem

theorem Threads.drop (threads : Threads children starts w (q :: queue)) : Threads children starts w queue where
  chained := threads.chained
  opening := threads.opening
  tips := fun q mem => threads.tips q (List.mem_cons_of_mem _ mem)
  apart := (List.nodup_cons.mp threads.apart).2
  below := threads.below

theorem Threads.tip_claimed (threads : Threads children starts w queue) (mem : (key, branch) ∈ queue) :
    ∃ d, (key, d) ∈ w.claimed ∧ d.branch = branch := by
  obtain ⟨d, last⟩ := threads.tips _ mem
  obtain ⟨claimed, same⟩ := mem_held.mp (List.mem_of_getLast? last)
  exact ⟨d, claimed, same⟩

theorem Threads.onward (threads : Threads children starts w ((key, branch) :: queue)) (child : c ∈ children key) :
    Threads children starts (w.claim c branch) (queue ++ [(c, branch)]) := by
  obtain ⟨d, last⟩ := threads.tips _ List.mem_cons_self
  obtain ⟨alone, apart⟩ := List.nodup_cons.mp threads.apart
  have some : w.held branch ≠ [] := by
    intro none
    rw [none] at last
    cases last
  refine ⟨fun b => ?_, fun kv mem first => ?_, fun q mem => ?_, ?_, fun kv mem => ?_⟩
  · rw [held_claim]
    split
    · rename_i same
      subst same
      refine List.isChain_append.mpr ⟨threads.chained branch, .singleton _, fun p tip c' head => ?_⟩
      cases last.symm.trans tip
      cases head
      exact child
    · exact threads.chained b
  · rcases List.mem_append.mp mem with old | new
    · rcases threads.opening kv old first with start | ⟨p, parent, earlier⟩
      · exact .inl start
      · exact .inr ⟨p, List.mem_append_left _ parent, earlier⟩
    · cases List.mem_singleton.mp new
      exact absurd (List.length_eq_zero_iff.mp (Nat.succ.inj first)) some
  · rw [held_claim]
    rcases List.mem_append.mp mem with old | new
    · have other : branch ≠ q.2 := by
        rintro rfl
        exact alone (List.mem_map.mpr ⟨q, old, rfl⟩)
      rw [if_neg other]
      exact threads.tips q (List.mem_cons_of_mem _ old)
    · cases List.mem_singleton.mp new
      rw [if_pos rfl]
      exact ⟨_, List.getLast?_concat⟩
  · rw [List.map_append]
    exact List.nodup_append.mpr ⟨apart, List.nodup_singleton _, by
      rintro b mem _ new rfl
      exact alone (List.mem_singleton.mp new ▸ mem)⟩
  · rcases List.mem_append.mp mem with old | new
    · exact threads.below kv old
    · cases List.mem_singleton.mp new
      obtain ⟨d, claimed, rfl⟩ := threads.tip_claimed List.mem_cons_self
      exact threads.below (key, d) claimed

-- A new letter is opened with a start, or with a child of a node that is claimed.
theorem Threads.opens (threads : Threads children starts w queue)
    (allowed : c ∈ starts ∨ ∃ p ∈ w.claimed, c ∈ children p.1) :
    Threads children starts (w.openBranch.2.claim c w.opened) (queue ++ [(c, w.opened)]) := by
  have fresh : w.openBranch.2.held w.opened = [] := held_opened threads.below
  have late : ∀ q ∈ queue, w.opened ≠ q.2 := by
    intro q mem
    obtain ⟨d, claimed, same⟩ := threads.tip_claimed mem
    exact (Nat.ne_of_lt (same ▸ threads.below _ claimed)).symm
  refine ⟨fun b => ?_, fun kv mem first => ?_, fun q mem => ?_, ?_, fun kv mem => ?_⟩
  · rw [held_claim]
    split
    · rename_i same
      subst same
      rw [fresh]
      exact .singleton _
    · exact threads.chained b
  · rcases List.mem_append.mp mem with old | new
    · rcases threads.opening kv old first with start | ⟨p, parent, earlier⟩
      · exact .inl start
      · exact .inr ⟨p, List.mem_append_left _ parent, earlier⟩
    · cases List.mem_singleton.mp new
      refine allowed.imp_right fun ⟨p, parent, child⟩ => ?_
      exact ⟨p, List.mem_append_left _ parent, threads.below p parent, child⟩
  · rw [held_claim]
    rcases List.mem_append.mp mem with old | new
    · rw [if_neg (late q old)]
      exact threads.tips q old
    · cases List.mem_singleton.mp new
      rw [if_pos rfl]
      exact ⟨_, List.getLast?_concat⟩
  · rw [List.map_append]
    exact List.nodup_append.mpr ⟨threads.apart, List.nodup_singleton _, by
      rintro b mem _ new rfl
      obtain ⟨q, queued, same⟩ := List.mem_map.mp mem
      exact late q queued ((List.mem_singleton.mp new).symm.trans same.symm)⟩
  · rcases List.mem_append.mp mem with old | new
    · exact Nat.lt_succ_of_lt (threads.below kv old)
    · cases List.mem_singleton.mp new
      exact Nat.lt_succ_self _

theorem Threads.spread_opened (threads : Threads children starts w queue) (parent : p ∈ w.claimed)
    (branch : Nat) {cs : List String} (below : ∀ c ∈ cs, c ∈ children p.1) :
    Threads children starts (w.spread branch true cs).1 (queue ++ (w.spread branch true cs).2) := by
  induction cs generalizing w queue with
  | nil => rwa [spread, List.append_nil]
  | cons c cs ih =>
    obtain ⟨child, others⟩ := List.forall_mem_cons.mp below
    unfold spread
    split
    · exact ih threads parent others
    · have later := ih (threads.opens (.inr ⟨p, parent, child⟩)) (List.mem_append_left _ parent) others
      rw [List.append_assoc] at later
      exact later

theorem Threads.spread (threads : Threads children starts w ((key, branch) :: queue)) {cs : List String}
    (below : ∀ c ∈ cs, c ∈ children key) :
    Threads children starts (w.spread branch false cs).1 (queue ++ (w.spread branch false cs).2) := by
  induction cs with
  | nil =>
    rw [Walk.spread, List.append_nil]
    exact threads.drop
  | cons c cs ih =>
    obtain ⟨child, others⟩ := List.forall_mem_cons.mp below
    unfold Walk.spread
    split
    · exact ih others
    · obtain ⟨d, parent, _⟩ := threads.tip_claimed List.mem_cons_self
      have later := (threads.onward child).spread_opened (p := (key, d)) (List.mem_append_left _ parent) branch others
      rw [List.append_assoc] at later
      exact later

-- A walk that went on from another one, and claimed whatever is new under letters from some letter on.
structure Extends (w : Walk) (first : Nat) (v : Walk) : Prop where
  claimed : w.claimed ⊆ v.claimed
  opened : first ≤ v.opened
  later : ∀ kv ∈ v.claimed, kv ∈ w.claimed ∨ first ≤ kv.2.branch

theorem Extends.refl (opened : first ≤ w.opened) : w.Extends first w :=
  ⟨fun _ mem => mem, opened, fun _ mem => .inl mem⟩

theorem Extends.claim (extend : w.Extends first v) (key : String) (late : first ≤ branch) :
    w.Extends first (v.claim key branch) where
  claimed := fun _ mem => List.mem_append_left _ (extend.claimed mem)
  opened := extend.opened
  later := by
    intro kv mem
    rcases List.mem_append.mp mem with old | new
    · exact extend.later kv old
    · cases List.mem_singleton.mp new
      exact .inr late

theorem Extends.openBranch (extend : w.Extends first v) : w.Extends first v.openBranch.2 :=
  ⟨extend.claimed, Nat.le_succ_of_le extend.opened, extend.later⟩

theorem Extends.spread (extend : w.Extends first v) (late : first ≤ branch) (continued : Bool)
    (cs : List String) : w.Extends first (v.spread branch continued cs).1 ∧
      ∀ q ∈ (v.spread branch continued cs).2, first ≤ q.2 := by
  induction cs generalizing v continued with
  | nil => exact ⟨extend, fun _ mem => nomatch mem⟩
  | cons c cs ih =>
    unfold Walk.spread
    split
    · exact ih extend continued
    · split
      · obtain ⟨done, among⟩ := ih (extend.openBranch.claim c extend.opened) true
        exact ⟨done, List.forall_mem_cons.mpr ⟨extend.opened, among⟩⟩
      · obtain ⟨done, among⟩ := ih (extend.claim c late) true
        exact ⟨done, List.forall_mem_cons.mpr ⟨late, among⟩⟩

theorem Kept.number {ids : List String} (kept : w.Kept ids) (inside : i < (w.held branch).length) :
    (w.held branch)[i].2.number = i + 1 := by
  have numbers := kept.numbers branch
  have place : ((w.held branch).map (·.2.number))[i]? = some (1 + 1 * i) := by
    rw [numbers, List.getElem?_range' inside]
  rw [List.getElem?_map, List.getElem?_eq_getElem inside, Option.map_some] at place
  rw [Option.some.inj place, Nat.one_mul, Nat.add_comm]

end Walk

variable {children : String → List String} {starts : List String} {w : Walk}

theorem Step.threads (taken : Step children c d) (coming : ∀ root ∈ c.roots, root ∈ starts)
    (threads : Walk.Threads children starts c.walk c.queue) :
    Walk.Threads children starts d.walk d.queue ∧ ∀ root ∈ d.roots, root ∈ starts := by
  cases taken with
  | pass _ => exact ⟨threads, fun r mem => coming r (List.mem_cons_of_mem _ mem)⟩
  | enter _ =>
    exact ⟨threads.opens (.inl (coming _ List.mem_cons_self)), fun r mem => coming r (List.mem_cons_of_mem _ mem)⟩
  | visit => exact ⟨threads.spread fun _ mem => mem, coming⟩

theorem Run.threads (run : Run children steps c d) (coming : ∀ root ∈ c.roots, root ∈ starts)
    (threads : Walk.Threads children starts c.walk c.queue) : Walk.Threads children starts d.walk d.queue := by
  induction run with
  | halt => exact threads
  | step taken _ ih =>
    obtain ⟨next, left⟩ := taken.threads coming threads
    exact ih left next

theorem Step.extends (taken : Step children c d) (late : ∀ q ∈ c.queue, first ≤ q.2)
    (extend : w.Extends first c.walk) : w.Extends first d.walk ∧ ∀ q ∈ d.queue, first ≤ q.2 := by
  cases taken with
  | pass _ => exact ⟨extend, late⟩
  | enter _ => exact ⟨extend.openBranch.claim _ extend.opened, List.forall_mem_singleton.mpr extend.opened⟩
  | visit =>
    obtain ⟨front, others⟩ := List.forall_mem_cons.mp late
    obtain ⟨done, among⟩ := extend.spread front false _
    exact ⟨done, List.forall_mem_append.mpr ⟨others, among⟩⟩

theorem Run.extends (run : Run children steps c d) (late : ∀ q ∈ c.queue, first ≤ q.2)
    (extend : w.Extends first c.walk) : w.Extends first d.walk := by
  induction run with
  | halt => exact extend
  | step taken _ ih =>
    obtain ⟨next, among⟩ := taken.extends late extend
    exact ih among next

end DisplayId

namespace Graph

variable {g : Graph}

-- A node has a label: a letter, counted from zero, and a number, counted from one.
def Shows (g : Graph) (key : String) (letter number : Nat) : Prop :=
  (key, some (Letters.ofIndex letter ++ toString number)) ∈ g.displayIds

instance (g : Graph) (key : String) (letter number : Nat) : Decidable (g.Shows key letter number) :=
  inferInstanceAs (Decidable (_ ∈ _))

theorem shows_iff : g.Shows key letter number ↔ (key, ⟨letter, number⟩) ∈ g.walk.claimed := by
  rw [Shows, label_mem_displayIds]
  constructor
  · rintro ⟨d, mem, same⟩
    cases DisplayId.text_inj (e := ⟨letter, number⟩) same
    exact mem
  · exact fun mem => ⟨_, mem, rfl⟩

theorem walk_threads (g : Graph) :
    DisplayId.Walk.Threads g.children (g.roots.map Node.id) g.walk [] := by
  obtain ⟨_, _, run⟩ := g.walk_runs
  exact run.threads (fun _ mem => mem) (DisplayId.Walk.start_threads ..)

theorem joined_of_onward (first : g.Shows a letter i) (second : g.Shows b letter (i + 1)) : g.Joined a b := by
  have kept := g.walk_kept
  obtain ⟨j, here, same⟩ := List.getElem_of_mem (DisplayId.Walk.mem_held.mpr ⟨shows_iff.mp first, rfl⟩)
  obtain ⟨k, there, same'⟩ := List.getElem_of_mem (DisplayId.Walk.mem_held.mpr ⟨shows_iff.mp second, rfl⟩)
  have number := kept.number here
  have number' := kept.number there
  rw [same] at number
  rw [same'] at number'
  obtain rfl : k = j + 1 := Nat.succ.inj (number'.symm.trans (congrArg (· + 1) number))
  have child := List.isChain_iff_getElem.mp (g.walk_threads.chained letter) j there
  rw [same, same'] at child
  exact mem_children.mp child

theorem parent_of_opening (shown : g.Shows key letter 1) :
    (∃ r ∈ g.roots, r.id = key) ∨ ∃ parent l i, g.Shows parent l i ∧ l < letter ∧ g.Joined parent key := by
  rcases g.walk_threads.opening _ (shows_iff.mp shown) rfl with root | ⟨⟨parent, d⟩, claimed, earlier, child⟩
  · exact .inl (List.mem_map.mp root)
  · exact .inr ⟨parent, d.branch, d.number, shows_iff.mpr claimed, earlier, mem_children.mp child⟩

theorem walkFrom_extends (before after : List String) :
    (g.walkFrom before).Extends (g.walkFrom before).opened (g.walkFrom (before ++ after)) := by
  obtain ⟨_, run⟩ := DisplayId.fromRoots_runs g.children after (g.walkFrom before)
  have extend := run.extends (fun _ mem => nomatch mem) (.refl (Nat.le_refl _))
  rwa [walkFrom, ← List.foldl_append] at extend

theorem walkFrom_root {before : List String} (free : r ∈ (g.walkFrom before).free) :
    (r, ⟨(g.walkFrom before).opened, 1⟩) ∈ (g.walkFrom (before ++ [r])).claimed := by
  let w := g.walkFrom before
  have entered : g.walkFrom (before ++ [r]) =
      (w.openBranch.2.claim r w.opened).drain g.children [(r, w.opened)] := by
    rw [walkFrom, List.foldl_append]
    exact if_pos free
  obtain ⟨_, run⟩ := DisplayId.drain_runs g.children [] (w.openBranch.2.claim r w.opened) [(r, w.opened)]
  have extend := run.extends (List.forall_mem_singleton.mpr (Nat.le_refl w.opened)) (.refl (Nat.le_succ _))
  rw [entered]
  refine extend.claimed (List.mem_append_right _ (List.mem_singleton.mpr ?_))
  have fresh : w.openBranch.2.held w.opened = [] := DisplayId.Walk.held_opened (g.walkFrom_kept before).below
  have number : w.openBranch.2.nextNumber w.opened = 1 := congrArg (List.length · + 1) fresh
  rw [number]

section Roots

theorem Reaches.incoming (path : g.Reaches start key) (other : start ≠ key) : g.hasIncoming key = true := by
  cases path with
  | here => exact absurd rfl other
  | along _ edge joined => exact List.any_eq_true.mpr ⟨_, edge, by simp [joined]⟩

-- If an edge leads to a root, that is only since edges lead to all nodes.
theorem roots_of_incoming (root : r ∈ g.roots) (incoming : g.hasIncoming r.id = true) : g.roots = [r] := by
  unfold roots at root ⊢
  split at root
  · rw [Option.mem_toList.mp root]
    rfl
  · have free := (List.mem_filter.mp ((Sort.sort_perm Node.rootLt _).mem_iff.mp root)).2
    rw [incoming] at free
    cases free

variable (distinct : (g.nodes.map Node.id).Nodup)
include distinct

theorem roots_distinct : (g.roots.map Node.id).Nodup := by
  unfold roots
  split
  · cases Sort.least? Node.rootLt g.nodes <;> simp
  · rw [((Sort.sort_perm Node.rootLt _).map Node.id).nodup_iff]
    exact distinct.sublist (List.filter_sublist.map _)

variable {before after : List Node} (split : g.roots = before ++ r :: after)
include split

theorem root_unreached : ∀ p ∈ before, ¬ g.Reaches p.id r.id := by
  intro p mem path
  have single := roots_distinct distinct
  rw [split, List.map_append, List.map_cons] at single
  have other : p.id ≠ r.id := (List.nodup_append.mp single).2.2 _ (List.mem_map_of_mem mem) _ List.mem_cons_self
  have alone := roots_of_incoming (split ▸ List.mem_append_right _ List.mem_cons_self) (path.incoming other)
  rw [split, List.append_eq_singleton_iff] at alone
  rcases alone with ⟨rfl, _⟩ | ⟨_, none⟩
  · cases mem
  · cases none

theorem root_opens : (r.id, ⟨(g.walkFrom (before.map Node.id)).opened, 1⟩) ∈
    (g.walkFrom ((before ++ [r]).map Node.id)).claimed := by
  have known : ∀ p ∈ before ++ [r], g.hasNode p.id = true := by
    intro p mem
    refine hasNode_of_mem (roots_mem ?_)
    rw [split, ← List.singleton_append, ← List.append_assoc]
    exact List.mem_append_left _ mem
  have free : r.id ∈ (g.walkFrom (before.map Node.id)).free := by
    by_contra taken
    have named := mem_ids.mpr (known r (List.mem_append_right _ List.mem_cons_self))
    obtain ⟨_, earlier, path⟩ := (claimed_walkFrom (List.forall_mem_map.mpr fun p mem =>
      known p (List.mem_append_left _ mem))).mp ((g.walkFrom_kept _).claimed_of_taken named taken)
    obtain ⟨p, mem, rfl⟩ := List.mem_map.mp earlier
    exact root_unreached distinct split p mem path
  rw [List.map_append]
  exact walkFrom_root free

theorem root_shows : g.Shows r.id (g.walkFrom (before.map Node.id)).opened 1 := by
  have extend := g.walkFrom_extends ((before ++ [r]).map Node.id) (after.map Node.id)
  rw [← List.map_append, List.append_assoc, List.singleton_append, ← split] at extend
  exact shows_iff.mpr (extend.claimed (root_opens distinct split))

end Roots

-- The first root, in order, from which a node is reached.
def FirstReached (g : Graph) (before : List Node) (r : Node) (key : String) : Prop :=
  g.Reaches r.id key ∧ ∀ p ∈ before, ¬ g.Reaches p.id key

theorem first_reached (reached : g.Reachable key) :
    ∃ before r after, g.roots = before ++ r :: after ∧ g.FirstReached before r key := by
  classical
  obtain ⟨root, mem, path⟩ := reached
  have found : (g.roots.find? fun r => decide (g.Reaches r.id key)).isSome :=
    List.find?_isSome.mpr ⟨root, mem, decide_eq_true path⟩
  obtain ⟨r, first⟩ := Option.isSome_iff_exists.mp found
  obtain ⟨here, before, after, split, others⟩ := List.find?_eq_some_iff_append.mp first
  exact ⟨before, r, after, split, of_decide_eq_true here, fun p mem => by simpa using others p mem⟩

-- What a root is the first to reach is claimed in its own walk.
theorem letter_between (split : g.roots = before ++ r :: after) (first : g.FirstReached before r key)
    (shown : g.Shows key letter number) : (g.walkFrom (before.map Node.id)).opened ≤ letter ∧
      letter < (g.walkFrom ((before ++ [r]).map Node.id)).opened := by
  have known : ∀ p ∈ g.roots.map Node.id, g.hasNode p = true :=
    List.forall_mem_map.mpr fun p mem => hasNode_of_mem (roots_mem mem)
  have claimed := shows_iff.mp shown
  have names : g.roots.map Node.id = before.map Node.id ++ (r :: after).map Node.id := by
    rw [split, List.map_append]
  have names' : g.roots.map Node.id = (before ++ [r]).map Node.id ++ after.map Node.id := by
    rw [split, ← List.map_append, List.append_assoc, List.singleton_append]
  constructor
  · have extend := g.walkFrom_extends (before.map Node.id) ((r :: after).map Node.id)
    rw [← names] at extend
    refine (extend.later _ claimed).resolve_left fun early => ?_
    obtain ⟨_, earlier, path⟩ := (claimed_walkFrom fun p mem =>
      known p (names ▸ List.mem_append_left _ mem)).mp ⟨_, early⟩
    obtain ⟨p, mem, rfl⟩ := List.mem_map.mp earlier
    exact first.2 p mem path
  · have extend := g.walkFrom_extends ((before ++ [r]).map Node.id) (after.map Node.id)
    rw [← names'] at extend
    obtain ⟨d, done⟩ := (claimed_walkFrom fun p mem => known p (names' ▸ List.mem_append_left _ mem)).mpr
      ⟨r.id, List.mem_map_of_mem (List.mem_append_right _ List.mem_cons_self), first.1⟩
    have same := (Keyed.find?_of_mem g.claims_nodup (extend.claimed done)).symm.trans
      (Keyed.find?_of_mem g.claims_nodup claimed)
    cases same
    exact (g.walkFrom_kept _).below _ done

-- Where letters lead, where they begin, and in which order the roots take them.
structure Lettered (g : Graph) : Prop where
  onward : ∀ a b letter i, g.Shows a letter i → g.Shows b letter (i + 1) → g.Joined a b
  opening : ∀ key letter, g.Shows key letter 1 → (∃ r ∈ g.roots, r.id = key) ∨
    ∃ parent earlier i, g.Shows parent earlier i ∧ earlier < letter ∧ g.Joined parent key
  roots : ∀ r ∈ g.roots, ∃ letter, g.Shows r.id letter 1
  rising : g.roots.Pairwise fun r s => ∃ k l, g.Shows r.id k 1 ∧ g.Shows s.id l 1 ∧ k < l
  blocks : ∀ key letter i, g.Shows key letter i →
    ∃ before r after, g.roots = before ++ r :: after ∧ g.FirstReached before r key ∧
      (∃ own, g.Shows r.id own 1 ∧ own ≤ letter) ∧
      ∀ next ∈ after.head?, ∃ later, g.Shows next.id later 1 ∧ letter < later

theorem roots_rising (distinct : (g.nodes.map Node.id).Nodup) {before after : List Node}
    (split : g.roots = before ++ after) :
    after.Pairwise fun r s => ∃ k l, g.Shows r.id k 1 ∧ g.Shows s.id l 1 ∧ k < l := by
  induction after generalizing before with
  | nil => exact .nil
  | cons r after ih =>
    have behind : g.roots = (before ++ [r]) ++ after := by rw [split, List.append_assoc, List.singleton_append]
    refine .cons (fun s mem => ?_) (ih behind)
    obtain ⟨middle, rest, rfl⟩ := List.append_of_mem mem
    rw [← List.append_assoc] at behind
    have opened := (g.walkFrom_extends ((before ++ [r]).map Node.id) (middle.map Node.id)).opened
    rw [← List.map_append] at opened
    have below := (g.walkFrom_kept _).below _ (root_opens distinct split)
    exact ⟨_, _, root_shows distinct split, root_shows distinct behind, Nat.lt_of_lt_of_le below opened⟩

-- A letter is a path, and the roots are drained in turn: the letters from one root up to the next are those of the
-- nodes that no root before the first of the two reaches.
theorem letters_in_turn (distinct : (g.nodes.map Node.id).Nodup) : g.Lettered where
  onward := fun _ _ _ _ => joined_of_onward
  opening := fun _ _ => parent_of_opening
  roots := by
    intro r mem
    obtain ⟨before, after, split⟩ := List.append_of_mem mem
    exact ⟨_, root_shows distinct split⟩
  rising := roots_rising distinct (List.nil_append _).symm
  blocks := by
    intro key letter i shown
    obtain ⟨before, r, after, split, first⟩ := first_reached (claimed_iff.mp ⟨_, shows_iff.mp shown⟩)
    obtain ⟨least, most⟩ := letter_between split first shown
    refine ⟨before, r, after, split, first, ⟨_, root_shows distinct split, least⟩, fun next front => ?_⟩
    obtain ⟨rest, rfl⟩ : ∃ rest, after = next :: rest := List.head?_eq_some_iff.mp front
    have behind : g.roots = (before ++ [r]) ++ next :: rest := by
      rw [split, List.append_assoc, List.singleton_append]
    exact ⟨_, root_shows distinct behind, most⟩

-- Two roots that meet: a leads to b and c, and d, further to the right, to c and e.
def meeting : Graph where
  nodes :=
    [⟨"d", ⟨.ofInt 1, .zero⟩, none, ⟨"", 0, .hours, .delay, []⟩⟩, ⟨"a", .origin, none, ⟨"", 0, .hours, .delay, []⟩⟩,
      ⟨"b", .origin, none, ⟨"", 0, .hours, .delay, []⟩⟩, ⟨"c", .origin, none, ⟨"", 0, .hours, .delay, []⟩⟩,
      ⟨"e", .origin, none, ⟨"", 0, .hours, .delay, []⟩⟩]
  edges := [⟨"e1", "d", "c", none, none⟩, ⟨"e2", "d", "e", none, none⟩, ⟨"e3", "a", "b", none, none⟩,
    ⟨"e4", "a", "c", none, none⟩]

theorem meeting_in_turn : (meeting.nodes.map Node.id).Nodup ∧ meeting.Lettered ∧ meeting.Shows "a" 0 1 ∧
    meeting.Shows "b" 0 2 ∧ meeting.Shows "c" 1 1 ∧ meeting.Shows "d" 2 1 ∧ meeting.Shows "e" 2 2 := by
  have distinct : (meeting.nodes.map Node.id).Nodup := by decide +kernel
  exact ⟨distinct, letters_in_turn distinct, by decide +kernel⟩

end Graph
end Orchestration
