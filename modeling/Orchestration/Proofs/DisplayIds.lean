import Orchestration.Proofs.WalkRuns

namespace Orchestration

namespace Letters

theorem isDigit_letter {digit : Nat} (small : digit < 26) : (letter digit).isDigit = false := by
  have code := toNat_letter small
  have above : ¬ (letter digit).val ≤ 57 := by
    intro low
    have low : (letter digit).toNat ≤ 57 := low
    omega
  simp [Char.isDigit, above]

theorem forall_digits {P : Char → Prop} (each : ∀ digit < 26, P (letter digit)) (n : Nat) : ∀ c ∈ digits n, P c := by
  induction n using digits.induct with
  | case1 => simp [digits]
  | case2 n positive ih =>
    rw [digits, if_neg positive]
    intro c mem
    rcases List.mem_append.mp mem with before | last
    · exact ih c before
    · cases List.mem_singleton.mp last
      exact each _ (Nat.mod_lt _ (by decide))

theorem isDigit_digits (n : Nat) : ∀ c ∈ digits n, c.isDigit = false :=
  forall_digits (fun _ => isDigit_letter) n

end Letters

theorem eraseDups_nodup (xs : List String) : xs.eraseDups.Nodup := by
  match xs with
  | [] => simp
  | x :: rest =>
    rw [List.eraseDups_cons, List.nodup_cons]
    refine ⟨?_, eraseDups_nodup _⟩
    rw [List.mem_eraseDups, List.mem_filter]
    rintro ⟨_, other⟩
    simp at other
termination_by xs.length
decreasing_by exact Nat.lt_succ_of_le (List.length_filter_le _ _)

namespace DisplayId

theorem text_toList (d : DisplayId) : d.text.toList = Letters.digits (d.branch + 1) ++ Nat.toDigits 10 d.number := by
  simp only [text, Letters.ofIndex, String.toList_append, String.toList_ofList]
  rw [← Nat.toList_repr]
  rfl

-- The letters end where the digits begin, so a text gives back both.
theorem text_inj {d e : DisplayId} (same : d.text = e.text) : d = e := by
  have digit : ∀ x : DisplayId, ∀ c ∈ Nat.toDigits 10 x.number, c.isDigit = true :=
    fun _ _ mem => Nat.isDigit_of_mem_toDigits (by decide) (by decide) mem
  have letters : ∀ x : DisplayId, x.text.toList.filter (!·.isDigit) = Letters.digits (x.branch + 1) := by
    intro x
    rw [text_toList, List.filter_append, List.filter_eq_self.mpr, List.filter_eq_nil_iff.mpr, List.append_nil]
    · intro c mem
      simp [digit x c mem]
    · intro c mem
      simp [Letters.isDigit_digits _ c mem]
  have numbers : ∀ x : DisplayId, x.text.toList.filter (·.isDigit) = Nat.toDigits 10 x.number := by
    intro x
    rw [text_toList, List.filter_append, List.filter_eq_nil_iff.mpr, List.filter_eq_self.mpr, List.nil_append]
    · exact digit x
    · intro c mem
      simp [Letters.isDigit_digits _ c mem]
  have branch : Letters.digits (d.branch + 1) = Letters.digits (e.branch + 1) := by
    rw [← letters d, ← letters e, same]
  have number : Nat.toDigits 10 d.number = Nat.toDigits 10 e.number := by
    rw [← numbers d, ← numbers e, same]
  have branch : d.branch + 1 = e.branch + 1 := by
    rw [← Letters.value_digits (d.branch + 1), branch, Letters.value_digits]
  have number : d.number = e.number := by
    rw [← Nat.ofDigitChars_toDigits (b := 10) (by decide) (by decide) (n := d.number), number,
      Nat.ofDigitChars_toDigits (by decide) (by decide)]
  cases d
  cases e
  simp_all

end DisplayId

namespace Graph

-- Along edges with two ends.
inductive Reaches (g : Graph) (start : String) : String → Prop where
  | here : Reaches g start start
  | along : Reaches g start e.source → e ∈ g.edges → g.joins e = true → Reaches g start e.target

theorem joins_iff {g : Graph} {e : Edge} :
    g.joins e = true ↔ g.hasNode e.source = true ∧ g.hasNode e.target = true := by
  rw [joins, Bool.and_eq_true]

theorem mem_children {g : Graph} {key child : String} :
    child ∈ g.children key ↔ ∃ e ∈ g.edges, g.joins e = true ∧ e.source = key ∧ e.target = child := by
  have ends : ∀ target, target ∈ ((g.edges.filter fun e => e.source == key && g.joins e).map Edge.target).eraseDups ↔
      ∃ e ∈ g.edges, g.joins e = true ∧ e.source = key ∧ e.target = target := by
    intro target
    simp only [List.mem_eraseDups, List.mem_map, List.mem_filter, Bool.and_eq_true, beq_iff_eq]
    constructor
    · rintro ⟨e, ⟨mem, source, joined⟩, rfl⟩
      exact ⟨e, mem, joined, source, rfl⟩
    · rintro ⟨e, mem, joined, source, rfl⟩
      exact ⟨e, ⟨mem, source, joined⟩, rfl⟩
  rw [children, ((Sort.sort_perm Node.childLt (g.targets key)).map Node.id).mem_iff, targets, List.mem_map]
  constructor
  · rintro ⟨n, mem, rfl⟩
    obtain ⟨target, among, found⟩ := List.mem_filterMap.mp mem
    rw [(mem_of_lastNode found).2]
    exact (ends target).mp among
  · intro edge
    obtain ⟨e, mem, joined, source, rfl⟩ := edge
    obtain ⟨n, found⟩ := lastNode_isSome (joins_iff.mp joined).2
    exact ⟨n, List.mem_filterMap.mpr ⟨e.target, (ends e.target).mpr ⟨e, mem, joined, source, rfl⟩, found⟩,
      (mem_of_lastNode found).2⟩

theorem mem_ids {g : Graph} {key : String} : key ∈ g.ids ↔ g.hasNode key = true := by
  rw [ids, List.mem_eraseDups, List.mem_map, hasNode_iff]

theorem ids_nodup (g : Graph) : g.ids.Nodup := eraseDups_nodup _

theorem roots_mem {g : Graph} (root : n ∈ g.roots) : n ∈ g.nodes := by
  unfold roots at root
  split at root
  · exact Sort.least_mem (Option.mem_toList.mp root)
  · exact (List.mem_filter.mp ((Sort.sort_perm Node.rootLt _).mem_iff.mp root)).1

def Reachable (g : Graph) (key : String) : Prop := ∃ r ∈ g.roots, g.Reaches r.id key

theorem Reaches.hasNode {g : Graph} (path : g.Reaches start key) (known : g.hasNode start = true) :
    g.hasNode key = true := by
  cases path with
  | here => exact known
  | along _ _ joined => exact (joins_iff.mp joined).2

-- The walk from some of the ids.
def walkFrom (g : Graph) (starts : List String) : DisplayId.Walk :=
  starts.foldl (DisplayId.Walk.fromRoot g.children) (.start g.ids)

-- The walk halts after no more steps than there are roots and ids.
theorem walk_runs (g : Graph) :
    ∃ steps ≤ g.roots.length + g.ids.length,
      DisplayId.Run g.children steps ⟨g.roots.map Node.id, [], .start g.ids⟩ ⟨[], [], g.walk⟩ := by
  obtain ⟨steps, run⟩ :=
    DisplayId.fromRoots_runs g.children (g.roots.map Node.id) (DisplayId.Walk.start g.ids)
  have budget := run.budget
  simp only [DisplayId.Config.budget, DisplayId.Walk.start, List.length_nil, List.length_map] at budget
  exact ⟨steps, by omega, run⟩

theorem walkFrom_holds (g : Graph) (starts : List String) :
    DisplayId.Config.Holds g.children g.ids starts (fun key => ∃ r ∈ starts, g.Reaches r key)
      ⟨[], [], g.walkFrom starts⟩ := by
  obtain ⟨_, run⟩ := DisplayId.fromRoots_runs g.children starts (.start g.ids)
  refine run.holds g.ids_nodup (fun root mem => ⟨root, mem, .here⟩) ?_ (DisplayId.start_holds ..)
  rintro _ ⟨r, root, path⟩ child mem
  obtain ⟨e, edge, joined, rfl, rfl⟩ := mem_children.mp mem
  exact ⟨r, root, .along path edge joined⟩

theorem walkFrom_kept (g : Graph) (starts : List String) : (g.walkFrom starts).Kept g.ids := (g.walkFrom_holds starts).kept

theorem walk_kept (g : Graph) : g.walk.Kept g.ids := g.walkFrom_kept _

theorem claims_nodup (g : Graph) : (g.walk.claimed.map (·.1)).Nodup := g.walk_kept.claimed_nodup g.ids_nodup

-- Whoever is reached is not free, for the children of the claimed are not.
theorem claimed_walkFrom {g : Graph} {starts : List String} (known : ∀ r ∈ starts, g.hasNode r = true) :
    (∃ d, (key, d) ∈ (g.walkFrom starts).claimed) ↔ ∃ r ∈ starts, g.Reaches r key := by
  have holds := g.walkFrom_holds starts
  constructor
  · rintro ⟨d, mem⟩
    exact holds.claims _ mem
  · rintro ⟨r, root, path⟩
    refine holds.kept.claimed_of_taken (mem_ids.mpr (path.hasNode (known r root))) ?_
    induction path with
    | here =>
      rcases holds.started r root with ahead | taken
      · cases ahead
      · exact taken
    | @along e before edge joined ih =>
      have known : e.source ∈ g.ids := mem_ids.mpr (joins_iff.mp joined).1
      obtain ⟨d, mem⟩ := holds.kept.claimed_of_taken known ih
      rcases holds.closed _ mem with queued | spent
      · cases queued
      · exact spent e.target (mem_children.mpr ⟨e, edge, joined, rfl, rfl⟩)

theorem claimed_iff {g : Graph} : (∃ d, (key, d) ∈ g.walk.claimed) ↔ g.Reachable key := by
  have known : ∀ r ∈ g.roots.map Node.id, g.hasNode r = true :=
    List.forall_mem_map.mpr fun r root => hasNode_of_mem (roots_mem root)
  refine (claimed_walkFrom known).trans ?_
  simp only [List.mem_map, exists_exists_and_eq_and, Reachable]

theorem Reachable.hasNode {g : Graph} (reached : g.Reachable key) : g.hasNode key = true := by
  obtain ⟨r, root, path⟩ := reached
  exact path.hasNode (hasNode_of_mem (roots_mem root))

theorem mem_displayIds {g : Graph} {key : String} {label : Option String} :
    (key, label) ∈ g.displayIds ↔
      g.hasNode key = true ∧ label = (g.walk.claimed.find? key).map DisplayId.text := by
  simp only [displayIds, List.mem_map, Prod.mk.injEq, ← mem_ids]
  constructor
  · rintro ⟨_, known, rfl, rfl⟩
    exact ⟨known, rfl⟩
  · rintro ⟨known, rfl⟩
    exact ⟨key, known, rfl, rfl⟩

theorem label_mem_displayIds {g : Graph} {key label : String} :
    (key, some label) ∈ g.displayIds ↔ ∃ d, (key, d) ∈ g.walk.claimed ∧ d.text = label := by
  rw [mem_displayIds]
  constructor
  · rintro ⟨_, used⟩
    obtain ⟨d, found, same⟩ := Option.map_eq_some_iff.mp used.symm
    exact ⟨d, Keyed.mem_of_find? found, same⟩
  · rintro ⟨d, mem, rfl⟩
    refine ⟨(claimed_iff.mp ⟨d, mem⟩).hasNode, ?_⟩
    rw [Keyed.find?_of_mem g.claims_nodup mem, Option.map_some]

-- Labels for the nodes of a graph: one entry an id, a text exactly for what can be reached, every text
-- for one id only, and both the letters and the numbers under each letter without a gap.
structure Labeling (g : Graph) (labels : Keyed (Option String)) : Prop where
  entries : ∀ key, (∃ label, (key, label) ∈ labels) ↔ ∃ n ∈ g.nodes, n.id = key
  single : (labels.map (·.1)).Nodup
  reached : ∀ key label, (key, label) ∈ labels → (label ≠ none ↔ g.Reachable key)
  distinct : ∀ a b label, (a, some label) ∈ labels → (b, some label) ∈ labels → a = b
  gapless : ∃ (branches : Nat) (last : Nat → Nat), (∀ b < branches, 1 ≤ last b) ∧
    ∀ label, (∃ key, (key, some label) ∈ labels) ↔
      ∃ b < branches, ∃ n, 1 ≤ n ∧ n ≤ last b ∧ label = Letters.ofIndex b ++ toString n

-- Equal labels come from equal claims, which have equal places in the list of claims of a branch.
theorem displayIds_distinct {g : Graph} {a b label : String} (left : (a, some label) ∈ g.displayIds)
    (right : (b, some label) ∈ g.displayIds) : a = b := by
  obtain ⟨d, first, same⟩ := label_mem_displayIds.mp left
  obtain ⟨e, second, equal⟩ := label_mem_displayIds.mp right
  cases DisplayId.text_inj (same.trans equal.symm)
  have numbers := g.walk_kept.numbers d.branch
  have single : ((g.walk.held d.branch).map (·.2.number)).Nodup := numbers ▸ List.nodup_range'
  have held : ∀ key, (key, d) ∈ g.walk.claimed → (key, d) ∈ g.walk.held d.branch := by
    intro key mem
    exact List.mem_filter.mpr ⟨mem, by simp⟩
  have pair := List.inj_on_of_nodup_map single (held a first) (held b second) rfl
  exact congrArg Prod.fst pair

theorem number_iff {g : Graph} {branch n : Nat} :
    (∃ key, (key, ⟨branch, n⟩) ∈ g.walk.claimed) ↔ 1 ≤ n ∧ n ≤ (g.walk.held branch).length := by
  have numbers := g.walk_kept.numbers branch
  have among : n ∈ (g.walk.held branch).map (·.2.number) ↔ 1 ≤ n ∧ n ≤ (g.walk.held branch).length := by
    rw [numbers, List.mem_range'_1]
    omega
  rw [← among, List.mem_map]
  constructor
  · rintro ⟨key, mem⟩
    exact ⟨_, List.mem_filter.mpr ⟨mem, by simp⟩, rfl⟩
  · rintro ⟨⟨key, d⟩, mem, rfl⟩
    obtain ⟨claimed, same⟩ := List.mem_filter.mp mem
    have same : d.branch = branch := by simpa using same
    exact ⟨key, same ▸ claimed⟩

theorem displayIds_gapless (g : Graph) :
    (∀ b < g.walk.opened, 1 ≤ (g.walk.held b).length) ∧
      ∀ label, (∃ key, (key, some label) ∈ g.displayIds) ↔
        ∃ b < g.walk.opened, ∃ n, 1 ≤ n ∧ n ≤ (g.walk.held b).length ∧
          label = Letters.ofIndex b ++ toString n := by
  have holds := g.walkFrom_holds (g.roots.map Node.id)
  constructor
  · intro b opened
    obtain ⟨kv, mem, same⟩ := holds.filled b opened
    exact List.length_pos_of_mem (List.mem_filter.mpr ⟨mem, by simpa using same⟩)
  · intro label
    constructor
    · rintro ⟨key, used⟩
      obtain ⟨d, mem, rfl⟩ := label_mem_displayIds.mp used
      obtain ⟨least, most⟩ := number_iff.mp ⟨key, mem⟩
      exact ⟨d.branch, holds.kept.below _ mem, d.number, least, most, rfl⟩
    · rintro ⟨b, _, n, least, most, rfl⟩
      obtain ⟨key, mem⟩ := number_iff.mpr ⟨least, most⟩
      exact ⟨key, label_mem_displayIds.mpr ⟨_, mem, rfl⟩⟩

-- Exactly what a root leads to gets a label, no label is used twice and no number is left out.
theorem displayIds_labeling (g : Graph) :
    (∃ steps ≤ g.roots.length + g.ids.length,
      DisplayId.Run g.children steps ⟨g.roots.map Node.id, [], .start g.ids⟩ ⟨[], [], g.walk⟩) ∧
    g.Labeling g.displayIds := by
  refine ⟨g.walk_runs, ?_, ?_, ?_, fun _ _ _ left right => displayIds_distinct left right, ?_⟩
  · intro key
    rw [← hasNode_iff]
    constructor
    · rintro ⟨label, mem⟩
      exact (mem_displayIds.mp mem).1
    · intro present
      exact ⟨_, mem_displayIds.mpr ⟨present, rfl⟩⟩
  · have keys : g.displayIds.map (·.1) = g.ids := by
      simp [displayIds, Function.comp_def]
    rw [keys]
    exact g.ids_nodup
  · intro key label mem
    rw [← claimed_iff]
    obtain ⟨_, rfl⟩ := mem_displayIds.mp mem
    constructor
    · intro labeled
      obtain ⟨text, used⟩ := Option.ne_none_iff_exists'.mp labeled
      obtain ⟨d, found, _⟩ := Option.map_eq_some_iff.mp used
      exact ⟨d, Keyed.mem_of_find? found⟩
    · rintro ⟨d, claimed⟩
      rw [Keyed.find?_of_mem g.claims_nodup claimed]
      exact Option.some_ne_none _
  · exact ⟨_, _, g.displayIds_gapless⟩

end Graph

end Orchestration
