import Orchestration.Proofs.RuleEdits
import Orchestration.Proofs.StructureLabels

namespace Orchestration

namespace Graph

-- Whether validation finds no branch for an edge.
def dangles (g : Graph) (e : Edge) : Bool := (Issue.ofEdge g e).any (·.code == "dangling_branch")

end Graph

namespace Issue

-- An edge between two steps is fine, or one thing is said about it: that it dangles.
theorem ofEdge_joined {g : Graph} {e : Edge} (joined : g.joins e = true) :
    ofEdge g e = [] ∨ ∃ i, ofEdge g e = [i] ∧ i.code = "dangling_branch" ∧ i.edgeId? = some e.id := by
  obtain ⟨source, target⟩ := Graph.joins_iff.mp joined
  obtain ⟨n, found⟩ := Graph.lastNode_isSome source
  have none : [e.source, e.target].filter (!g.hasNode ·) = [] := by simp [source, target]
  simp only [ofEdge, none, List.isEmpty_nil, Bool.not_true, Bool.false_eq_true, if_false, found]
  split
  · exact .inl rfl
  · split
    all_goals exact .inr ⟨_, rfl, rfl, rfl⟩

theorem ofEdge_loose {g : Graph} {e : Edge} (loose : ¬ g.joins e = true) :
    ∃ i, ofEdge g e = [i] ∧ i.code = "missing_endpoint" := by
  have some : ([e.source, e.target].filter (!g.hasNode ·)).isEmpty = false := by
    rw [Graph.joins_iff, not_and_or] at loose
    rcases loose with source | target
    · simp [source]
    · by_cases source : g.hasNode e.source = true <;> simp [source, target]
  simp only [ofEdge, some, Bool.not_false, if_true]
  exact ⟨_, rfl, rfl⟩

theorem edgeId_of_dangling {i : Issue} (code : i.code = "dangling_branch") : i.edgeId? ≠ none := by
  cases i with
  | noBranchChosen _ _ | unknownBranch _ _ _ => simp [edgeId?]
  | _ => simp [Issue.code] at code

end Issue

namespace Graph

theorem dangles_iff {g : Graph} {e : Edge} (distinct : (g.nodes.map Node.id).Nodup) (joined : g.joins e = true) :
    g.dangles e = true ↔ ¬ ∃ n ∈ g.nodes, n.id = e.source ∧ n.payload.details.Resolves e.sourceHandle := by
  have target := (g.hasNode_iff e.target).mp (joins_iff.mp joined).2
  have fine := ofEdge_eq_nil (e := e) distinct
  rw [and_iff_left target] at fine
  rw [← fine, dangles]
  rcases Issue.ofEdge_joined joined with none | ⟨i, one, code, -⟩
  · simp [none]
  · simp [one, code]

theorem dangling_ofEdge (g : Graph) (e : Edge) :
    ((Issue.ofEdge g e).filter (·.code == "dangling_branch")).map Issue.edgeId? =
      if g.dangles e then [some e.id] else [] := by
  by_cases joined : g.joins e = true
  · rcases Issue.ofEdge_joined joined with none | ⟨i, one, code, id⟩
    · simp [dangles, none]
    · simp [dangles, one, code, id]
  · obtain ⟨i, one, code⟩ := Issue.ofEdge_loose joined
    simp [dangles, one, code]

-- Validation tells of every edge that dangles once, in their order, and of no other edge that it does.
theorem dangling_issues {g : Graph} (inhabited : g.nodes ≠ []) (catalog : Option Catalog) :
    ((g.issues catalog).filter (·.code == "dangling_branch")).map Issue.edgeId? =
      (g.edges.filter g.dangles).map (some ·.id) := by
  have steps : (g.nodes.flatMap (Issue.ofNode catalog)).filter (·.code == "dangling_branch") = [] := by
    rw [List.filter_eq_nil_iff]
    intro i mem code
    obtain ⟨n, -, about⟩ := List.mem_flatMap.mp mem
    exact Issue.edgeId_of_dangling (beq_iff_eq.mp code) (Issue.about_ofNode about).2
  have each : ∀ es : List Edge, ((es.flatMap (Issue.ofEdge g)).filter (·.code == "dangling_branch")).map Issue.edgeId? =
      (es.filter g.dangles).map (some ·.id) := by
    intro es
    induction es with
    | nil => rfl
    | cons e rest ih =>
      rw [List.flatMap_cons, List.filter_append, List.map_append, ih, dangling_ofEdge, List.filter_cons]
      split <;> rfl
  have some : g.nodes.isEmpty = false := by simpa using inhabited
  have ids (xs : List String) (make : String → Issue) (other : ∀ x, (make x).code ≠ "dangling_branch") :
      (xs.map make).filter (·.code == "dangling_branch") = [] := by
    simp [List.filter_eq_nil_iff, other]
  simp only [issues, some, Bool.false_eq_true, if_false, List.filter_append, steps, List.append_nil]
  rw [ids _ _ fun _ => by simp [Issue.code], ids _ _ fun _ => by simp [Issue.code], List.nil_append, List.nil_append,
    each]

-- Another payload for the step of an id.
def withPayload (g : Graph) (id : String) (p : Payload Details) : Graph :=
  g.redraw fun n => if n.id == id then { n with payload := p } else n

theorem withPayload_id (id : String) (p : Payload Details) (n : Node) :
    (if n.id == id then { n with payload := p } else n).id = n.id := by
  split <;> rfl

theorem withPayload_ids (g : Graph) (id : String) (p : Payload Details) :
    (g.withPayload id p).nodes.map Node.id = g.nodes.map Node.id := by
  rw [withPayload, redraw, List.map_map]
  exact List.map_congr_left fun n _ => withPayload_id id p n

theorem joins_withPayload (g : Graph) (id : String) (p : Payload Details) (e : Edge) :
    (g.withPayload id p).joins e = g.joins e :=
  joins_redraw (withPayload_id id p) g e

theorem resolves_at {g : Graph} (distinct : (g.nodes.map Node.id).Nodup) {n : Node} (present : n ∈ g.nodes)
    (handle : Option String) :
    (∃ m ∈ g.nodes, m.id = n.id ∧ m.payload.details.Resolves handle) ↔ n.payload.details.Resolves handle := by
  constructor
  · rintro ⟨m, mem, same, resolves⟩
    cases eq_of_id_eq distinct mem present same
    exact resolves
  · exact fun resolves => ⟨n, present, rfl, resolves⟩

theorem resolves_elsewhere (g : Graph) {id key : String} (other : key ≠ id) (p : Payload Details)
    (handle : Option String) :
    (∃ m ∈ (g.withPayload id p).nodes, m.id = key ∧ m.payload.details.Resolves handle) ↔
      ∃ m ∈ g.nodes, m.id = key ∧ m.payload.details.Resolves handle := by
  simp only [withPayload, redraw, List.mem_map]
  constructor
  · rintro ⟨_, ⟨m, mem, rfl⟩, same, resolves⟩
    by_cases here : (m.id == id) = true
    · rw [if_pos here] at same
      exact absurd (same.symm.trans (eq_of_beq here)) other
    · rw [if_neg here] at same resolves
      exact ⟨m, mem, same, resolves⟩
  · rintro ⟨m, mem, rfl, resolves⟩
    have away : ¬ (m.id == id) = true := fun here => other (eq_of_beq here)
    exact ⟨m, ⟨m, mem, if_neg away⟩, rfl, resolves⟩

end Graph

-- An edge that leaves a step through one of some handles.
def Edge.LeavesBy (e : Edge) (id : String) (handles : List String) : Prop :=
  e.source = id ∧ ∃ handle ∈ handles, e.sourceHandle = some handle

-- Two graphs between which, for one step, some handles are gone and some are new. The edges through those that are gone
-- did not dangle and do so now, and the edges through those that are new did so and do no longer.
structure Graph.Alters (g h : Graph) (id : String) (gone new : List String) : Prop where
  after : ∀ e, g.joins e = true →
    (h.dangles e = true ↔ (g.dangles e = true ∨ e.LeavesBy id gone) ∧ ¬ e.LeavesBy id new)
  opened : ∀ e, g.joins e = true → e.LeavesBy id gone → g.dangles e = false
  closed : ∀ e, g.joins e = true → e.LeavesBy id new → g.dangles e = true

theorem Details.resolves_conditional {c : Conditional} {handle : Option String} :
    (Details.conditional c).Resolves handle ↔
      ∃ key, handle = some key ∧ (key = Branch.fallbackHandle ∨ key ∈ c.rules.map Rule.id) := by
  rw [Resolves]
  constructor
  · rintro (rfl | ⟨r, mem, rfl⟩)
    · exact ⟨_, rfl, .inl rfl⟩
    · exact ⟨_, rfl, .inr (List.mem_map_of_mem mem)⟩
  · rintro ⟨key, rfl, rfl | mem⟩
    · exact .inl rfl
    · obtain ⟨r, among, rfl⟩ := List.mem_map.mp mem
      exact .inr ⟨r, among, rfl⟩

theorem Edge.leavesBy_iff {e : Edge} {id key : String} (here : e.source = id) (handle : e.sourceHandle = some key)
    (handles : List String) : e.LeavesBy id handles ↔ key ∈ handles := by
  simp [LeavesBy, here, handle]

section Edited

variable {g : Graph} {n : Node} {p : Payload Details} {field field' : String} {rules made : List Rule}

variable (distinct : (g.nodes.map Node.id).Nodup) (present : n ∈ g.nodes)
  (before : n.payload.details = .conditional ⟨field, rules⟩) (after : p.details = .conditional ⟨field', made⟩)
include distinct present before after

-- Which edges dangle is told by the ids of the rules before and after.
theorem Graph.alters_of_ids {gone new : List String}
    (ids : ∀ key, key ∈ made.map Rule.id ↔ key ∈ rules.map Rule.id ∧ key ∉ gone ∨ key ∈ new)
    (was : ∀ key ∈ gone, key ≠ Branch.fallbackHandle ∧ key ∈ rules.map Rule.id)
    (fresh : ∀ key ∈ new, key ≠ Branch.fallbackHandle ∧ key ∉ rules.map Rule.id) :
    g.Alters (g.withPayload n.id p) n.id gone new := by
  have distinct' : ((g.withPayload n.id p).nodes.map Node.id).Nodup := by rwa [withPayload_ids]
  have old : ∀ e, g.joins e = true → e.source = n.id → (g.dangles e = true ↔
      ¬ ∃ key, e.sourceHandle = some key ∧ (key = Branch.fallbackHandle ∨ key ∈ rules.map Rule.id)) := by
    intro e joined here
    rw [dangles_iff distinct joined, here, resolves_at distinct present, before, Details.resolves_conditional]
  have now : ∀ e, g.joins e = true → e.source = n.id → ((g.withPayload n.id p).dangles e = true ↔
      ¬ ∃ key, e.sourceHandle = some key ∧ (key = Branch.fallbackHandle ∨ key ∈ made.map Rule.id)) := by
    intro e joined here
    have replaced : { n with payload := p } ∈ (g.withPayload n.id p).nodes :=
      List.mem_map.mpr ⟨n, present, if_pos (beq_self_eq_true _)⟩
    have resolved := resolves_at distinct' replaced e.sourceHandle
    rw [dangles_iff distinct' (by rwa [joins_withPayload]), here, resolved, after, Details.resolves_conditional]
  refine ⟨?_, ?_, ?_⟩
  · intro e joined
    by_cases here : e.source = n.id
    · rw [now e joined here, old e joined here]
      cases handle : e.sourceHandle with
      | none => simp [Edge.LeavesBy, handle]
      | some key =>
        simp only [Edge.leavesBy_iff here handle, Option.some.injEq, exists_eq_left', ids]
        have left := was key
        have right := fresh key
        tauto
    · have away : ∀ handles, ¬ e.LeavesBy n.id handles := fun _ leaves => here leaves.1
      rw [dangles_iff distinct' (by rwa [joins_withPayload]), dangles_iff distinct joined, g.resolves_elsewhere here]
      simp [away]
  · rintro e joined ⟨here, key, lost, handle⟩
    rw [← Bool.not_eq_true, old e joined here, not_not]
    exact ⟨key, handle, .inr (was key lost).2⟩
  · rintro e joined ⟨here, key, found, handle⟩
    rw [old e joined here]
    rintro ⟨_, again, used⟩
    cases handle.symm.trans again
    exact used.elim (fresh key found).1 (fresh key found).2

theorem Graph.alters_added (effect : (RuleEdit.add rule).Effect rules made) :
    g.Alters (g.withPayload n.id p) n.id [] [rule.id] := by
  cases effect with
  | add _ free unused =>
    refine alters_of_ids distinct present before after ?_ (by simp) ?_
    · intro key
      rw [List.map_append, List.mem_append, List.map_singleton, and_iff_left List.not_mem_nil]
    · intro key mem
      cases List.mem_singleton.mp mem
      exact ⟨free, unused⟩

theorem Graph.alters_moved {id index : Json} (effect : (RuleEdit.move id index).Effect rules made) :
    g.Alters (g.withPayload n.id p) n.id [] [] := by
  cases effect with
  | move _ others _ =>
    refine alters_of_ids distinct present before after ?_ (by simp) (by simp)
    intro key
    rw [Rule.mem_middle, Rule.mem_middle, others]
    simp

variable (single : (rules.map Rule.id).Nodup) (unreserved : ∀ r ∈ rules, r.id ≠ Branch.fallbackHandle)
include single unreserved

-- One rule is gone, and perhaps another one new.
theorem Graph.alters_without {front back : List Rule} {r : Rule} {new : List String}
    (shape : rules = front ++ r :: back)
    (ids : ∀ key, key ∈ made.map Rule.id ↔ key ∈ (front ++ back).map Rule.id ∨ key ∈ new)
    (fresh : ∀ key ∈ new, key ≠ Branch.fallbackHandle ∧ key ∉ rules.map Rule.id) :
    g.Alters (g.withPayload n.id p) n.id [r.id] new := by
  have mem : r ∈ rules := shape ▸ List.mem_append_right _ List.mem_cons_self
  obtain ⟨alone, -⟩ := Rule.nodup_middle.mp (shape ▸ single)
  refine alters_of_ids distinct present before after ?_ ?_ fresh
  · intro key
    have others : key ∈ rules.map Rule.id ∧ key ∉ [r.id] ↔ key ∈ (front ++ back).map Rule.id := by
      rw [shape, Rule.mem_middle, List.mem_singleton]
      constructor
      · exact fun ⟨among, different⟩ => among.resolve_left different
      · exact fun other => ⟨.inr other, fun same => alone (same ▸ other)⟩
    rw [others, ids]
  · intro key gone
    cases List.mem_singleton.mp gone
    exact ⟨unreserved r mem, List.mem_map_of_mem mem⟩

theorem Graph.alters_removed {id : Json} (effect : (RuleEdit.remove id).Effect rules made) :
    ∃ r ∈ rules, id = .str r.id ∧ g.Alters (g.withPayload n.id p) n.id [r.id] [] := by
  cases effect with
  | @remove r front back _ =>
    have mem : r ∈ front ++ r :: back := List.mem_append_right _ List.mem_cons_self
    exact ⟨r, mem, rfl, alters_without distinct present before after single unreserved rfl (by simp) (by simp)⟩

theorem Graph.alters_updated {id : Json} {patch : Members} (effect : (RuleEdit.update id patch).Effect rules made) :
    ∃ front r back r', rules = front ++ r :: back ∧ made = front ++ r' :: back ∧ id = .str r.id ∧ r.Patched patch r' ∧
      (r'.id = r.id → g.Alters (g.withPayload n.id p) n.id [] []) ∧
      (r'.id ≠ r.id → g.Alters (g.withPayload n.id p) n.id [r.id] [r'.id]) := by
  cases effect with
  | @update _ r r' front back _ patched free =>
    refine ⟨front, r, back, r', rfl, rfl, rfl, patched, fun kept => ?_, fun renamed => ?_⟩
    · refine alters_of_ids distinct present before after ?_ (by simp) (by simp)
      intro key
      rw [Rule.mem_middle, Rule.mem_middle, kept]
      simp
    · obtain ⟨free, unused⟩ := free renamed
      refine alters_without distinct present before after single unreserved rfl ?_ ?_
      · intro key
        rw [Rule.mem_middle, List.mem_singleton, or_comm]
      · intro key new
        cases List.mem_singleton.mp new
        refine ⟨free, fun used => ?_⟩
        exact (Rule.mem_middle.mp used).elim renamed unused

end Edited

-- An edit of the rules of a step changes which edges dangle just where the id of a rule goes or comes: a rule that is
-- removed leaves the edges through its id dangling, one that is renamed those through its old id, and the edges through
-- an id that is new dangle no longer. Where ids stay, all edges are as they were.
theorem edits_dangle {g : Graph} (distinct : (g.nodes.map Node.id).Nodup) {n : Node} (present : n ∈ g.nodes)
    {p q : Payload Conditional} (conditional : n.payload = p.map .conditional)
    (single : (p.details.rules.map Rule.id).Nodup) (unreserved : ∀ r ∈ p.details.rules, r.id ≠ Branch.fallbackHandle)
    {edit : RuleEdit} (edited : p.editRules edit s = .ok (q, t)) {h : Graph}
    (replaced : h = g.withPayload n.id (q.map .conditional)) :
    (∀ catalog, ∀ k ∈ [g, h], ((k.issues catalog).filter (·.code == "dangling_branch")).map Issue.edgeId? =
      (k.edges.filter k.dangles).map (some ·.id)) ∧
    (∀ rule, edit = .add rule → g.Alters h n.id [] [rule.id]) ∧
    (∀ id, edit = .remove id → ∃ r ∈ p.details.rules, id = .str r.id ∧ g.Alters h n.id [r.id] []) ∧
    (∀ id index, edit = .move id index → g.Alters h n.id [] []) ∧
    (∀ id patch, edit = .update id patch → ∃ front r back r', p.details.rules = front ++ r :: back ∧
      q.details.rules = front ++ r' :: back ∧ id = .str r.id ∧ r.Patched patch r' ∧
      (r'.id = r.id → g.Alters h n.id [] []) ∧ (r'.id ≠ r.id → g.Alters h n.id [r.id] [r'.id])) := by
  subst replaced
  obtain ⟨effect, -, -⟩ := Payload.editRules_exact.mp edited
  have before : n.payload.details = .conditional p.details := congrArg Payload.details conditional
  refine ⟨?_, ?_, ?_, ?_, ?_⟩
  · intro catalog k mem
    have inhabited : k.nodes ≠ [] := by
      have some := List.ne_nil_of_mem present
      rcases List.mem_pair.mp mem with rfl | rfl
      · exact some
      · exact fun none => some (List.map_eq_nil_iff.mp none)
    exact Graph.dangling_issues inhabited catalog
  · rintro rule rfl
    exact Graph.alters_added distinct present before rfl effect
  · rintro id rfl
    exact Graph.alters_removed distinct present before rfl single unreserved effect
  · rintro id index rfl
    exact Graph.alters_moved distinct present before rfl effect
  · rintro id patch rfl
    exact Graph.alters_updated distinct present before rfl single unreserved effect

-- A choice between two ways, of which one is taken away.
def choice : Node :=
  { id := "c", position := Position.origin, displayId := none, payload := Payload.paired.map .conditional }

def chosen : Edge := ⟨"e", "c", "c", some "a", none⟩

theorem chosen_dangles : ∃ q s, Payload.paired.editRules (.remove (.str "a")) s = .ok (q, s) ∧
    (Graph.dangles ⟨[choice], [chosen]⟩ chosen = false) ∧
    (Graph.withPayload ⟨[choice], [chosen]⟩ "c" (q.map .conditional)).dangles chosen = true := by
  have edited : Payload.paired.editRules (.remove (.str "a")) ⟨fun _ => "", 0⟩ =
      .ok ({ Payload.paired with details := ⟨"", [⟨"b", "", "", .equals, ""⟩]⟩ }, ⟨fun _ => "", 0⟩) := rfl
  obtain ⟨-, -, removed, -⟩ := edits_dangle (g := ⟨[choice], [chosen]⟩) (by decide) List.mem_cons_self rfl (by decide)
    (by decide) edited rfl
  obtain ⟨r, -, named, alters⟩ := removed _ rfl
  rw [← Json.str.inj named] at alters
  have leaves : chosen.LeavesBy "c" ["a"] := ⟨rfl, "a", List.mem_singleton_self _, rfl⟩
  have stays : ¬ chosen.LeavesBy "c" [] := by
    rintro ⟨-, _, absent, -⟩
    cases absent
  exact ⟨_, _, edited, alters.opened chosen rfl leaves, (alters.after chosen rfl).mpr ⟨.inr leaves, stays⟩⟩

end Orchestration
