import Mathlib.Data.List.Nodup
import Mathlib.Data.List.TakeWhile
import Orchestration.Issue

namespace Orchestration

namespace Text

-- A text that is more than blanks.
def Filled (s : String) : Prop := ∃ c ∈ s.toList, isBlank c = false

theorem isBlankText_eq_false {s : String} : isBlankText s = false ↔ Filled s := by
  simp [isBlankText, Filled]

theorem trimBy_eq_nil {set : Char → Bool} {cs : List Char} :
    trimBy set cs = [] ↔ ∀ c ∈ cs, set c = true := by
  constructor
  · intro trimmed
    have behind := List.dropWhile_eq_nil_iff.mp (List.reverse_eq_nil_iff.mp trimmed)
    cases left : cs.dropWhile set with
    | nil => exact List.dropWhile_eq_nil_iff.mp left
    | cons c rest =>
      have first : set c = false := by simpa [left] using List.head?_dropWhile_not set cs
      have last : set c = true := behind c (by simp [left])
      rw [first] at last
      cases last
  · intro every
    have front := List.dropWhile_eq_nil_iff.mpr every
    rw [trimBy, front]
    rfl

theorem strip_ne_empty {s : String} : strip s ≠ "" ↔ Filled s := by
  have empty : strip s = "" ↔ trimBy isBlank s.toList = [] := by
    simp [strip]
  rw [ne_eq, empty, trimBy_eq_nil, Filled]
  simp

end Text

-- What a step needs in order to run, beside a delay that is not negative.
def Details.Ready (catalog : Option Catalog) (delayValue : Int) : Details → Prop
  | .startFlow d => Text.Filled d.journeyId ∧
      ∀ c, catalog = some c → ∃ j ∈ c.journeys, j.id = Text.strip d.journeyId
  | .conditional d => Text.Filled d.switchField ∧ d.rules.length ≤ 10 ∧ (d.rules.map Rule.id).Nodup ∧
      ∀ r ∈ d.rules, r.id ≠ "else-handle"
  | .notification d => (∀ a ∈ d.audience, a ∈ knownAudiences) ∧ ∃ a ∈ d.audience, a ∈ internalAudiences
  | .triggerWorkflow d => Text.Filled d.workflowId
  | .delay => 0 < delayValue
  | .tagMutation d => Text.Filled d.addTag ∨ Text.Filled d.removeTag
  | _ => True

-- Which handles lead out of a step.
def Details.Resolves : Details → Option String → Prop
  | .conditional d, handle => handle = some "else-handle" ∨ ∃ r ∈ d.rules, handle = some r.id
  | .humanApproval _, handle => handle = some "approved" ∨ handle = some "rejected"
  | _, handle => handle = none ∨ handle = some "success"

structure Graph.Executable (g : Graph) (catalog : Option Catalog) : Prop where
  inhabited : g.nodes ≠ []
  nodeIds : (g.nodes.map Node.id).Nodup
  edgeIds : (g.edges.map Edge.id).Nodup
  delays : ∀ n ∈ g.nodes, 0 ≤ n.payload.delayValue
  ready : ∀ n ∈ g.nodes, n.payload.details.Ready catalog n.payload.delayValue
  sources : ∀ e ∈ g.edges, ∃ n ∈ g.nodes, n.id = e.source ∧ n.payload.details.Resolves e.sourceHandle
  targets : ∀ e ∈ g.edges, ∃ n ∈ g.nodes, n.id = e.target

namespace Issue

theorem when_eq_nil {condition : Bool} {i : Issue} : when condition i = [] ↔ condition = false := by
  cases condition <;> simp [when]

theorem repeated_eq_nil {xs : List String} : repeated xs = [] ↔ xs.Nodup := by
  rw [repeated, List.filter_eq_nil_iff, List.nodup_iff_count]
  constructor
  · intro single key
    by_cases mem : key ∈ xs
    · have once := single key (List.mem_eraseDups.mpr mem)
      simpa using once
    · rw [List.count_eq_zero_of_not_mem mem]
      exact Nat.zero_le 1
  · intro single key _
    simpa using single key

end Issue

namespace Conditional

-- Nothing is shared among the rules to come exactly if their ids are new and distinct.
theorem sharedIds_go_eq_nil {seen : List String} {rules : List Rule} :
    sharedIds.go seen [] rules = [] ↔ (∀ r ∈ rules, r.id ∉ seen) ∧ (rules.map Rule.id).Nodup := by
  induction rules generalizing seen with
  | nil => simp [sharedIds.go]
  | cons r rest ih =>
    rw [sharedIds.go, List.forall_mem_cons, List.map_cons, List.nodup_cons]
    by_cases used : r.id ∈ seen
    · simp [used]
    · simp only [List.contains_eq_mem, used, decide_false, Bool.false_and, Bool.false_eq_true, if_false, ih,
        List.mem_cons, not_or, not_false_eq_true, true_and]
      constructor
      · rintro ⟨fresh, distinct⟩
        refine ⟨fun q mem => (fresh q mem).2, ?_, distinct⟩
        intro mem
        obtain ⟨q, later, same⟩ := List.mem_map.mp mem
        exact (fresh q later).1 same
      · rintro ⟨fresh, first, distinct⟩
        refine ⟨fun q mem => ⟨?_, fresh q mem⟩, distinct⟩
        intro same
        exact first (List.mem_map.mpr ⟨q, mem, same⟩)

theorem sharedIds_eq_nil {d : Conditional} : d.sharedIds = [] ↔ (d.rules.map Rule.id).Nodup := by
  rw [sharedIds, sharedIds_go_eq_nil]
  simp

end Conditional

theorem Branch.mem_ofRules_handles {taken : List String} {index : Nat} {rules : List Rule} {handle : String} :
    (∃ b ∈ ofRules taken index rules, b.handle = handle) ↔ handle ∉ taken ∧ ∃ r ∈ rules, r.id = handle := by
  induction rules generalizing taken index with
  | nil => simp [ofRules]
  | cons r rest ih =>
    rw [ofRules]
    by_cases used : r.id ∈ taken
    · simp only [List.contains_eq_mem, used, decide_true, if_true, ih]
      constructor
      · rintro ⟨free, q, mem, same⟩
        exact ⟨free, q, List.mem_cons_of_mem _ mem, same⟩
      · rintro ⟨free, q, mem, same⟩
        rcases List.mem_cons.mp mem with rfl | later
        · exact absurd (same ▸ used) free
        · exact ⟨free, q, later, same⟩
    · simp only [List.contains_eq_mem, used, decide_false, Bool.false_eq_true, if_false]
      have later : (∃ b ∈ ofRules (r.id :: taken) (index + 1) rest, b.handle = handle) ↔
          handle ∉ r.id :: taken ∧ ∃ q ∈ rest, q.id = handle := ih
      constructor
      · rintro ⟨b, mem, same⟩
        rcases List.mem_cons.mp mem with rfl | behind
        · exact ⟨same ▸ used, r, List.mem_cons_self, same⟩
        · obtain ⟨free, q, mem, same⟩ := later.mp ⟨b, behind, same⟩
          exact ⟨fun taken => free (List.mem_cons_of_mem _ taken), q, List.mem_cons_of_mem _ mem, same⟩
      · rintro ⟨free, q, mem, same⟩
        by_cases first : r.id = handle
        · exact ⟨⟨r.id, ruleLabel index r⟩, List.mem_cons_self, first⟩
        · have behind : q ∈ rest := by
            rcases List.mem_cons.mp mem with rfl | behind
            · exact absurd same first
            · exact behind
          have unused : handle ∉ r.id :: taken := by
            intro mem
            rcases List.mem_cons.mp mem with rfl | mem
            · exact first rfl
            · exact free mem
          obtain ⟨b, mem, same⟩ := later.mpr ⟨unused, q, behind, same⟩
          exact ⟨b, List.mem_cons_of_mem _ mem, same⟩

theorem Conditional.mem_branches_handles {d : Conditional} {handle : String} :
    (∃ b ∈ d.branches, b.handle = handle) ↔ handle = Branch.fallbackHandle ∨ ∃ r ∈ d.rules, r.id = handle := by
  simp only [branches, List.mem_append, or_and_right, exists_or, Branch.mem_ofRules_handles,
    List.mem_singleton, exists_eq_left, Branch.fallback]
  constructor
  · rintro (⟨_, rule⟩ | rfl)
    · exact Or.inr rule
    · exact Or.inl rfl
  · rintro (rfl | rule)
    · exact Or.inr rfl
    · by_cases same : handle = Branch.fallbackHandle
      · exact Or.inr same.symm
      · exact Or.inl ⟨by simpa using same, rule⟩

theorem Node.accepts_iff {n : Node} {handle : Option String} :
    n.accepts handle = true ↔ n.payload.details.Resolves handle := by
  cases shape : n.payload.details with
  | conditional d =>
    cases handle with
    | none => simp [accepts, kind, Payload.kind, shape, Details.kind, Kind.isBranching, Details.Resolves]
    | some handle =>
      have listed : n.accepts (some handle) = true ↔ ∃ b ∈ d.branches, b.handle = handle := by
        simp [accepts, branches, shape]
      rw [listed, Conditional.mem_branches_handles]
      simp [Details.Resolves, Branch.fallbackHandle, eq_comm (a := handle)]
  | humanApproval d =>
    cases handle <;>
      simp [accepts, branches, kind, Payload.kind, shape, Details.kind, Kind.isBranching, Details.Resolves,
        Branch.approved, Branch.rejected, eq_comm (a := "approved"), eq_comm (a := "rejected")]
  | trigger _ | startFlow _ | notification _ | tagMutation _ | delay | registerEmployee _ | systemUpdate _
  | csvUpload _ | triggerWorkflow _ =>
    cases handle <;>
      simp [accepts, branches, kind, Payload.kind, shape, Details.kind, Kind.isBranching, Details.Resolves,
        Branch.next, eq_comm (a := "success")]

namespace Issue

theorem ofStartFlow_eq_nil {n : Subject} {d : StartFlow} {catalog : Option Catalog} :
    ofStartFlow n d catalog = [] ↔ Details.Ready catalog delayValue (.startFlow d) := by
  simp only [ofStartFlow, Details.Ready, ← Text.strip_ne_empty]
  by_cases blank : Text.strip d.journeyId = ""
  · simp [blank]
  · cases catalog with
    | none => simp [blank]
    | some c => simp [blank, when_eq_nil, Catalog.has]

theorem ofConditional_eq_nil {n : Subject} {d : Conditional} {catalog : Option Catalog} :
    ofConditional n d = [] ↔ Details.Ready catalog delayValue (.conditional d) := by
  have limit : decide (Conditional.maxRules < d.rules.length) = false ↔ d.rules.length ≤ 10 := by
    rw [decide_eq_false_iff_not]
    exact Nat.not_lt
  simp [ofConditional, when_eq_nil, Conditional.sharedIds_eq_nil, Details.Ready, limit, Branch.fallbackHandle,
    Text.isBlankText_eq_false]

theorem ofNotification_eq_nil {n : Subject} {d : Notification} {catalog : Option Catalog} :
    ofNotification n d = [] ↔ Details.Ready catalog delayValue (.notification d) := by
  simp [ofNotification, when_eq_nil, Details.Ready]

theorem ofDetails_eq_nil {n : Subject} {delayValue : Int} {catalog : Option Catalog} {d : Details} :
    ofDetails n delayValue catalog d = [] ↔ d.Ready catalog delayValue := by
  cases d with
  | startFlow d => exact ofStartFlow_eq_nil
  | conditional d => exact ofConditional_eq_nil
  | notification d => exact ofNotification_eq_nil
  | triggerWorkflow d => simp [ofDetails, when_eq_nil, Details.Ready, Text.isBlankText_eq_false]
  | delay => simp [ofDetails, when_eq_nil, Details.Ready]
  | tagMutation d =>
    simp only [ofDetails, when_eq_nil, Details.Ready, Bool.and_eq_false_iff, Text.isBlankText_eq_false]
  | trigger _ | humanApproval _ | registerEmployee _ | systemUpdate _ | csvUpload _ =>
    simp [ofDetails, Details.Ready]

theorem ofNode_eq_nil {catalog : Option Catalog} {n : Node} :
    ofNode catalog n = [] ↔
      0 ≤ n.payload.delayValue ∧ n.payload.details.Ready catalog n.payload.delayValue := by
  simp [ofNode, when_eq_nil, ofDetails_eq_nil]

end Issue

namespace Graph

theorem eq_of_id_eq {g : Graph} (distinct : (g.nodes.map Node.id).Nodup) {m n : Node} (left : m ∈ g.nodes)
    (right : n ∈ g.nodes) (same : m.id = n.id) : m = n :=
  List.inj_on_of_nodup_map distinct left right same

theorem ofEdge_eq_nil {g : Graph} {e : Edge} (distinct : (g.nodes.map Node.id).Nodup) :
    Issue.ofEdge g e = [] ↔
      (∃ n ∈ g.nodes, n.id = e.source ∧ n.payload.details.Resolves e.sourceHandle) ∧
        ∃ n ∈ g.nodes, n.id = e.target := by
  rw [← g.hasNode_iff e.target]
  unfold Issue.ofEdge
  by_cases source : g.hasNode e.source = true
  · by_cases target : g.hasNode e.target = true
    · obtain ⟨n, found⟩ := lastNode_isSome source
      obtain ⟨mem, same⟩ := mem_of_lastNode found
      have accepted : n.accepts e.sourceHandle = true ↔
          ∃ m ∈ g.nodes, m.id = e.source ∧ m.payload.details.Resolves e.sourceHandle := by
        rw [Node.accepts_iff]
        constructor
        · intro resolves
          exact ⟨n, mem, same, resolves⟩
        · rintro ⟨m, other, equal, resolves⟩
          cases eq_of_id_eq distinct mem other (same.trans equal.symm)
          exact resolves
      rw [← accepted]
      cases handle : e.sourceHandle <;> by_cases taken : n.accepts e.sourceHandle = true <;>
        simp_all
    · simp [source, target]
  · have absent : ¬ ∃ n ∈ g.nodes, n.id = e.source ∧ n.payload.details.Resolves e.sourceHandle := by
      rintro ⟨n, mem, same, _⟩
      exact source ((g.hasNode_iff e.source).mpr ⟨n, mem, same⟩)
    simp [source, absent]

-- A graph has no issues exactly if it has nodes, no id is used twice, every step is ready to run and every edge
-- leaves its source through a branch that is there.
theorem canPublish_iff_executable (g : Graph) (catalog : Option Catalog) :
    g.canPublish catalog = true ↔ g.Executable catalog := by
  rw [canPublish_iff]
  by_cases empty : g.nodes = []
  · simp only [issues, empty, List.isEmpty_nil, if_true, List.cons_ne_nil, false_iff]
    intro executable
    exact executable.inhabited empty
  · have inhabited : g.nodes.isEmpty = false := by simpa using empty
    simp only [issues, inhabited, Bool.false_eq_true, if_false, List.append_eq_nil_iff, List.map_eq_nil_iff,
      Issue.repeated_eq_nil, List.flatMap_eq_nil_iff, Issue.ofNode_eq_nil]
    constructor
    · rintro ⟨⟨⟨nodeIds, edgeIds⟩, steps⟩, edges⟩
      have ends := fun e mem => (ofEdge_eq_nil nodeIds).mp (edges e mem)
      exact ⟨empty, nodeIds, edgeIds, fun n mem => (steps n mem).1, fun n mem => (steps n mem).2,
        fun e mem => (ends e mem).1, fun e mem => (ends e mem).2⟩
    · intro executable
      refine ⟨⟨⟨executable.nodeIds, executable.edgeIds⟩, ?_⟩, ?_⟩
      · exact fun n mem => ⟨executable.delays n mem, executable.ready n mem⟩
      · exact fun e mem =>
          (ofEdge_eq_nil executable.nodeIds).mpr ⟨executable.sources e mem, executable.targets e mem⟩

end Graph

end Orchestration
