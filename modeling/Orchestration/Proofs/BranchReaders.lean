import Orchestration.Proofs.DanglingBranches
import Orchestration.Proofs.GraphEdits

namespace Orchestration

namespace Branch

-- The ids that are not taken, each where it is used first.
theorem handles_ofRules_first (taken : List String) (index : Nat) (rules : List Rule) :
    (ofRules taken index rules).map Branch.handle = ((rules.map Rule.id).filter (!taken.contains ·)).eraseDups := by
  induction rules generalizing taken index with
  | nil => rfl
  | cons r rest ih =>
    by_cases used : r.id ∈ taken
    · simp [ofRules, used, ih]
    · have later : (rest.map Rule.id).filter (!(r.id :: taken).contains ·) =
          ((rest.map Rule.id).filter (!taken.contains ·)).filter fun key => !key == r.id := by
        rw [List.filter_filter]
        exact List.filter_congr fun key _ => by simp [Bool.beq_eq_decide_eq]
      have free : taken.contains r.id = false := by simpa using used
      rw [ofRules, free, if_neg Bool.false_ne_true, List.map_cons, ih, later, List.map_cons, List.filter_cons, free,
        if_pos Bool.not_false, List.eraseDups_cons]

-- A rule whose id is neither taken nor that of an earlier rule has a branch, and its place is counted among all rules.
theorem mem_ofRules_first {taken : List String} {front : List Rule} (free : r.id ∉ taken)
    (first : ∀ q ∈ front, q.id ≠ r.id) (index : Nat) (back : List Rule) :
    ⟨r.id, ruleLabel (index + front.length) r⟩ ∈ ofRules taken index (front ++ r :: back) := by
  induction front generalizing taken index with
  | nil =>
    have unused : taken.contains r.id = false := by simpa using free
    rw [List.nil_append, ofRules, unused, if_neg Bool.false_ne_true]
    exact List.mem_cons_self
  | cons q rest ih =>
    obtain ⟨other, later⟩ := List.forall_mem_cons.mp first
    have place : index + (q :: rest).length = index + 1 + rest.length := by
      rw [List.length_cons]
      omega
    rw [place, List.cons_append, ofRules]
    split
    · exact ih free later (index + 1)
    · refine List.mem_cons_of_mem _ (ih ?_ later (index + 1))
      rw [List.mem_cons, not_or]
      exact ⟨other.symm, free⟩

end Branch

-- The branches of a conditional step: the ids of its rules, each where it is used first, and the fallback behind them. A
-- rule that has a branch and no label is called by its place among all rules, those without a branch included.
structure Conditional.Lists (c : Conditional) (branches : List Branch) : Prop where
  handles : branches.map Branch.handle =
    ((c.rules.map Rule.id).filter (· != Branch.fallbackHandle)).eraseDups ++ [Branch.fallbackHandle]
  named : ∀ front r back, c.rules = front ++ r :: back → r.id ≠ Branch.fallbackHandle →
    (∀ q ∈ front, q.id ≠ r.id) →
    ⟨r.id, if r.label = "" then "Rule " ++ toString (front.length + 1) else r.label⟩ ∈ branches
  fallback : Branch.fallback ∈ branches

theorem Conditional.lists (c : Conditional) : c.Lists c.branches where
  handles := by
    rw [branches, List.map_append, Branch.handles_ofRules_first]
    refine congrArg (fun keys : List String => keys.eraseDups ++ [Branch.fallbackHandle])
      (List.filter_congr fun key _ => ?_)
    simp [bne, beq_eq_decide]
  named := by
    intro front r back rules unreserved first
    have free : r.id ∉ [Branch.fallbackHandle] := by simpa using unreserved
    have listed := Branch.mem_ofRules_first free first 0 back
    rw [← rules, Nat.zero_add] at listed
    exact List.mem_append_left _ listed
  fallback := List.mem_append_right _ List.mem_cons_self

namespace Node

-- Whether the edges that leave a step have to name a branch.
def Forks (n : Node) : Prop := n.kind = .conditional ∨ n.kind = .humanApproval

theorem forks_iff {n : Node} : n.Forks ↔ n.kind.isBranching = true := by
  unfold Forks
  cases n.kind <;> simp [Kind.isBranching]

-- A step whose branches are told apart by their handles, and to whom all readers of its branches listen: it accepts the
-- handles of its branches, and no handle unless it branches; and if it branches, an edge is labeled as the branch
-- through which it leaves, and is labeled exactly if its handle is accepted.
structure Agrees (n : Node) : Prop where
  inhabited : n.branches ≠ []
  distinct : (n.branches.map Branch.handle).Nodup
  accepts : ∀ handle, n.accepts handle = true ↔
    (∃ b ∈ n.branches, handle = some b.handle) ∨ handle = none ∧ ¬ n.Forks
  labels : n.Forks → ∀ handle label, n.branchLabel handle = some label ↔
    ∃ b ∈ n.branches, handle = some b.handle ∧ b.label = label
  labeled : n.Forks → ∀ handle, n.branchLabel handle ≠ none ↔ handle ≠ none ∧ n.accepts handle = true

theorem branches_of_conditional {n : Node} (shape : n.payload.details = .conditional c) : n.branches = c.branches := by
  rw [branches, shape]

theorem handles_nodup (n : Node) : (n.branches.map Branch.handle).Nodup := by
  cases shape : n.payload.details with
  | conditional c =>
    rw [branches_of_conditional shape, Conditional.branches, List.map_append, List.nodup_append]
    refine ⟨Branch.ofRules_handles_nodup _ _ _, List.nodup_singleton _, ?_⟩
    rintro _ listed _ last rfl
    obtain ⟨b, mem, same⟩ := List.mem_map.mp listed
    exact Branch.ofRules_handles_not_taken mem (same ▸ last)
  | humanApproval _ =>
    have pair : n.branches = [.approved, .rejected] := by rw [branches, shape]
    rw [pair]
    decide
  | trigger _ | startFlow _ | notification _ | tagMutation _ | delay | registerEmployee _ | systemUpdate _
  | csvUpload _ | triggerWorkflow _ =>
    rw [branches, shape]
    exact List.nodup_singleton _

theorem branches_ne_nil (n : Node) : n.branches ≠ [] := by
  cases shape : n.payload.details with
  | conditional c =>
    rw [branches_of_conditional shape]
    exact List.ne_nil_of_mem c.lists.fallback
  | trigger _ | startFlow _ | humanApproval _ | notification _ | tagMutation _ | delay | registerEmployee _
  | systemUpdate _ | csvUpload _ | triggerWorkflow _ =>
    rw [branches, shape]
    exact List.cons_ne_nil _ _

theorem accepts_listed {n : Node} {handle : Option String} :
    n.accepts handle = true ↔ (∃ b ∈ n.branches, handle = some b.handle) ∨ handle = none ∧ ¬ n.Forks := by
  rw [forks_iff]
  cases handle with
  | none => simp [Node.accepts]
  | some key => simp [Node.accepts, eq_comm (a := key)]

theorem branchLabel_listed {n : Node} (forks : n.Forks) {handle : Option String} {label : String} :
    n.branchLabel handle = some label ↔ ∃ b ∈ n.branches, handle = some b.handle ∧ b.label = label := by
  cases handle with
  | none => simp [branchLabel]
  | some key =>
    rw [branchLabel, if_pos (forks_iff.mp forks), Option.map_eq_some_iff]
    constructor
    · rintro ⟨b, found, rfl⟩
      have same : b.handle = key := by simpa using List.find?_some found
      exact ⟨b, List.mem_of_find?_eq_some found, congrArg some same.symm, rfl⟩
    · rintro ⟨b, mem, same, rfl⟩
      cases same
      obtain ⟨d, found⟩ := Option.isSome_iff_exists.mp
        (List.find?_isSome (p := (·.handle == b.handle)).mpr ⟨b, mem, beq_self_eq_true b.handle⟩)
      have twin : d.handle = b.handle := by simpa using List.find?_some found
      have one := List.inj_on_of_nodup_map n.handles_nodup (List.mem_of_find?_eq_some found) mem twin
      exact ⟨d, found, congrArg Branch.label one⟩

theorem labeled_iff {n : Node} (forks : n.Forks) {handle : Option String} :
    n.branchLabel handle ≠ none ↔ handle ≠ none ∧ n.accepts handle = true := by
  rw [Option.ne_none_iff_exists', accepts_listed]
  constructor
  · rintro ⟨label, given⟩
    obtain ⟨b, mem, same, -⟩ := (branchLabel_listed forks).mp given
    exact ⟨same ▸ Option.some_ne_none _, .inl ⟨b, mem, same⟩⟩
  · rintro ⟨given, ⟨b, mem, same⟩ | ⟨absent, -⟩⟩
    · exact ⟨b.label, (branchLabel_listed forks).mpr ⟨b, mem, same, rfl⟩⟩
    · exact absurd absent given

theorem given_of_accepts {n : Node} (forks : n.Forks) {handle : Option String} (accepted : n.accepts handle = true) :
    handle ≠ none := by
  rcases accepts_listed.mp accepted with ⟨b, -, same⟩ | ⟨-, straight⟩
  · exact same ▸ Option.some_ne_none _
  · exact absurd forks straight

theorem agrees (n : Node) : n.Agrees where
  inhabited := n.branches_ne_nil
  distinct := n.handles_nodup
  accepts _ := accepts_listed
  labels forks _ _ := branchLabel_listed forks
  labeled forks _ := labeled_iff forks

end Node

namespace Graph

-- What comes of joining two nodes: nothing if they are joined in this way already, else an edge with the label that the
-- first node of its source's id gives it. Of that edge nothing is said if the last node of that id accepts it. Where
-- the id names one node, and one that forks, the edge is labeled exactly if nothing is said about it.
inductive Draws (g : Graph) (source target : String) (handle : Option String) (h : Graph) : Prop where
  | already (e : Edge) (mem : e ∈ g.edges) (course : e.course = (source, target, handle)) (same : h = g)
  | drawn (e : Edge) (n m : Node) (course : e.course = (source, target, handle))
      (appended : h = { g with edges := g.edges ++ [e] }) (first : g.node? source = some n)
      (last : g.lastNode? source = some m) (label : e.label = n.branchLabel handle)
      (judged : Issue.ofEdge h e = [] ↔ m.accepts handle = true)
      (exact : n.Forks → (∀ k ∈ g.nodes, k.id = source → k = n) → (e.label ≠ none ↔ Issue.ofEdge h e = []))

theorem ofEdge_accepted {g : Graph} {e : Edge} (joined : g.joins e = true) (last : g.lastNode? e.source = some m) :
    Issue.ofEdge g e = [] ↔ m.accepts e.sourceHandle = true := by
  obtain ⟨source, target⟩ := joins_iff.mp joined
  have none : [e.source, e.target].filter (!g.hasNode ·) = [] := by simp [source, target]
  simp only [Issue.ofEdge, none, List.isEmpty_nil, Bool.not_true, Bool.false_eq_true, if_false, last]
  cases m.accepts e.sourceHandle with
  | true => simp
  | false => cases e.sourceHandle <;> simp

theorem looseHandle_ofText (handle : Option String) : looseHandle? (.ofText? handle) = some handle := by
  cases handle <;> rfl

theorem addEdge_drawn {g : Graph} {asked : Option String}
    (added : g.addEdge source target handle asked = .ok (key, h)) :
    (∃ e ∈ g.edges, e.course = (source, target, handle) ∧ h = g) ∨
    ∃ e n, e.course = (source, target, handle) ∧ g.hasNode source = true ∧ g.hasNode target = true ∧
      h = { g with edges := g.edges ++ [e] } ∧ g.node? source = some n ∧ e.label = n.branchLabel handle := by
  obtain ⟨start, stop, through, named, reached, loose, found, known, done⟩ :=
    Call.addEdge_parts (InPlace.outcome_eq_ok.mp added)
  cases named
  cases reached
  cases (looseHandle_ofText handle).symm.trans loose
  rcases done with already | ⟨e, new, course, label, appended⟩
  · exact .inl already
  · have ends := hasNode_of_mem (List.mem_of_find?_eq_some found)
    exact .inr ⟨e, start, course, ends, known, appended, found, label⟩

theorem addEdge_draws {g : Graph} {asked : Option String}
    (added : g.addEdge source target handle asked = .ok (key, h)) : g.Draws source target handle h := by
  rcases addEdge_drawn added with ⟨e, mem, course, same⟩ | ⟨e, n, course, start, stop, rfl, first, label⟩
  · exact .already e mem course same
  · obtain ⟨rfl, rfl, rfl⟩ : e.source = source ∧ e.target = target ∧ e.sourceHandle = handle := by
      simpa [Edge.course] using course
    obtain ⟨m, last⟩ := lastNode_isSome start
    have judged := ofEdge_accepted (g := { g with edges := g.edges ++ [e] }) (joins_iff.mpr ⟨start, stop⟩) last
    refine .drawn e n m rfl rfl first last label judged fun forks single => ?_
    obtain ⟨mem, named⟩ := mem_of_lastNode last
    rw [judged, label, single m mem named, n.agrees.labeled forks, and_iff_right_iff_imp]
    exact Node.given_of_accepts forks

end Graph

-- All readers of the branches of a step agree, the branches of a conditional step are those of its rules, and an edge
-- that is drawn is labeled as they say.
theorem readers_agree : (∀ n : Node, n.Agrees) ∧
    (∀ (n : Node) (c : Conditional), n.payload.details = .conditional c → c.Lists n.branches) ∧
    ∀ {g h : Graph} {source target key : String} {handle asked : Option String},
      g.addEdge source target handle asked = .ok (key, h) → g.Draws source target handle h := by
  refine ⟨Node.agrees, fun n c shape => ?_, Graph.addEdge_draws⟩
  rw [Node.branches_of_conditional shape]
  exact c.lists

def plainRule (id : String) : Rule := ⟨id, "", "", .equals, ""⟩

-- A choice whose first rule takes the handle of the fallback, and whose second and third share one.
def skipping : Node where
  id := "s"
  position := .origin
  displayId := none
  payload := ⟨"", 0, .minutes, .conditional ⟨"", ["else-handle", "a", "a", "b"].map plainRule⟩, []⟩

-- Such a choice after which another one without rules goes by the same id.
def doubled : Graph where
  nodes := [skipping, { skipping with payload := ⟨"", 0, .minutes, .conditional ⟨"", []⟩, []⟩ }]
  edges := []

def bypass (label : Option String) : Edge := ⟨"e-s-b-s", "s", "s", some "b", label⟩

theorem skipping_labeled : skipping.branches.map Branch.handle = ["a", "b", "else-handle"] ∧
    ⟨"b", "Rule 4"⟩ ∈ skipping.branches ∧
    Graph.Draws ⟨[skipping], []⟩ "s" "s" (some "b") ⟨[skipping], [bypass (some "Rule 4")]⟩ := by
  obtain ⟨-, lists, draws⟩ := readers_agree
  have listed := lists skipping _ rfl
  have drawn : Graph.addEdge ⟨[skipping], []⟩ "s" "s" (some "b") none =
      .ok ("e-s-b-s", ⟨[skipping], [bypass (some "Rule 4")]⟩) := by rfl
  refine ⟨?_, ?_, draws drawn⟩
  · rw [listed.handles]
    decide
  · exact listed.named (["else-handle", "a", "a"].map plainRule) (plainRule "b") [] rfl (by decide) (by decide)

-- The label is that of the first node, and the last one does not know the branch.
theorem doubled_disagrees : ¬ ∀ (g h : Graph) (source target key : String) (handle asked : Option String) (n : Node)
    (e : Edge), g.addEdge source target handle asked = .ok (key, h) → h.edges = g.edges ++ [e] →
      g.node? source = some n → n.Forks → (e.label ≠ none ↔ Issue.ofEdge h e = []) := by
  intro always
  have drawn : doubled.addEdge "s" "s" (some "b") none =
      .ok ("e-s-b-s", { doubled with edges := [bypass (some "Rule 4")] }) := by rfl
  have fine := (always _ _ _ _ _ _ _ skipping _ drawn rfl rfl (.inl rfl)).mp (Option.some_ne_none _)
  exact absurd fine (by decide)

end Orchestration
