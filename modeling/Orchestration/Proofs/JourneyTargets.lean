import Orchestration.Proofs.Publication

namespace Orchestration

namespace Text

-- A text with nothing but blanks before and behind it.
def Padded (inner outer : String) : Prop :=
  ∃ front back, outer.toList = front ++ inner.toList ++ back ∧
    (∀ c ∈ front, isBlank c = true) ∧ ∀ c ∈ back, isBlank c = true

-- A text that neither starts nor ends with a blank.
def Neat (s : String) : Prop :=
  (∀ c, s.toList.head? = some c → isBlank c = false) ∧ ∀ c, s.toList.getLast? = some c → isBlank c = false

theorem neat_of_ends {s : String} (first : s.toList.head?.any isBlank = false)
    (last : s.toList.getLast?.any isBlank = false) : Neat s := by
  constructor
  · intro c head
    rwa [head] at first
  · intro c final
    rwa [final] at last

theorem trimBy_parts (set : Char → Bool) (cs : List Char) :
    ∃ front back, cs = front ++ trimBy set cs ++ back ∧ (∀ c ∈ front, set c = true) ∧ ∀ c ∈ back, set c = true := by
  have ahead : cs = cs.takeWhile set ++ cs.dropWhile set := List.takeWhile_append_dropWhile.symm
  generalize rest : cs.dropWhile set = cs' at ahead
  have behind : cs' = (cs'.reverse.dropWhile set).reverse ++ (cs'.reverse.takeWhile set).reverse := by
    rw [← List.reverse_append, List.takeWhile_append_dropWhile, List.reverse_reverse]
  refine ⟨cs.takeWhile set, (cs'.reverse.takeWhile set).reverse, ?_, ?_, ?_⟩
  · rw [trimBy, rest, List.append_assoc, ← behind]
    exact ahead
  · exact fun c mem => List.mem_takeWhile_imp mem
  · exact fun c mem => List.mem_takeWhile_imp (List.mem_reverse.mp mem)

theorem strip_padded (s : String) : Padded (strip s) s := by
  obtain ⟨front, back, parts, before, behind⟩ := trimBy_parts isBlank s.toList
  exact ⟨front, back, by rw [strip, String.toList_ofList]; exact parts, before, behind⟩

theorem Padded.eq_of_neat {inner outer : String} (padded : Padded inner outer) (neat : Neat outer) : inner = outer := by
  obtain ⟨front, back, parts, before, behind⟩ := padded
  obtain ⟨first, last⟩ := neat
  have unled : front = [] := by
    cases front with
    | nil => rfl
    | cons c rest =>
      have blank := before c List.mem_cons_self
      rw [first c (by simp [parts])] at blank
      cases blank
  have unfollowed : back = [] := by
    cases final : back.getLast? with
    | none => exact List.getLast?_eq_none_iff.mp final
    | some c =>
      have blank := behind c (List.mem_of_getLast? final)
      rw [last c (by simp [parts, final])] at blank
      cases blank
  exact String.toList_inj.mp (by rw [parts, unled, unfollowed, List.nil_append, List.append_nil])

end Text

theorem Payload.handed_journey {p : Payload Details} (shape : p.details = .startFlow d) :
    (p.kind.form.handed p).find? "journeyId" = some (.str d.journeyId) := by
  simp [kind, shape, Details.kind, Kind.form, Form.lift, Form.handed, Form.members, Details.write, StartFlow.write,
    Keyed.find?, List.lookup_cons]

theorem Details.startFlow_of_kind {d : Details} (kind : d.kind = .startFlow) : ∃ f, d = .startFlow f := by
  cases d with
  | startFlow f => exact ⟨f, rfl⟩
  | trigger _ | conditional _ | humanApproval _ | notification _ | tagMutation _ | delay | registerEmployee _
  | systemUpdate _ | csvUpload _ | triggerWorkflow _ => cases kind

namespace Orchestrator

variable {o : Orchestrator} {number : Int} {catalog : Option Catalog} {now : String}

theorem step_of_action (publishable : o.Publishable catalog)
    (mem : (key, a) ∈ (o.published number now).version.chain.actions) :
    ∃ n ∈ o.graph.nodes, n.id = key ∧ a.kind = n.payload.kind ∧ a.args = n.payload.kind.form.handed n.payload ∧
      n.payload.details.Ready catalog n.payload.delayValue := by
  have executable := Graph.problems_eq_nil.mp publishable.valid
  have labeled : o.graph.relabel.graph.Executable catalog := Graph.executable_relabel.mpr executable
  have listed : (key, a) ∈ (o.graph.relabel.graph.compile o.name).actions := mem
  obtain ⟨m, among, rfl, rfl⟩ := (Graph.mem_actions labeled.nodeIds).mp listed
  obtain ⟨n, present, rfl⟩ := Graph.mem_relabel.mp among
  exact ⟨n, present, rfl, rfl, rfl, executable.ready n present⟩

-- Every action to start a flow carries what its step names, and that is the id of a flow of the catalog, but
-- for blanks around it.
theorem start_flow_targets {c : Catalog} (done : (o.publish number (some c) now).value = .ok p) :
    ∀ key a, (key, a) ∈ p.version.chain.actions → a.kind = .startFlow →
      ∃ text, a.args.find? "journeyId" = some (.str text) ∧
        (∃ n ∈ o.graph.nodes, n.id = key ∧ n.payload.details = .startFlow ⟨text⟩) ∧
        Text.Filled text ∧ (∃ j ∈ c.journeys, Text.Padded j.id text) ∧
        (Text.Neat text → ∃ j ∈ c.journeys, j.id = text) := by
  have publishable := publishable_of_publish done
  cases (publish_publishable publishable).symm.trans done
  intro key a mem starts
  obtain ⟨n, present, named, kind, args, ready⟩ := step_of_action publishable mem
  obtain ⟨d, shape⟩ := Details.startFlow_of_kind (kind.symm.trans starts)
  rw [shape] at ready
  obtain ⟨filled, known⟩ := ready
  obtain ⟨j, listed, same⟩ := known c rfl
  have padded : Text.Padded j.id d.journeyId := same ▸ Text.strip_padded d.journeyId
  refine ⟨d.journeyId, args ▸ Payload.handed_journey shape, ⟨n, present, named, shape⟩, filled, ⟨j, listed, padded⟩, ?_⟩
  exact fun neat => ⟨j, listed, padded.eq_of_neat neat⟩

-- A workflow of one step that starts a flow of the catalog, with the target as it was typed.
def starter (target : String) : Orchestrator :=
  draft "o" "Starter" ⟨[⟨"a", .origin, none, ⟨"", 0, .minutes, .startFlow ⟨target⟩, []⟩⟩], []⟩

def techOnly : Catalog := ⟨[⟨"onb-tech", "Technology Onboarding", 20, 14⟩]⟩

theorem starter_publishable {target : String} (known : Text.strip target = "onb-tech") :
    (starter target).Publishable (some techOnly) := by
  refine ⟨by simp [starter, draft], ?_, ?_⟩
  · have listed : techOnly.has "onb-tech" = true := by decide
    simp [Graph.problems, Graph.issues, starter, draft, Issue.ofNode, Issue.ofDetails, Issue.ofStartFlow, known, listed,
      Issue.when, Issue.repeated]
  · intro n mem
    cases List.mem_singleton.mp mem
    rfl

theorem starter_starts {target : String} (publishable : (starter target).Publishable (some techOnly)) :
    ∃ a, ("a", a) ∈ ((starter target).published 1 "").version.chain.actions ∧ a.kind = .startFlow ∧
      a.args.find? "journeyId" = some (.str target) := by
  have consistent : (starter target).SelfConsistent 1 (some techOnly) "" _ := published_selfConsistent publishable
  have among : "a" ∈ ((starter target).published 1 "").version.chain.actions.map (·.1) := by
    rw [consistent.keys]
    simp [published, takeVersion, relabel, Graph.relabel_eq, Graph.redraw, Graph.labeled, starter, draft]
  obtain ⟨⟨key, a⟩, mem, rfl⟩ := List.mem_map.mp among
  obtain ⟨n, present, _, kind, args, _⟩ := step_of_action publishable mem
  cases List.mem_singleton.mp present
  exact ⟨a, mem, kind, args ▸ Payload.handed_journey rfl⟩

theorem starter_targets : ∃ p a, ((starter "onb-tech").publish 1 (some techOnly) "").value = .ok p ∧
    ("a", a) ∈ p.version.chain.actions ∧ a.kind = .startFlow ∧
    ∃ j ∈ techOnly.journeys, a.args.find? "journeyId" = some (.str j.id) := by
  have publishable : (starter "onb-tech").Publishable (some techOnly) := starter_publishable (by decide +kernel)
  have done : ((starter "onb-tech").publish 1 (some techOnly) "").value = .ok _ := publish_publishable publishable
  obtain ⟨a, mem, starts, typed⟩ := starter_starts publishable
  obtain ⟨text, carried, _, _, _, known⟩ := start_flow_targets done "a" a mem starts
  cases carried.symm.trans typed
  obtain ⟨j, listed, same⟩ := known (Text.neat_of_ends (by decide +kernel) (by decide +kernel))
  exact ⟨_, a, done, mem, starts, j, listed, same ▸ typed⟩

-- The blank in front of the target is not looked up, and stays.
theorem blank_not_looked_up : ¬ ∀ (o : Orchestrator) (number : Int) (c : Catalog) (now : String) (p : Publication),
    (o.publish number (some c) now).value = .ok p → ∀ key a, (key, a) ∈ p.version.chain.actions →
      a.kind = .startFlow → ∃ j ∈ c.journeys, a.args.find? "journeyId" = some (.str j.id) := by
  intro always
  have publishable : (starter " onb-tech").Publishable (some techOnly) := starter_publishable (by decide +kernel)
  obtain ⟨a, mem, starts, typed⟩ := starter_starts publishable
  obtain ⟨j, listed, carried⟩ := always _ 1 _ "" _ (publish_publishable publishable) _ _ mem starts
  cases List.mem_singleton.mp listed
  have same : " onb-tech" = "onb-tech" := Json.str.inj (Option.some.inj (typed.symm.trans carried))
  exact absurd same (by decide)

end Orchestrator

end Orchestration
