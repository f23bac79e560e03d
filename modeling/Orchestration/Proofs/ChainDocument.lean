import Orchestration.Proofs.ChainRoundTrip
import Orchestration.Record

namespace Orchestration

def Action.kept (a : Action) : Action :=
  { a with args := Json.finiteMembers a.args, fallback := a.fallback.finiteOnly }

theorem Action.decode_encode (source : Source) (a : Action) (s : Supply) :
    decode source a.encode s = .ok (a.kept, s) := by
  have kind : Decode.choice (fun tag => Kind.ofTag? (Kind.currentTag tag)) (.str a.kind.tag) s = .ok (a.kind, s) :=
    Decode.choice_ok (by rw [Kind.currentTag_tag, Kind.ofTag?_tag])
  have position : decodePosition source (.obj [("position", a.position.encode)]) s = .ok (a.position, s) := by
    show Decode.field [("position", a.position.encode)] (.same "position") (pure Position.origin)
      (Position.decode source) s = .ok (a.position, s)
    exact Decode.field_ok rfl (Position.decode_encode source a.position s)
  exact Decode.seq_ok (Decode.seq_ok (Decode.seq_ok (Decode.seq_ok (Decode.seq_ok (Decode.seq_ok
    (Decode.map_ok (Decode.required_ok rfl kind)) (Decode.field_ok rfl rfl))
    (Decode.field_ok rfl (Decode.optional_text _ _))) (Decode.field_ok rfl (Decode.optional_text _ _)))
    (Decode.field_ok rfl rfl)) (Decode.field_ok rfl (Decode.optional_integer _ _)))
    (Decode.field_ok rfl position)

def Chain.kept (c : Chain) : Chain := { c with actions := c.actions.map fun (key, a) => (key, a.kept) }

theorem Chain.decode_encode (source : Source) (c : Chain) (s : Supply) :
    decode source c.encode s = .ok (c.kept, s) := by
  have actions : Decode.mapOf (Action.decode source) (.obj (c.actions.map fun (key, a) => (key, a.encode))) s =
      .ok (c.kept.actions, s) :=
    Decode.members_images c.actions s fun kv _ => Action.decode_encode source kv.2 s
  exact Decode.seq_ok (Decode.seq_ok (Decode.seq_ok (Decode.seq_ok
    (Decode.map_ok (Decode.field_ok rfl (Decode.optional_text _ _)))
    (Decode.field_ok rfl (Decode.optional_text _ _))) (Decode.field_ok rfl rfl))
    (Decode.field_ok rfl (Decode.optional_text _ _))) (Decode.field_ok rfl actions)

theorem Graph.action_kept (g : Graph) (n : Node) : (g.action n).kept = g.action n := by
  have args : Json.finiteMembers (n.kind.form.handed n.payload) = n.kind.form.handed n.payload := by
    have handed : n.kind.form.handed n.payload = n.payload.own ++ Json.finiteMembers n.payload.extras :=
      n.payload.kept.members_eq
    rw [handed, Json.finiteMembers_append, Payload.own_finite, Json.finiteMembers_idem]
  rw [Action.kept, action, args]
  rfl

theorem Chain.kept_eq_self {c : Chain} (each : ∀ kv ∈ c.actions, kv.2.kept = kv.2) : c.kept = c := by
  have same : c.actions.map (fun (key, a) => (key, a.kept)) = c.actions := by
    refine (List.map_congr_left fun kv mem => ?_).trans (List.map_id _)
    exact congrArg (Prod.mk kv.1) (each kv mem)
  rw [kept, same]

theorem Graph.action_of_compile (g : Graph) (name : String) (mem : kv ∈ (g.compile name).actions) :
    ∃ n ∈ g.nodes, kv.2 = g.action n := by
  obtain ⟨n, present, rfl⟩ := List.mem_map.mp (Keyed.mem_of_mem_ofList mem)
  exact ⟨n, present, rfl⟩

namespace Graph

-- What a chain asks of a node, and what the document of a chain does.
def Held (n : Node) : Prop :=
  n.payload.dumpFault? = none ∧ Json.membersFinite n.payload.extras = true

def Documented (n : Node) : Prop :=
  Text.hasHalf n.id = false ∧ n.payload.dumpFault? = none ∧ Json.membersFinite n.payload.extras = true

theorem dumpFault_action {g : Graph} {n : Node} :
    (g.action n).dumpFault? = none ↔ n.payload.dumpFault? = none := by
  have args : Json.looseFaults? (g.action n).args = none ↔ n.payload.dumpFault? = none :=
    Payload.handed_loose
  have fallback : Json.looseFault? (g.action n).fallback = none := rfl
  rw [Action.dumpFault?, ← args, fallback]
  cases Json.looseFaults? (g.action n).args <;> simp

theorem dumpFault_actions {g : Graph} {c : Chain}
    (actions : c.actions = g.nodes.map fun n => (n.id, g.action n)) :
    c.dumpFault? = none ↔
      ∀ n ∈ g.nodes, Text.hasHalf n.id = false ∧ n.payload.dumpFault? = none := by
  rw [Chain.dumpFault?, actions, List.findSome?_eq_none_iff, List.forall_mem_map]
  refine forall_congr' fun n => imp_congr_right fun _ => ?_
  cases half : Text.hasHalf n.id <;> simp [half, dumpFault_action]

-- Written and read, but for the chain itself.
def RoundTrips (g : Graph) : Prop :=
  ∀ name s, ∃ c h, (g.toChain name).value = .ok c ∧ (c.toGraph s).value = .ok (h, s) ∧ g.Rebuilds h

theorem roundTrips_iff {g : Graph} (valid : g.Validated) (keyable : g.Keyable) :
    g.RoundTrips ↔ ∀ n ∈ g.nodes, Held n := by
  constructor
  · intro trips
    obtain ⟨c, h, compiled, rebuilt, same⟩ := trips "" ⟨fun _ => "", 0⟩
    obtain ⟨written, rfl⟩ := written_of_toChain compiled
    rw [toGraph_actions valid keyable (actions_compile keyable "")] at rebuilt
    cases rebuilt
    have finite := (rebuilds_recovered keyable).mp same
    exact fun n mem => ⟨written n mem, finite n mem⟩
  · intro held name s
    refine ⟨g.compile name, g.recovered, toChain_eq g name fun n mem => (held n mem).1,
      toGraph_actions valid keyable (actions_compile keyable name) s, ?_⟩
    exact (rebuilds_recovered keyable).mpr fun n mem => (held n mem).2

end Graph

namespace Orchestrator

-- Through the document of the chain the id comes back, and the name if there is one.
def RoundTrips (o : Orchestrator) : Prop :=
  ∀ workspaceId s, ∃ c doc o', (o.toChain workspaceId).value = .ok c ∧ Json.dumped c.dumpFault? c.encode = .ok doc ∧
    (ofChainDocument doc s).value = .ok (o', s) ∧ o.graph.Rebuilds o'.graph ∧ o'.id = o.id ∧
    (o.name ≠ "" → o'.name = o.name)

def compiled (o : Orchestrator) (workspaceId : Option String) : Chain :=
  { o.graph.compile o.name with id := some o.id, workspaceId := workspaceId }

theorem compiled_kept (o : Orchestrator) (workspaceId : Option String) :
    (o.compiled workspaceId).kept = o.compiled workspaceId := by
  refine Chain.kept_eq_self fun kv mem => ?_
  obtain ⟨n, _, same⟩ := Graph.action_of_compile o.graph o.name mem
  rw [same, Graph.action_kept]

theorem actions_compiled {o : Orchestrator} (keyable : o.graph.Keyable) (workspaceId : Option String) :
    (o.compiled workspaceId).actions = o.graph.nodes.map fun n => (n.id, o.graph.action n) :=
  Graph.actions_compile keyable o.name

theorem toChain_eq (o : Orchestrator) (workspaceId : Option String)
    (written : ∀ n ∈ o.graph.nodes, n.payload.dumpFault? = none) :
    (o.toChain workspaceId).value = .ok (o.compiled workspaceId) := by
  simp [toChain, compiled, Noted.map, Graph.toChain_eq _ _ written, Except.map]

theorem written_of_toChain {o : Orchestrator} (made : (o.toChain workspaceId).value = .ok c) :
    (∀ n ∈ o.graph.nodes, n.payload.dumpFault? = none) ∧ c = o.compiled workspaceId := by
  cases chain : (o.graph.toChain o.name).value with
  | error _ => simp [toChain, Noted.map, chain, Except.map] at made
  | ok _ =>
    have written := (Graph.written_of_toChain chain).1
    rw [toChain_eq o workspaceId written] at made
    cases made
    exact ⟨written, rfl⟩

theorem ofChainDocument_encode {c : Chain} (kept : c.kept = c) (s : Supply)
    (built : (c.toGraph s).value = .ok (g, t)) :
    (ofChainDocument c.encode s).value =
      .ok (draft (c.id.getD "") (if c.name = "" then untitled else c.name) g, t) := by
  have given : c.encode.isGiven = true := rfl
  have first : firstDocument c.encode = c.encode := rfl
  have read : Decode.load Chain.title (Chain.decode .document c.encode) s = .ok (c, s) := by
    simp only [Decode.load, Chain.decode_encode, kept]
  simp [ofChainDocument, first, given, read, Noted.map, built]

theorem held_of_documented {n : Node} (documented : Graph.Documented n) : Graph.Held n :=
  documented.2

theorem roundTrips_iff {o : Orchestrator} (valid : o.graph.Validated) (keyable : o.graph.Keyable) :
    o.RoundTrips ↔ ∀ n ∈ o.graph.nodes, Graph.Documented n := by
  constructor
  · intro trips
    obtain ⟨c, doc, p, compiled, dumped, read, same, _⟩ := trips none ⟨fun _ => "", 0⟩
    have actions := actions_compiled keyable none
    obtain ⟨written, rfl⟩ := written_of_toChain compiled
    obtain ⟨handed, rfl⟩ := Json.dumped_eq_ok_iff.mp dumped
    have built := Graph.toGraph_actions valid keyable actions ⟨fun _ => "", 0⟩
    rw [ofChainDocument_encode (compiled_kept o none) _ built] at read
    cases read
    have finite := (Graph.rebuilds_recovered keyable).mp same
    have documented := (Graph.dumpFault_actions actions).mp handed
    exact fun n mem => ⟨(documented n mem).1, (documented n mem).2, finite n mem⟩
  · intro documented workspaceId s
    have actions := actions_compiled keyable workspaceId
    have held := fun n mem => held_of_documented (documented n mem)
    have handed := (Graph.dumpFault_actions actions).mpr fun n mem =>
      ⟨(documented n mem).1, (documented n mem).2.1⟩
    have built := Graph.toGraph_actions valid keyable actions s
    have same := (Graph.rebuilds_recovered keyable).mpr fun n mem => (held n mem).2
    refine ⟨_, _, _, toChain_eq o workspaceId fun n mem => (held n mem).1,
      Json.dumped_eq_ok_iff.mpr ⟨handed, rfl⟩, ofChainDocument_encode (compiled_kept o workspaceId) s built,
      same, rfl, ?_⟩
    intro named
    exact if_neg named

end Orchestrator

-- A graph comes back from its chain exactly if the chain can hold its payloads, and an orchestrator comes
-- back from the document of its chain exactly if the document can.
theorem Graph.chain_round_trip {g : Graph} (valid : g.Validated) (keyable : g.Keyable) :
    (g.RoundTrips ↔ ∀ n ∈ g.nodes, Held n) ∧
      ∀ o : Orchestrator, o.graph = g → (o.RoundTrips ↔ ∀ n ∈ g.nodes, Documented n) := by
  refine ⟨roundTrips_iff valid keyable, ?_⟩
  rintro o rfl
  exact Orchestrator.roundTrips_iff valid keyable

namespace Graph

-- A start that forks and whose payload holds more than its fields, and an edge that leads nowhere.
def forked : Graph where
  nodes :=
    [⟨"a", .origin, some "A1", ⟨"Start", 0, .minutes, .trigger ⟨"POST", "", none, none, false⟩,
      [("note", .arr [.int 1, .obj [("deep", .null)]])]⟩⟩,
      ⟨"b", .origin, none, ⟨"", 5, .days, .delay, []⟩⟩]
  edges := [⟨"e1", "a", "b", none, none⟩, ⟨"e2", "a", "a", none, none⟩, ⟨"e3", "b", "ghost", none, none⟩]

theorem forked_validated : forked.Validated := by
  intro n mem
  refine Node.validated_of_settled ?_
  simp only [forked, List.mem_cons, List.not_mem_nil, or_false] at mem
  rcases mem with rfl | rfl
  · exact ⟨by decide, by decide +kernel, fun _ shape => nomatch shape⟩
  · exact ⟨by decide, by decide, fun _ shape => nomatch shape⟩

theorem forked_keyable : forked.Keyable := ⟨by decide, by decide⟩

theorem forked_round_trip : forked.Validated ∧ forked.Keyable ∧ forked.RoundTrips ∧
    ∀ o : Orchestrator, o.graph = forked → o.RoundTrips := by
  obtain ⟨chain, document⟩ := chain_round_trip forked_validated forked_keyable
  refine ⟨forked_validated, forked_keyable, chain.mpr ?_, fun o same => (document o same).mpr ?_⟩
  · unfold Held
    decide +kernel
  · unfold Documented
    decide +kernel

end Graph

namespace Json

-- So many lists, one in the other.
def nested : Nat → Json
  | 0 => .null
  | depth + 1 => .arr [nested depth]

-- The value inside is one more than the lists.
theorem nested_fault (levels : Nat) : faultWithin levels (nested levels) = some .tooDeep := by
  induction levels with
  | zero => rfl
  | succ levels ih =>
    have step : nested (levels + 1) = .arr [nested levels] := rfl
    rw [step, faultWithin, itemsFault, ih]

end Json

theorem Payload.deep_not_dumped {p : Payload Details} (deep : ("x", .nested Json.deepestDump) ∈ p.extras) :
    p.dumpFault? ≠ none := by
  intro written
  have shallow := (Json.membersFault_none.mp written ("x", .nested Json.deepestDump) deep).2
  rw [Json.nested_fault] at shallow
  cases shallow

namespace Graph

-- A wait that is read as it is, and whose payload holds such a value besides its fields.
def laden (v : Json) : Graph := ⟨[⟨"a", .origin, none, ⟨"", 1, .days, .delay, [("x", v)]⟩⟩], []⟩

theorem laden_decoded (v : Json) (s : Supply) :
    decode .document (.obj [("nodes", .arr [.obj [("id", .str "a"), ("kind", .str "delay"),
      ("data", .obj [("x", v)])]])]) s = .ok (laden v, s) := rfl

theorem laden_validated (v : Json) : (laden v).Validated := decode_validated (laden_decoded v ⟨fun _ => "", 0⟩)

theorem laden_keyable (v : Json) : (laden v).Keyable := ⟨List.pairwise_singleton _ _, by simp [laden]⟩

-- A number that is handed out as nothing, and lists that are not handed out.
theorem extras_lost :
    ((laden (.float (.infinite false))).Validated ∧ (laden (.float (.infinite false))).Keyable ∧
      ¬ (laden (.float (.infinite false))).RoundTrips) ∧
    (laden (.nested 255)).Validated ∧ (laden (.nested 255)).Keyable ∧ ¬ (laden (.nested 255)).RoundTrips := by
  have held : ∀ v, (laden v).RoundTrips → ∀ n ∈ (laden v).nodes, Held n := fun v =>
    (roundTrips_iff (laden_validated v) (laden_keyable v)).mp
  refine ⟨⟨laden_validated _, laden_keyable _, fun trips => ?_⟩, laden_validated _, laden_keyable _, fun trips => ?_⟩
  · obtain ⟨_, finite⟩ := held _ trips _ List.mem_cons_self
    cases finite
  · obtain ⟨handed, _⟩ := held _ trips _ List.mem_cons_self
    exact Payload.deep_not_dumped List.mem_cons_self handed

end Graph

end Orchestration
