import Orchestration.DisplayId.Walk
import Orchestration.Proofs.ChainDocument

namespace Orchestration

namespace Payload

-- What is read of a stored payload.
def loaded (p : Payload Details) : Payload Details :=
  { p with extras := Keyed.erase (Json.finiteMembers p.extras) "displayId" }

theorem erase_handed (p : Payload Details) :
    Keyed.erase (p.kind.form.handed p) "displayId" = p.loaded.kind.form.members p.loaded := by
  have handed : p.kind.form.handed p = p.own ++ Json.finiteMembers p.extras := p.kept.members_eq
  have mine : p.own.filter (·.1 != "displayId") = p.own := by
    rw [List.filter_eq_self]
    intro kv mem
    obtain ⟨f, field, same⟩ := own_wire mem
    have other := (p.kind.names_ne_displayId f field).1
    simpa [← same] using other
  rw [members_eq, handed, Keyed.erase, List.filter_append, mine]
  rfl

theorem loaded_settled {p : Payload Details} (settled : p.Settled) : p.loaded.Settled where
  free := fun kv mem => (kept_settled settled).free kv (List.mem_filter.mp mem).1
  whole := fun kv mem => (kept_settled settled).whole kv (List.mem_filter.mp mem).1
  cases := by
    intro c shape given
    refine (kept_settled settled).cases c shape ?_
    have untouched : Keyed.find? p.loaded.extras "cases" = Keyed.find? p.kept.extras "cases" :=
      Keyed.find?_filter (p := fun key => key != "displayId") rfl
    rwa [untouched] at given

theorem decode_loaded {p : Payload Details} (settled : p.Settled) (source : Source) (s : Supply) :
    p.kind.form.decode source (.obj (Keyed.erase (p.kind.form.handed p) "displayId")) s = .ok (p.loaded, s) := by
  rw [erase_handed]
  exact decode_members (loaded_settled settled) source s

theorem encode_finite (p : Payload Details) : p.encode.finiteOnly = p.encode := by
  rw [encode_eq, members_eq, Json.finiteOnly, Json.finiteMembers_append, own_finite, kept, Json.finiteMembers_idem]

-- What comes back as it is.
def Plain (p : Payload Details) : Prop :=
  p.Settled ∧ Json.membersFinite p.extras = true ∧ ∀ kv ∈ p.extras, kv.1 ≠ "displayId"

theorem loaded_plain {p : Payload Details} (settled : p.Settled) : p.loaded.Plain := by
  have finite := Json.membersFinite_iff.mp (Json.finiteMembers_isFinite p.extras)
  refine ⟨loaded_settled settled, Json.membersFinite_iff.mpr ?_, ?_⟩
  · intro kv mem
    exact finite kv (List.mem_filter.mp mem).1
  · intro kv mem
    simpa using (List.mem_filter.mp mem).2

theorem loaded_eq_self {p : Payload Details} (plain : p.Plain) : p.loaded = p := by
  obtain ⟨_, finite, free⟩ := plain
  have kept : Keyed.erase p.extras "displayId" = p.extras := by
    rw [Keyed.erase, List.filter_eq_self]
    intro kv mem
    simpa using free kv mem
  rw [loaded, Json.finiteMembers_eq_self.mpr finite, kept]

end Payload

theorem Position.encode_finite {p : Position} (x : p.x.isFinite = true) (y : p.y.isFinite = true) :
    p.encode.finiteOnly = p.encode := by
  refine Json.finiteOnly_of_isFinite _ ?_
  simp [encode, Json.isFinite, Json.membersFinite, x, y]

theorem Decode.finite_of_number {x : Binary64} (read : number (Json.float x).finiteOnly s = .ok r) :
    x.isFinite = true := by
  cases finite : x.isFinite with
  | true => rfl
  | false =>
    rw [Json.finiteOnly, finite] at read
    exact absurd read complain_fails

-- Null is no number, so a position that was not finite is not read.
theorem Position.finite_of_decode {p : Position} (read : decode source p.encode.finiteOnly s = .ok r) :
    p.x.isFinite = true ∧ p.y.isFinite = true := by
  obtain ⟨_, _, _, first, second, _⟩ := Decode.seq_parts read
  obtain ⟨_, first, _⟩ := Decode.map_parts first
  exact ⟨Decode.finite_of_number (Decode.field_parts (f := .same "x") rfl first),
    Decode.finite_of_number (Decode.field_parts (f := .same "y") rfl second)⟩

namespace Node

def loaded (n : Node) : Node := { n with payload := n.payload.loaded }

theorem encode_stored (n : Node) : n.encode.finiteOnly =
    .obj [("id", .str n.id), ("position", n.position.encode.finiteOnly), ("displayId", .ofText? n.displayId),
      ("kind", .str n.kind.tag), ("data", n.payload.encode)] := by
  simp only [encode, Json.finiteOnly, Json.finiteMembers, Json.finiteOnly_ofText, n.payload.encode_finite]

theorem encode_finite {n : Node} (x : n.position.x.isFinite = true) (y : n.position.y.isFinite = true) :
    n.encode.finiteOnly = n.encode := by
  rw [encode_stored, Position.encode_finite x y]
  rfl

-- Data without a display id inside.
def unmarkedData : Json → Json
  | .obj data => .obj (Keyed.erase data "displayId")
  | v => v

-- What a node document holds once it was brought into today's shape.
theorem normalize_members (m : Members) : ∃ n : Members, normalize (.obj m) = .obj n ∧
    n.find? "kind" = storedKind m ∧ n.find? "data" = (m.find? "data").map unmarkedData := by
  let rest : Members := (m.erase "kind").erase "type"
  let tagged : Members := (storedKind m).elim rest fun kind => rest.insert "kind" kind
  have kind : tagged.find? "kind" = storedKind m := by
    cases stored : storedKind m with
    | some kind => simp only [tagged, stored, Option.elim_some, Keyed.find?_insert_self]
    | none =>
      simp only [tagged, stored, rest, Option.elim_none]
      rw [Keyed.find?_erase_of_ne _ (by decide), Keyed.find?_erase_self]
  have data : tagged.find? "data" = m.find? "data" := by
    have plain : rest.find? "data" = m.find? "data" := by
      rw [Keyed.find?_erase_of_ne _ (by decide), Keyed.find?_erase_of_ne _ (by decide)]
    cases stored : storedKind m with
    | some kind =>
      simpa only [tagged, stored, Option.elim_some, Keyed.find?_insert_of_ne _ _ (by decide : "data" ≠ "kind")] using plain
    | none => simpa only [tagged, stored, Option.elim_none] using plain
  have shape : normalize (.obj m) = ((tagged.find? "data").bind Json.members?).elim (.obj tagged) fun data =>
      .obj (if data.has "displayId" then tagged.insert "data" (.obj (data.erase "displayId")) else tagged) := by
    simp only [normalize, Json.members?, tagged, rest]
    cases storedKind m with
    | none =>
      simp only [Option.elim_none]
      cases (Keyed.find? ((m.erase "kind").erase "type") "data").bind Json.members? <;> rfl
    | some kind =>
      simp only [Option.elim_some]
      cases (Keyed.find? (((m.erase "kind").erase "type").insert "kind" kind) "data").bind Json.members? <;> rfl
  rw [shape]
  cases found : m.find? "data" with
  | none => exact ⟨tagged, by rw [data, found]; rfl, kind, by rw [data, found]; rfl⟩
  | some v =>
    cases v with
    | obj d =>
      simp only [data, found, Option.bind_some, Json.members?, Option.map_some, unmarkedData]
      refine ⟨_, rfl, ?_⟩
      split
      · exact ⟨by rw [Keyed.find?_insert_of_ne _ _ (by decide), kind], Keyed.find?_insert_self _ _ _⟩
      · rename_i lacks
        exact ⟨kind, by rw [Keyed.erase_of_not_has lacks, data, found]⟩
    | null | bool _ | int _ | float _ | str _ | arr _ =>
      exact ⟨tagged, by rw [data, found]; rfl, kind, by rw [data, found]; rfl⟩

-- A written node is of today's shape already, wherever it is placed. Only its data may change.
theorem normalize_placed (n : Node) (place : Json) :
    normalize (.obj [("id", .str n.id), ("position", place), ("displayId", .ofText? n.displayId),
      ("kind", .str n.kind.tag), ("data", n.payload.encode)]) =
    .obj [("id", .str n.id), ("position", place), ("displayId", .ofText? n.displayId),
      ("data", .obj (Keyed.erase (n.kind.form.handed n.payload) "displayId")), ("kind", .str n.kind.tag)] := by
  let front : Members := [("id", .str n.id), ("position", place), ("displayId", .ofText? n.displayId)]
  let data := n.kind.form.handed n.payload
  have kind : storedKind (front ++ [("kind", .str n.kind.tag), ("data", .obj data)]) =
      some (.str n.kind.tag) := by
    have tag : storedKind (front ++ [("kind", .str n.kind.tag), ("data", .obj data)]) =
        some (.str (Kind.currentTag n.kind.tag)) := rfl
    rw [tag, Kind.currentTag_tag]
  have tagged : Keyed.insert (Keyed.erase (Keyed.erase
      (front ++ [("kind", .str n.kind.tag), ("data", .obj data)]) "kind") "type") "kind" (.str n.kind.tag) =
        front ++ [("data", .obj data), ("kind", .str n.kind.tag)] := rfl
  have found : (Keyed.find? (front ++ [("data", .obj data), ("kind", .str n.kind.tag)]) "data").bind
      Json.members? = some data := rfl
  show normalize (.obj (front ++ [("kind", .str n.kind.tag), ("data", .obj data)])) = _
  rw [normalize]
  simp only [Json.members?, kind, tagged]
  simp only [found]
  by_cases inside : Keyed.has data "displayId" = true
  · rw [if_pos inside]
    rfl
  · rw [if_neg inside, Keyed.erase_of_not_has inside]
    rfl

theorem decode_written {n : Node} (settled : n.payload.Settled) (source : Source) (s : Supply) :
    decode source (normalize n.encode) s = .ok (n.loaded, s) := by
  rw [encode, normalize_placed]
  exact decode_ok rfl (readMembers_ok rfl rfl (Decode.field_ok rfl (Decode.optional_text _ _)) rfl
    (Payload.decode_loaded settled source s))

theorem finite_of_decode {n : Node} (read : decode source (normalize n.encode.finiteOnly) s = .ok r) :
    n.position.x.isFinite = true ∧ n.position.y.isFinite = true := by
  rw [encode_stored, normalize_placed] at read
  obtain ⟨k, m, same, inner⟩ := decode_parts read
  cases same
  obtain ⟨_, _, _, first, _, _⟩ := Decode.seq_parts inner
  obtain ⟨_, _, _, second, _, _⟩ := Decode.seq_parts first
  obtain ⟨_, _, _, _, position, _⟩ := Decode.seq_parts second
  exact Position.finite_of_decode (Decode.field_parts (f := .same "position") rfl position)

-- What comes back as it is.
def Plain (n : Node) : Prop :=
  n.payload.Plain ∧ n.position.x.isFinite = true ∧ n.position.y.isFinite = true

theorem loaded_eq_self {n : Node} (plain : n.Plain) : n.loaded = n := by
  rw [loaded, Payload.loaded_eq_self plain.1]

end Node

theorem Edge.encode_finite (e : Edge) : e.encode.finiteOnly = e.encode := by
  refine Json.finiteOnly_of_isFinite _ ?_
  simp [encode, Json.isFinite, Json.membersFinite, Json.finite_ofText]

namespace Graph

def loaded (g : Graph) : Graph := { g with nodes := g.nodes.map Node.loaded }

def Placed (g : Graph) : Prop :=
  ∀ n ∈ g.nodes, n.position.x.isFinite = true ∧ n.position.y.isFinite = true

-- What comes back as it is.
def Plain (g : Graph) : Prop := ∀ n ∈ g.nodes, n.Plain

theorem loaded_eq_self {g : Graph} (plain : g.Plain) : g.loaded = g := by
  have same : g.nodes.map Node.loaded = g.nodes := by
    refine (List.map_congr_left fun n mem => ?_).trans (List.map_id _)
    exact Node.loaded_eq_self (plain n mem)
  rw [loaded, same]

theorem loaded_plain {g : Graph} (valid : g.Validated) (placed : g.Placed) : g.loaded.Plain := by
  intro n mem
  obtain ⟨m, present, rfl⟩ := List.mem_map.mp mem
  exact ⟨Payload.loaded_plain (valid m present).settled, placed m present⟩

theorem plain_relabel {g : Graph} (plain : g.Plain) : g.relabel.graph.Plain := by
  intro n mem
  obtain ⟨m, present, rfl⟩ := List.mem_map.mp mem
  exact plain m present

theorem validated_relabel {g : Graph} (valid : g.Validated) : g.relabel.graph.Validated := by
  intro n mem
  obtain ⟨m, present, rfl⟩ := List.mem_map.mp mem
  exact .labeled (valid m present)

theorem placed_of_plain {g : Graph} (plain : g.Plain) : g.Placed := fun n mem => (plain n mem).2

theorem encode_finite {g : Graph} (placed : g.Placed) : Json.finiteMembers g.members = g.members := by
  have nodes : Json.finiteItems (g.nodes.map Node.encode) = g.nodes.map Node.encode :=
    Json.finiteItems_written fun n mem => Node.encode_finite (placed n mem).1 (placed n mem).2
  have edges : Json.finiteItems (g.edges.map Edge.encode) = g.edges.map Edge.encode :=
    Json.finiteItems_written fun e _ => e.encode_finite
  simp only [members, Json.finiteMembers, Json.finiteOnly, nodes, edges]

theorem readMembers_written {g : Graph} {m : Members}
    (nodes : m.find? "nodes" = some (.arr (g.nodes.map Node.encode)))
    (edges : m.find? "edges" = some (.arr (g.edges.map Edge.encode))) (valid : g.Validated) (source : Source)
    (s : Supply) : readMembers source m s = .ok (g.loaded, s) := by
  have read : decodeNodes source (.arr (g.nodes.map Node.encode)) s = .ok (g.loaded.nodes, s) := by
    rw [decodeNodes, List.map_map]
    exact Decode.items_images g.nodes 0 s fun n mem => Node.decode_written (valid n mem).settled source s
  have kept : Decode.list (Edge.decode source) (.arr (g.edges.map Edge.encode)) s = .ok (g.edges, s) :=
    Decode.items_map g.edges 0 s fun e _ => e.decode_encode source s
  exact Decode.seq_ok (Decode.map_ok (Decode.field_ok (f := .same "nodes") nodes read))
    (Decode.field_ok (f := .same "edges") edges kept)

theorem placed_of_readMembers {g : Graph} {m : Members}
    (nodes : m.find? "nodes" = some (Json.arr (g.nodes.map Node.encode)).finiteOnly)
    (read : readMembers source m s = .ok r) : g.Placed := by
  rw [Json.finiteOnly] at nodes
  obtain ⟨_, _, _, first, _, _⟩ := Decode.seq_parts read
  obtain ⟨_, first, _⟩ := Decode.map_parts first
  have items := Decode.field_parts (f := .same "nodes") nodes first
  rw [decodeNodes, Json.finiteItems_eq_map, List.map_map, List.map_map] at items
  intro n mem
  obtain ⟨_, _, read⟩ := Decode.items_ok items _ (List.mem_map_of_mem mem)
  exact Node.finite_of_decode read

end Graph

namespace Orchestrator

def loaded (o : Orchestrator) : Orchestrator := { o with graph := o.graph.loaded }

theorem encode_finite {o : Orchestrator} (placed : o.graph.Placed) (score : o.health.score.isFinite = true) :
    o.encode.finiteOnly = o.encode := by
  rw [encode, members, Json.finiteOnly, Json.finiteMembers_append, Graph.encode_finite placed]
  simp only [Json.finiteMembers, Json.finiteOnly_ofText, Json.finiteOnly_ofInt]
  simp only [Json.finiteOnly, score, if_true]

theorem decode_written {o : Orchestrator} (valid : o.graph.Validated) (source : Source) (s : Supply) :
    decode source o.encode s = .ok (o.loaded, s) := by
  have graph : Graph.readMembers source o.members s = .ok (o.loaded.graph, s) :=
    Graph.readMembers_written rfl rfl valid source s
  have status : Decode.choice Status.ofTag? (.str o.status.tag) s = .ok (o.status, s) :=
    Decode.choice_ok (Status.ofTag?_tag _)
  exact Decode.seq_ok (Decode.seq_ok (Decode.seq_ok (Decode.seq_ok (Decode.seq_ok (Decode.seq_ok
    (Decode.seq_ok (Decode.seq_ok (Decode.seq_ok (Decode.seq_ok (Decode.map_ok graph)
    (Decode.required_ok (f := .same "id") rfl rfl))
    (Decode.required_ok (f := .same "name") rfl rfl))
    (Decode.field_ok (f := .same "description") rfl rfl))
    (Decode.field_ok (f := .same "status") rfl status))
    (Decode.field_ok rfl rfl))
    (Decode.field_ok rfl rfl))
    (Decode.field_ok rfl (Decode.optional_text _ _)))
    (Decode.field_ok rfl (Decode.optional_integer _ _)))
    (Decode.field_ok rfl (Decode.optional_text _ _)))
    (Decode.field_ok rfl (Decode.optional_text _ _))

theorem decode_stored {o : Orchestrator} (valid : o.graph.Validated) (placed : o.graph.Placed)
    (score : o.health.score.isFinite = true) (source : Source) (s : Supply) :
    decode source o.encode.finiteOnly s = .ok (o.loaded, s) := by
  rw [encode_finite placed score]
  exact decode_written valid source s

theorem find_stored {o : Orchestrator} {key : String} {v : Json} (found : o.members.find? key = some v) :
    Keyed.find? (Json.finiteMembers o.members) key = some v.finiteOnly := by
  rw [Json.find?_finiteMembers, found, Option.map_some]

theorem decode_parts {o : Orchestrator} (decoded : decode source v s = .ok (o, t)) :
    ∃ m, v = .obj m ∧ (∃ u, Graph.readMembers source m s = .ok (o.graph, u)) ∧
      ∃ u w, Decode.field m ⟨"executionHealth", "execution_health"⟩ (pure Health.clean.score) Decode.number u =
        .ok (o.health.score, w) := by
  obtain ⟨m, rfl, read⟩ := Decode.record_parts decoded
  obtain ⟨_, _, _, ten, _, last⟩ := Decode.seq_parts read
  obtain ⟨_, _, _, nine, _, whole10⟩ := Decode.seq_parts ten
  obtain ⟨_, _, _, eight, _, whole9⟩ := Decode.seq_parts nine
  obtain ⟨_, _, _, seven, _, whole8⟩ := Decode.seq_parts eight
  obtain ⟨_, _, _, six, _, whole7⟩ := Decode.seq_parts seven
  obtain ⟨_, _, _, five, score, whole6⟩ := Decode.seq_parts six
  obtain ⟨_, _, _, four, _, whole5⟩ := Decode.seq_parts five
  obtain ⟨_, _, _, three, _, whole4⟩ := Decode.seq_parts four
  obtain ⟨_, _, _, two, _, whole3⟩ := Decode.seq_parts three
  obtain ⟨_, _, _, one, _, whole2⟩ := Decode.seq_parts two
  obtain ⟨_, graph, whole1⟩ := Decode.map_parts one
  subst whole1 whole2 whole3 whole4 whole5 whole6 whole7 whole8 whole9 whole10 last
  exact ⟨m, rfl, ⟨_, graph⟩, _, _, score⟩

theorem finite_of_decode {o : Orchestrator} (read : decode source o.encode.finiteOnly s = .ok r) :
    o.graph.Placed ∧ o.health.score.isFinite = true := by
  obtain ⟨m, same, ⟨_, graph⟩, _, _, score⟩ := decode_parts read
  cases same
  exact ⟨Graph.placed_of_readMembers (find_stored rfl) graph,
    Decode.finite_of_number (Decode.field_parts (find_stored rfl) score)⟩

theorem loaded_of_decode {o l : Orchestrator} (valid : o.graph.Validated)
    (read : decode source o.encode.finiteOnly s = .ok (l, t)) :
    l = o.loaded ∧ t = s ∧ l.graph.Plain := by
  obtain ⟨placed, score⟩ := finite_of_decode read
  rw [decode_stored valid placed score] at read
  cases read
  exact ⟨rfl, rfl, Graph.loaded_plain valid placed⟩

end Orchestrator

theorem Graph.validated_of_plain {g : Graph} (plain : g.Plain) : g.Validated :=
  fun n mem => Node.validated_of_settled (plain n mem).1.1

theorem Action.encode_finite {a : Action} (x : a.position.x.isFinite = true)
    (y : a.position.y.isFinite = true) : a.encode.finiteOnly = a.encode := by
  have args := Json.finiteMembers_isFinite a.args
  have fallback := Json.finiteOnly_isFinite a.fallback
  refine Json.finiteOnly_of_isFinite _ ?_
  simp [encode, Position.encode, Json.isFinite, Json.membersFinite, Json.finite_ofText, Json.finite_ofInt, args,
    fallback, x, y]

theorem Chain.encode_finite {c : Chain}
    (each : ∀ kv ∈ c.actions, kv.2.encode.finiteOnly = kv.2.encode) : c.encode.finiteOnly = c.encode := by
  have actions := Json.finiteMembers_written each
  simp only [encode, Json.finiteOnly, Json.finiteMembers, Json.finiteOnly_ofText, actions]

theorem Orchestrator.compiled_finite {o : Orchestrator} (plain : o.graph.Plain) (workspaceId : Option String) :
    (o.compiled workspaceId).encode.finiteOnly = (o.compiled workspaceId).encode := by
  refine Chain.encode_finite fun kv mem => ?_
  obtain ⟨n, present, same⟩ := Graph.action_of_compile o.graph o.name mem
  rw [same]
  exact Action.encode_finite (plain n present).2.1 (plain n present).2.2

namespace Version

theorem encode_finite {v : Version} (plain : v.graph.Plain) (chain : v.chain.encode.finiteOnly = v.chain.encode) :
    v.encode.finiteOnly = v.encode := by
  rw [encode, Json.finiteOnly, Json.finiteMembers_append, Json.finiteMembers_append,
    Graph.encode_finite (Graph.placed_of_plain plain)]
  simp only [Json.finiteMembers, chain, Json.finiteOnly_ofText]
  rfl

-- What is read of a version. Its nodes are read as they are.
def kept (v : Version) : Version :=
  { v with graph := { v.graph with nodes := v.graph.nodes.map Node.kept }, chain := v.chain.kept }

theorem decode_written {v : Version} (valid : v.graph.Validated) (source : Source) (s : Supply) :
    decode source v.encode s = .ok (v.kept, s) := by
  have nodes : Decode.list (Node.decode source) (.arr (v.graph.nodes.map Node.encode)) s =
      .ok (v.kept.graph.nodes, s) :=
    Decode.items_images v.graph.nodes 0 s fun n mem => Node.decode_encode (valid n mem).settled source s
  have edges : Decode.list (Edge.decode source) (.arr (v.graph.edges.map Edge.encode)) s =
      .ok (v.graph.edges, s) :=
    Decode.items_map v.graph.edges 0 s fun e _ => e.decode_encode source s
  have actions : Chain.decode source v.chain.encode s = .ok (v.kept.chain, s) :=
    Chain.decode_encode source v.chain s
  exact Decode.seq_ok (Decode.seq_ok (Decode.seq_ok (Decode.seq_ok (Decode.seq_ok (Decode.seq_ok
    (Decode.map_ok (Decode.required_ok rfl rfl)) (Decode.required_ok (f := .same "version") rfl rfl))
    (Decode.required_ok (f := .same "nodes") rfl nodes)) (Decode.required_ok (f := .same "edges") rfl edges))
    (Decode.required_ok (f := .same "chain") rfl actions))
    (Decode.field_ok rfl (Decode.optional_text _ _))) (Decode.required_ok rfl rfl)

theorem decode_encode {v : Version} (plain : v.graph.Plain) (chain : v.chain.kept = v.chain) (source : Source)
    (s : Supply) : decode source v.encode s = .ok (v, s) := by
  have nodes : v.graph.nodes.map Node.kept = v.graph.nodes := by
    refine (List.map_congr_left fun n mem => ?_).trans (List.map_id _)
    rw [Node.kept, Payload.kept_eq_self.mpr (plain n mem).1.2.1]
    rfl
  have same : v.kept = v := by rw [kept, nodes, chain]
  rw [decode_written (Graph.validated_of_plain plain), same]

end Version

end Orchestration
