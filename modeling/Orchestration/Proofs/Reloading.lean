import Orchestration.Flow
import Orchestration.Proofs.StoredDocuments

namespace Orchestration

-- Every rewriting that reading does is done once: what was read is of today's shape, whatever it was read from.
def WasRead (decode : Source → Json → Decode α) (a : α) : Prop :=
  ∃ source v s t, decode source v s = .ok (a, t)

-- The document is handed out, and reading it gives the same again and draws no name.
def Reloads (decode : Source → Json → Decode α) (encode : α → Json) (fault? : α → Option Json.DumpFault)
    (a : α) : Prop :=
  ∃ doc, Json.dumped (fault? a) (encode a) = .ok doc ∧ ∀ source s, decode source doc s = .ok (a, s)

theorem reloads_iff {decode : Source → Json → Decode α} {encode : α → Json} {fault? : α → Option Json.DumpFault}
    {a image : α} (again : ∀ source s, decode source (encode a) s = .ok (image, s)) :
    Reloads decode encode fault? a ↔ fault? a = none ∧ image = a := by
  constructor
  · rintro ⟨doc, dumped, read⟩
    obtain ⟨handed, rfl⟩ := Json.dumped_eq_ok_iff.mp dumped
    have same := read .document ⟨fun _ => "", 0⟩
    rw [again] at same
    cases same
    exact ⟨handed, rfl⟩
  · rintro ⟨handed, rfl⟩
    exact ⟨_, Json.dumped_eq_ok_iff.mpr ⟨handed, rfl⟩, again⟩

theorem map_eq_self {f : α → α} {xs : List α} : xs.map f = xs ↔ ∀ x ∈ xs, f x = x := by
  have fixed := List.map_inj_left (l := xs) (f := f) (g := id)
  rwa [List.map_id] at fixed

theorem Kind.mem_of_migrate {k : Kind} (migrated : k.form.migrate m = .ok n) (mem : kv ∈ n) :
    kv ∈ m ∨ kv.1 = "rules" := by
  obtain rfl | ⟨rules, rfl⟩ := migrate_parts migrated
  · exact Or.inl mem
  · rcases Keyed.mem_of_mem_insert mem with old | rfl
    · exact Or.inl (List.mem_filter.mp old).1
    · exact Or.inr rfl

namespace Payload

-- No display id among the extras.
def Unmarked (p : Payload Details) : Prop := ∀ kv ∈ p.extras, kv.1 ≠ "displayId"

theorem unmarked_of_decode {k : Kind} {p : Payload Details}
    (decoded : k.form.decode source (.obj m) s = .ok (p, t)) (lacks : ∀ kv ∈ m, kv.1 ≠ "displayId") :
    p.Unmarked := by
  obtain ⟨given, n, _, _, same, migrated, _, _, extras⟩ := decode_parts decoded
  cases same
  intro kv mem
  rw [extras] at mem
  rcases Kind.mem_of_migrate migrated (List.mem_filter.mp mem).1 with old | rules
  · exact lacks kv old
  · rw [rules]
    decide

theorem loaded_eq_kept {p : Payload Details} (unmarked : p.Unmarked) : p.loaded = p.kept := by
  have lacks : ¬ Keyed.has (Json.finiteMembers p.extras) "displayId" = true := by
    rw [Keyed.has, List.any_eq_true]
    rintro ⟨kv, mem, same⟩
    have key := List.mem_map_of_mem (f := Prod.fst) mem
    rw [Json.finiteMembers_keys] at key
    obtain ⟨old, present, renamed⟩ := List.mem_map.mp key
    exact unmarked old present (renamed.trans (eq_of_beq same))
  rw [loaded, Keyed.erase_of_not_has lacks, kept]

end Payload

namespace Node

theorem normalize_data {m d : Members} (same : normalize v = .obj m) (data : m.find? "data" = some (.obj d)) :
    ∀ kv ∈ d, kv.1 ≠ "displayId" := by
  intro kv mem marked
  cases v with
  | null | bool _ | int _ | float _ | str _ | arr _ => cases same
  | obj w =>
    obtain ⟨n, shape, _, found⟩ := normalize_members w
    cases same.symm.trans shape
    obtain ⟨held, _, unmarked⟩ := Option.map_eq_some_iff.mp (found.symm.trans data)
    cases held with
    | obj e =>
      cases unmarked
      simpa [marked] using (List.mem_filter.mp mem).2
    | null | bool _ | int _ | float _ | str _ | arr _ => cases unmarked

theorem unmarked_of_decode {n : Node} (read : decode source (normalize v) s = .ok (n, t)) :
    n.payload.Unmarked := by
  obtain ⟨k, m, same, inner⟩ := decode_parts read
  obtain ⟨_, u, p, first, last, rfl⟩ := Decode.seq_parts inner
  obtain ⟨_, _, _, second, _, rfl⟩ := Decode.seq_parts first
  obtain ⟨_, _, _, third, _, rebuilt⟩ := Decode.seq_parts second
  obtain ⟨_, _, rfl⟩ := Decode.map_parts third
  subst rebuilt
  cases data : Keyed.find? m "data" with
  | none =>
    have initial : k.form.initial u = .ok (p, t) := by
      simpa only [Decode.field, FieldName.given?, FieldName.same, data, Option.map_none] using last
    exact Payload.unmarked_of_decode initial fun kv mem => absurd mem List.not_mem_nil
  | some d =>
    have given := Decode.field_parts (f := .same "data") data last
    obtain ⟨d, rfl, _⟩ := Decode.record_parts given
    exact Payload.unmarked_of_decode given (normalize_data same data)

theorem kept_eq_self {n : Node} : n.kept = n ↔ Json.membersFinite n.payload.extras = true := by
  rw [← Payload.kept_eq_self]
  constructor
  · exact congrArg Node.payload
  · intro same
    rw [kept, same]

theorem loaded_eq_kept {n : Node} (unmarked : n.payload.Unmarked) : n.loaded = n.kept := by
  rw [loaded, Payload.loaded_eq_kept unmarked, kept]

end Node

namespace Graph

-- No extra of a node holds a number that is not finite.
def FiniteExtras (g : Graph) : Prop := ∀ n ∈ g.nodes, Json.membersFinite n.payload.extras = true

def Unmarked (g : Graph) : Prop := ∀ n ∈ g.nodes, n.payload.Unmarked

theorem unmarked_of_readMembers (read : readMembers source m s = .ok (g, t)) : g.Unmarked := by
  obtain ⟨_, _, _, first, _, rfl⟩ := Decode.seq_parts read
  obtain ⟨ns, nodes, rfl⟩ := Decode.map_parts first
  rcases Decode.field_cases nodes with absent | ⟨v, given⟩
  · obtain ⟨rfl, _⟩ := Decode.pure_parts absent
    exact fun n mem => absurd mem List.not_mem_nil
  · cases v with
    | arr vs =>
      refine Decode.items_each (fun v mem s n t decoded => ?_) given
      obtain ⟨w, _, rfl⟩ := List.mem_map.mp mem
      exact Node.unmarked_of_decode decoded
    | null | bool _ | int _ | float _ | str _ | obj _ => cases given

theorem kept_eq_self {g : Graph} : g.nodes.map Node.kept = g.nodes ↔ g.FiniteExtras := by
  rw [map_eq_self, FiniteExtras]
  exact forall₂_congr fun n _ => Node.kept_eq_self

theorem loaded_eq_self_iff {g : Graph} (unmarked : g.Unmarked) : g.loaded = g ↔ g.FiniteExtras := by
  have kept : g.nodes.map Node.loaded = g.nodes.map Node.kept :=
    List.map_congr_left fun n mem => Node.loaded_eq_kept (unmarked n mem)
  rw [← kept_eq_self, loaded, kept]
  constructor
  · exact congrArg nodes
  · intro same
    rw [same]

theorem decode_encode (read : WasRead decode g) (source : Source) (s : Supply) :
    decode source g.encode s = .ok (g.loaded, s) := by
  obtain ⟨_, _, _, _, decoded⟩ := read
  exact readMembers_written (m := g.members) rfl rfl (decode_validated decoded) source s

theorem unmarked_of_wasRead (read : WasRead decode g) : g.Unmarked := by
  obtain ⟨_, _, _, _, decoded⟩ := read
  obtain ⟨_, _, inner⟩ := Decode.record_parts decoded
  exact unmarked_of_readMembers inner

theorem reloads_iff (read : WasRead decode g) :
    Reloads decode encode dumpFault? g ↔ g.dumpFault? = none ∧ g.FiniteExtras := by
  rw [Orchestration.reloads_iff (decode_encode read), loaded_eq_self_iff (unmarked_of_wasRead read)]

end Graph

namespace Orchestrator

theorem decode_encode {o : Orchestrator} (read : WasRead decode o) (source : Source) (s : Supply) :
    decode source o.encode s = .ok (o.loaded, s) := by
  obtain ⟨_, _, _, _, decoded⟩ := read
  obtain ⟨_, _, ⟨_, graph⟩, _⟩ := decode_parts decoded
  exact decode_written (Graph.readMembers_validated graph) source s

theorem loaded_eq_self_iff {o : Orchestrator} (read : WasRead decode o) :
    o.loaded = o ↔ o.graph.FiniteExtras := by
  obtain ⟨_, _, _, _, decoded⟩ := read
  obtain ⟨_, _, ⟨_, graph⟩, _⟩ := decode_parts decoded
  rw [← Graph.loaded_eq_self_iff (Graph.unmarked_of_readMembers graph)]
  constructor
  · exact congrArg Orchestrator.graph
  · intro same
    rw [loaded, same]

theorem reloads_iff {o : Orchestrator} (read : WasRead decode o) :
    Reloads decode encode dumpFault? o ↔ o.dumpFault? = none ∧ o.graph.FiniteExtras := by
  rw [Orchestration.reloads_iff (decode_encode read), loaded_eq_self_iff read]

end Orchestrator

-- Neither the arguments nor the fallback of an action hold a number that is not finite.
def Chain.FiniteValues (c : Chain) : Prop :=
  ∀ kv ∈ c.actions, Json.membersFinite kv.2.args = true ∧ kv.2.fallback.isFinite = true

theorem Action.kept_eq_self {a : Action} :
    a.kept = a ↔ Json.membersFinite a.args = true ∧ a.fallback.isFinite = true := by
  constructor
  · intro same
    have args : Json.finiteMembers a.args = a.args := congrArg Action.args same
    have fallback : a.fallback.finiteOnly = a.fallback := congrArg Action.fallback same
    exact ⟨Json.finiteMembers_eq_self.mp args, fallback ▸ Json.finiteOnly_isFinite a.fallback⟩
  · rintro ⟨args, fallback⟩
    rw [kept, Json.finiteMembers_eq_self.mpr args, Json.finiteOnly_of_isFinite _ fallback]

theorem Chain.kept_eq_self_iff {c : Chain} : c.kept = c ↔ c.FiniteValues := by
  have each : c.actions.map (fun kv => (kv.1, kv.2.kept)) = c.actions ↔ c.FiniteValues := by
    rw [map_eq_self, FiniteValues]
    refine forall₂_congr fun kv _ => ?_
    rw [← Action.kept_eq_self]
    exact ⟨congrArg Prod.snd, congrArg (Prod.mk kv.1)⟩
  rw [← each]
  constructor
  · exact congrArg Chain.actions
  · intro same
    rw [kept, same]

theorem Chain.reloads_iff {c : Chain} :
    Reloads decode encode dumpFault? c ↔ c.dumpFault? = none ∧ c.FiniteValues := by
  rw [Orchestration.reloads_iff fun source s => Chain.decode_encode source c s, kept_eq_self_iff]

namespace Version

theorem validated_of_decode {w : Version} (decoded : decode source v s = .ok (w, t)) : w.graph.Validated := by
  obtain ⟨m, rfl, read⟩ := Decode.record_parts decoded
  obtain ⟨_, _, _, six, _, last⟩ := Decode.seq_parts read
  obtain ⟨_, _, _, five, _, whole6⟩ := Decode.seq_parts six
  obtain ⟨_, _, _, four, _, whole5⟩ := Decode.seq_parts five
  obtain ⟨_, _, _, three, _, whole4⟩ := Decode.seq_parts four
  obtain ⟨_, _, ns, two, nodes, whole3⟩ := Decode.seq_parts three
  obtain ⟨_, _, _, one, _, whole2⟩ := Decode.seq_parts two
  obtain ⟨_, _, whole1⟩ := Decode.map_parts one
  subst whole1 whole2 whole3 whole4 whole5 whole6 last
  rcases Decode.field_cases nodes with absent | ⟨v, given⟩
  · cases absent
  · obtain ⟨vs, rfl, items⟩ := Decode.list_parts given
    exact Decode.items_each (fun _ _ _ _ _ read => Node.Validated.read read) items

theorem kept_eq_self {v : Version} : v.kept = v ↔ v.graph.FiniteExtras ∧ v.chain.FiniteValues := by
  rw [← Graph.kept_eq_self, ← Chain.kept_eq_self_iff]
  constructor
  · intro same
    exact ⟨congrArg (fun w : Version => w.graph.nodes) same, congrArg Version.chain same⟩
  · rintro ⟨nodes, chain⟩
    rw [kept, nodes, chain]

theorem reloads_iff {v : Version} (read : WasRead decode v) :
    Reloads decode encode dumpFault? v ↔
      v.dumpFault? = none ∧ v.graph.FiniteExtras ∧ v.chain.FiniteValues := by
  obtain ⟨source, w, s, t, decoded⟩ := read
  rw [Orchestration.reloads_iff (decode_written (validated_of_decode decoded)), kept_eq_self]

end Version

namespace Flow

def WasRead : Flow → Prop
  | .graph g => Orchestration.WasRead Graph.decode g
  | .orchestrator o => Orchestration.WasRead Orchestrator.decode o

-- What is read of the document of a flow. It is of the same kind.
def loaded : Flow → Flow
  | .graph g => .graph g.loaded
  | .orchestrator o => .orchestrator o.loaded

theorem loaded_eq_self_iff {f : Flow} (read : f.WasRead) : f.loaded = f ↔ f.toGraph.FiniteExtras := by
  cases f with
  | graph g =>
    rw [loaded, graph.injEq]
    exact Graph.loaded_eq_self_iff (Graph.unmarked_of_wasRead read)
  | orchestrator o =>
    rw [loaded, orchestrator.injEq]
    exact Orchestrator.loaded_eq_self_iff read

-- The keys of a document tell which kind it is.
theorem load_encode {f : Flow} (read : f.WasRead) (s : Supply) :
    load f.encode s = .quiet (.ok (f.loaded, s)) := by
  cases f with
  | graph g =>
    have kind : load g.encode s = .quiet ((ofDocument .graph g.encode s).mapError .rejected) := rfl
    rw [encode, kind, ofDocument, Decode.load, Graph.decode_encode read]
    rfl
  | orchestrator o =>
    have kind : load o.encode s = .quiet ((ofDocument .orchestrator o.encode s).mapError .rejected) := rfl
    rw [encode, kind, ofDocument, Decode.load, Orchestrator.decode_encode read]
    rfl

theorem load_wrapped (f : Flow) (s : Supply) : load (.arr [f.encode]) s = load f.encode s := by
  have bare : Orchestrator.firstDocument f.encode = f.encode := by
    cases f <;> rfl
  rw [load, load, bare]
  rfl

end Flow

end Orchestration
