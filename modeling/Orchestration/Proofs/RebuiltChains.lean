import Orchestration.Proofs.ConventionalIds
import Orchestration.Proofs.FieldReading
import Orchestration.Proofs.NodeConstruction
import Orchestration.Proofs.Requests

namespace Orchestration

namespace Chain

-- The action that a pointer leads to.
def target? (c : Chain) (a : Action) : Option String :=
  a.nextAction.filter fun target => target != "" && c.actions.has target

-- The edge that stands for a pointer.
def pointer? (c : Chain) (key : String) (a : Action) : Option Edge :=
  (c.target? a).map fun target => ⟨Edge.conventionalId key target none, key, target, a.nextHandle, none⟩

theorem edgeOf_value (c : Chain) (key : String) (a : Action) : (c.edgeOf key a).value = c.pointer? key a := by
  unfold edgeOf pointer? target?
  cases a.nextAction with
  | none => rfl
  | some target =>
    by_cases empty : target = "" <;> by_cases known : c.actions.has target = true <;>
      simp [empty, known, Noted.quiet, Option.filter]

-- A node that was built for an action of the chain.
structure Stands (c : Chain) (kv : String × Action) (n : Node) : Prop where
  action : kv ∈ c.actions
  id : n.id = kv.1
  kind : n.kind = kv.2.kind
  position : n.position = kv.2.position
  label : n.displayId = none
  payload : ∃ u t, n.kind.form.decode .document (.obj kv.2.args) u = .ok (n.payload, t)

theorem stands_of_build {c : Chain} {kv : String × Action} (action : kv ∈ c.actions)
    (built : Node.build (.str kv.1) (.str kv.2.kind.tag) (.obj kv.2.args) kv.2.position.encode s = .ok (n, t)) :
    c.Stands kv n := by
  have made := Node.made_of_made? ((Node.build_made _ _ _ _ s).symm.trans (congrArg Except.toOption built))
  obtain ⟨u, placed, read⟩ := made.read
  have position : (kv.2.position, s) = (n.position, u) :=
    Except.ok.inj ((Position.decode_encode .document kv.2.position s).symm.trans placed)
  have kind := made.kind
  rw [Kind.currentTag_tag] at kind
  exact ⟨action, made.id, Kind.eq_of_tag kind, (congrArg Prod.fst position).symm, made.label, u, t, read⟩

-- The induction is on the actions that are still to be turned into nodes.
theorem parts_stand {c : Chain} {actions : Keyed Action} (inside : ∀ kv ∈ actions, kv ∈ c.actions)
    (built : (c.parts s actions).value = .ok ((ns, es), t)) :
    List.Forall₂ c.Stands actions ns ∧ es = actions.filterMap fun kv => c.pointer? kv.1 kv.2 := by
  induction actions generalizing s ns es with
  | nil =>
    cases built
    exact ⟨.nil, rfl⟩
  | cons kv rest ih =>
    obtain ⟨first, later⟩ := List.forall_mem_cons.mp inside
    unfold parts at built
    split at built
    · cases built
    · rename_i n u made
      simp only [Noted.bind, Noted.map] at built
      split at built
      · rename_i more
        cases built
        obtain ⟨stand, rfl⟩ := ih later more
        refine ⟨.cons (stands_of_build first made) stand, ?_⟩
        rw [edgeOf_value, List.filterMap_cons]
        cases c.pointer? kv.1 kv.2 <;> rfl
      · cases built

-- What is rebuilt from a chain.
structure Rebuilt (c : Chain) (g : Graph) : Prop where
  nodes : List.Forall₂ c.Stands c.actions g.nodes
  edges : g.edges = c.actions.filterMap fun kv => c.pointer? kv.1 kv.2

theorem rebuilt_of_toGraph {c : Chain} (built : (c.toGraph s).value = .ok (g, t)) : c.Rebuilt g := by
  simp only [toGraph, Noted.bind] at built
  split at built
  · cases built
  · rename_i made
    cases built
    obtain ⟨nodes, edges⟩ := parts_stand (fun _ mem => mem) made
    exact ⟨nodes, edges⟩

end Chain

theorem forall₂_filterMap {r : α → β → Prop} {f : α → Option γ} {g : β → Option γ} (related : List.Forall₂ r xs ys)
    (same : ∀ x y, r x y → f x = g y) : xs.filterMap f = ys.filterMap g := by
  induction related with
  | nil => rfl
  | cons first _ ih => rw [List.filterMap_cons, List.filterMap_cons, same _ _ first, ih]

theorem forall₂_map {r : α → β → Prop} {f : α → γ} {g : β → γ} (related : List.Forall₂ r xs ys)
    (same : ∀ x y, r x y → f x = g y) : xs.map f = ys.map g := by
  rw [← List.filterMap_eq_map, ← List.filterMap_eq_map]
  exact forall₂_filterMap related fun x y pair => congrArg some (same x y pair)

theorem find?_made {actions : Keyed α} {make : String → α → Option Edge}
    (sources : ∀ key a e, make key a = some e → e.source = key) (distinct : (actions.map (·.1)).Nodup)
    (mem : (key, a) ∈ actions) :
    (actions.filterMap fun kv => make kv.1 kv.2).find? (·.source == key) = make key a := by
  induction actions with
  | nil => cases mem
  | cons kv rest ih =>
    rw [List.map_cons, List.nodup_cons] at distinct
    rcases List.mem_cons.mp mem with rfl | later
    · have none : (rest.filterMap fun kv => make kv.1 kv.2).find? (·.source == key) = none := by
        rw [List.find?_eq_none]
        intro e made
        obtain ⟨other, among, same⟩ := List.mem_filterMap.mp made
        rw [beq_iff_eq, sources _ _ e same]
        rintro rfl
        exact distinct.1 (List.mem_map.mpr ⟨other, among, rfl⟩)
      rw [List.filterMap_cons]
      cases made : make key a with
      | none => exact none
      | some e => simp [sources key a e made]
    · have other : kv.1 ≠ key := by
        rintro rfl
        exact distinct.1 (List.mem_map.mpr ⟨_, later, rfl⟩)
      rw [List.filterMap_cons]
      cases made : make kv.1 kv.2 with
      | none => exact ih distinct.2 later
      | some e =>
        have away : (e.source == key) = false := by simpa [sources _ _ e made] using other
        simp only [List.find?_cons, away]
        exact ih distinct.2 later

theorem forall₂_right {r : α → β → Prop} (related : List.Forall₂ r xs ys) (mem : y ∈ ys) : ∃ x, r x y := by
  induction related with
  | nil => cases mem
  | cons first _ ih =>
    rcases List.mem_cons.mp mem with rfl | later
    · exact ⟨_, first⟩
    · exact ih later

namespace Chain.Rebuilt

variable {c : Chain} {g : Graph} (rebuilt : c.Rebuilt g)
include rebuilt

theorem ids : g.nodes.map Node.id = c.actions.map (·.1) :=
  (forall₂_map rebuilt.nodes fun _ _ stands => stands.id.symm).symm

theorem hasNode (key : String) : g.hasNode key = c.actions.has key := by
  have through : g.hasNode key = (g.nodes.map Node.id).any (· == key) := by
    rw [Graph.hasNode, List.any_map]
    rfl
  rw [through, rebuilt.ids, List.any_map]
  rfl

theorem entry : g.entry? = ((List.find? (fun kv => kv.2.kind.isStart) c.actions).or c.actions.head?).map (·.1) := by
  have outline : g.nodes.map (fun n => (n.id, n.kind)) = c.actions.map fun kv => (kv.1, kv.2.kind) :=
    (forall₂_map rebuilt.nodes fun _ _ stands => by rw [stands.id, stands.kind]).symm
  have start := congrArg (fun l => (l.find? (·.2.isStart)).map (·.1)) outline
  have first := congrArg (fun l => l.head?.map (·.1)) outline
  simp only [List.find?_map, List.head?_map, Option.map_map, Function.comp_def] at start first
  rw [Graph.entry?, Option.map_or, ← start, ← first]
  cases g.nodes.find? (·.kind.isStart) <;> rfl

variable (distinct : (c.actions.map (·.1)).Nodup)
include distinct

theorem chosen (stands : c.Stands kv n) : g.chosen? n.id = c.pointer? kv.1 kv.2 := by
  have sources : ∀ key a e, c.pointer? key a = some e → e.source = key := by
    intro key a e made
    obtain ⟨_, _, rfl⟩ := Option.map_eq_some_iff.mp made
    rfl
  rw [Graph.chosen?, rebuilt.edges, stands.id]
  exact find?_made sources distinct stands.action

theorem nextAction (stands : c.Stands kv n) : (g.action n).nextAction = c.target? kv.2 := by
  have next : (g.action n).nextAction = (g.chosen? n.id).map Edge.target := rfl
  rw [next, rebuilt.chosen distinct stands, Chain.pointer?, Option.map_map]
  exact Option.map_id'

theorem nextHandle (stands : c.Stands kv n) :
    (g.action n).nextHandle = (c.target? kv.2).bind fun _ => kv.2.nextHandle := by
  have next : (g.action n).nextHandle = (g.chosen? n.id).bind Edge.sourceHandle := rfl
  rw [next, rebuilt.chosen distinct stands, Chain.pointer?]
  cases c.target? kv.2 <;> rfl

-- What the chain of the graph says of each action: all but its arguments, without pointers that lead nowhere.
theorem compiled (name : String) :
    (g.compile name).actions.map (fun (key, a) => (key, a.kind, a.position, a.nextAction, a.nextHandle)) =
      c.actions.map fun (key, a) =>
        (key, a.kind, a.position, c.target? a, (c.target? a).bind fun _ => a.nextHandle) := by
  rw [Graph.actions_of_distinct (rebuilt.ids ▸ distinct), List.map_map]
  refine (forall₂_map rebuilt.nodes fun kv n stands => ?_).symm
  have shown : (n.id, (g.action n).kind, (g.action n).position, (g.action n).nextAction, (g.action n).nextHandle) =
      (kv.1, kv.2.kind, kv.2.position, c.target? kv.2, (c.target? kv.2).bind fun _ => kv.2.nextHandle) := by
    rw [rebuilt.nextAction distinct stands, rebuilt.nextHandle distinct stands, ← stands.id, ← stands.kind,
      ← stands.position]
    rfl
  exact shown.symm

end Chain.Rebuilt

-- Migration takes from the members of a payload and adds none but rules, which are no extras.
theorem Kind.extras_of_decode {k : Kind} {m : Members} (decoded : k.form.decode source (.obj m) s = .ok (p, t)) :
    ∀ kv ∈ p.extras, kv ∈ m := by
  intro kv extra
  have free := Form.free_of_decode decoded kv extra
  obtain ⟨_, n, _, _, same, migrated, -, -, extras⟩ := Payload.decode_parts decoded
  cases same
  rw [extras] at extra
  have left := (List.mem_filter.mp extra).1
  cases k with
  | conditional =>
    rcases migrate_parts migrated with rfl | ⟨rules, rfl⟩
    · exact left
    · rcases Keyed.mem_of_mem_insert left with old | rfl
      · exact (List.mem_filter.mp old).1
      · exact absurd rfl (free (.same "rules") (by decide))
  | trigger | startFlow | humanApproval | notification | tagMutation | delay | registerEmployee | systemUpdate
  | csvUpload | triggerWorkflow =>
    cases migrated
    exact left

-- What is read of members that can be handed out can be handed out, and nothing of it is changed then if no number is.
theorem Payload.handed_of_decode {k : Kind} {p : Payload Details} {m : Members} (fits : Json.looseFaults? m = none)
    (finite : Json.membersFinite m = true) (decoded : k.form.decode source (.obj m) s = .ok (p, t)) :
    Json.membersFinite p.extras = true ∧ p.dumpFault? = none := by
  have extras := Kind.extras_of_decode decoded
  constructor
  · exact Json.membersFinite_iff.mpr fun kv mem => Json.membersFinite_iff.mp finite kv (extras kv mem)
  · exact Json.membersFault_none.mpr fun kv mem => Json.membersFault_none.mp fits kv (extras kv mem)

namespace Graph

theorem handable_of_rebuilt {g h : Graph} (compiled : (g.toChain name).value = .ok c) (rebuilt : c.Rebuilt h) :
    h.Handable ∧ ∀ n ∈ h.nodes, Json.membersFinite n.payload.extras = true := by
  obtain ⟨written, rfl⟩ := written_of_toChain compiled
  have each : ∀ n ∈ h.nodes, Json.membersFinite n.payload.extras = true ∧ n.payload.dumpFault? = none := by
    intro n mem
    obtain ⟨kv, stands⟩ := forall₂_right rebuilt.nodes mem
    obtain ⟨u, t, decoded⟩ := stands.payload
    obtain ⟨m, present, action⟩ := g.action_of_compile name stands.action
    rw [action] at decoded
    have finite : Json.membersFinite (g.action m).args = true :=
      Json.finiteMembers_eq_self.mp (congrArg Action.args (g.action_kept m))
    have fits : Json.looseFaults? (g.action m).args = none := Payload.handed_loose.mpr (written m present)
    exact Payload.handed_of_decode fits finite decoded
  exact ⟨fun n mem => (each n mem).2, fun n mem => (each n mem).1⟩

-- A graph that was rebuilt of distinct keys is one of those that come back as they are, if nothing in them is lost.
theorem rebuilt_eq_self {c : Chain} {h : Graph} (rebuilt : c.Rebuilt h) (distinct : (c.actions.map (·.1)).Nodup)
    (finite : ∀ n ∈ h.nodes, Json.membersFinite n.payload.extras = true) : h.rebuilt = h := by
  have nodes : h.nodes.map (fun n => n.kept.unlabeled) = h.nodes := by
    refine (List.map_congr_left fun n mem => ?_).trans (List.map_id _)
    obtain ⟨_, stands⟩ := forall₂_right rebuilt.nodes mem
    rw [Node.kept, Payload.kept_eq_self.mpr (finite n mem), Node.unlabeled, ← stands.label]
    rfl
  have edges : h.nodes.filterMap (fun n => (h.pointed n).map (pointerEdge n)) = h.edges := by
    rw [rebuilt.edges]
    refine (forall₂_filterMap rebuilt.nodes fun kv n stands => ?_).symm
    rw [pointed, surviving, ← chosen?_eq, rebuilt.chosen distinct stands, Chain.pointer?]
    cases leads : c.target? kv.2 with
    | none => rfl
    | some target =>
      have known := (Option.filter_eq_some_iff.mp leads).2
      rw [Bool.and_eq_true, bne_iff_ne, ← rebuilt.hasNode] at known
      simp [Option.filter, known, pointerEdge, stands.id]
  rw [Graph.rebuilt, nodes, edges]

theorem rebuilt_becomes {g h : Graph} (compiled : (g.toChain name).value = .ok c)
    (built : (c.toGraph s).value = .ok (h, t)) : h.Becomes h := by
  have rebuilt := Chain.rebuilt_of_toGraph built
  have distinct : (c.actions.map (·.1)).Nodup := by
    obtain ⟨-, rfl⟩ := written_of_toChain compiled
    exact Keyed.ofList_nodup _
  obtain ⟨handable, finite⟩ := handable_of_rebuilt compiled rebuilt
  have ids : (h.nodes.map Node.id).Nodup := rebuilt.ids ▸ distinct
  exact (becomes_iff (Chain.toGraph_validated built) ids).mpr ⟨handable, (rebuilt_eq_self rebuilt distinct finite).symm⟩

-- A wait and a start behind it, which leads to no action.
def detour : Chain :=
  ⟨none, none, "Detour", some "a", [("a", ⟨.delay, [], some "b", some "success", .null, none, .origin⟩),
    ("b", ⟨.trigger, [("note", .int 1)], some "ghost", none, .null, none, .origin⟩)]⟩

end Graph

end Orchestration
