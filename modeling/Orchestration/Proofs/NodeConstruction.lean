import Orchestration.Chain.Rebuild
import Orchestration.Proofs.ReadBack

namespace Orchestration

namespace Kind

-- One case per kind: the details are read of the fields of the kind.
theorem read_congr (k : Kind) (source : Source) {m n : Members}
    (same : ∀ f ∈ k.form.fields, f.given? m = f.given? n) : k.form.read source m = k.form.read source n := by
  cases k with
  | delay => rfl
  | trigger | startFlow | conditional | humanApproval | notification | tagMutation | registerEmployee | systemUpdate
  | csvUpload | triggerWorkflow =>
    simp only [form, Form.lift, Trigger.form, StartFlow.form, Conditional.form, HumanApproval.form, Notification.form,
      TagMutation.form, RegisterEmployee.form, SystemUpdate.form, CsvUpload.form, TriggerWorkflow.form,
      List.forall_mem_cons] at same ⊢
    simp only [Decode.field, same]

theorem migrate_erase (k : Kind) (m : Members) :
    k.form.migrate (m.erase "displayId") = (k.form.migrate m).map fun n => n.erase "displayId" := by
  cases k with
  | conditional =>
    simp only [form, Form.lift, Conditional.form, Conditional.migrate]
    rw [Keyed.find?_erase_of_ne m (by decide : "cases" ≠ "displayId"),
      Keyed.find?_erase_of_ne m (by decide : "rules" ≠ "displayId"),
      Keyed.find?_erase_of_ne m (by decide : "switchField" ≠ "displayId"),
      Keyed.find?_erase_of_ne m (by decide : "switch_field" ≠ "displayId")]
    split
    · rfl
    · split
      · rw [Keyed.erase_comm, ← Keyed.erase_insert _ (by decide)]
        rfl
      · rfl
  | trigger | startFlow | humanApproval | notification | tagMutation | delay | registerEmployee | systemUpdate
  | csvUpload | triggerWorkflow => rfl

end Kind

namespace Payload

-- Without what it carries along under a key.
def without (p : Payload δ) (key : String) : Payload δ := { p with extras := p.extras.erase key }

-- Without a display id among what it carries along.
def unmarked (p : Payload δ) : Payload δ := { p with extras := p.extras.erase "displayId" }

end Payload

namespace Form

theorem extras_erase (m : Members) {fields : List FieldName} (wires : ∀ f ∈ fields, f.wire ≠ key) :
    Members.extras (m.erase key) fields = Keyed.erase (m.extras fields) key := by
  have takes : ∀ name, (fields.any fun f => f.takes (m.erase key) name) = fields.any fun f => f.takes m name := by
    intro name
    rw [Bool.eq_iff_iff]
    simp only [List.any_eq_true, FieldName.takes]
    refine exists_congr fun f => and_congr_right fun mem => ?_
    rw [Keyed.has_erase_of_ne m (wires f mem)]
  simp only [Members.extras, takes]
  simp only [Keyed.erase, List.filter_filter, Bool.and_comm]

end Form

namespace Kind

theorem find?_of_migrate {k : Kind} {m n : Members} (migrated : k.form.migrate m = .ok n) :
    n.find? "displayId" = m.find? "displayId" := by
  obtain rfl | ⟨rules, rfl⟩ := migrate_parts migrated
  · rfl
  · rw [Keyed.find?_insert_of_ne _ _ (by decide), Keyed.find?_erase_of_ne _ (by decide)]

-- Whatever stands there is carried along.
theorem marked_of_decode {k : Kind} {m : Members} {p : Payload Details}
    (decoded : k.form.decode source (.obj m) s = .ok (p, t)) :
    p.extras.find? "displayId" = m.find? "displayId" := by
  obtain ⟨_, n, _, _, same, migrated, _, _, extras⟩ := Payload.decode_parts decoded
  cases same
  rw [extras, ← find?_of_migrate migrated, n.find?_extras k.names_ne_displayId]

-- What stands under no name of a field is not read.
theorem readMembers_erase (k : Kind) (source : Source) (m : Members)
    (other : ∀ f ∈ k.form.allFields, f.wire ≠ key ∧ f.plain ≠ key) (s : Supply) :
    k.form.readMembers source (m.erase key) s =
      (k.form.readMembers source m s).map fun (p, t) => (p.without key, t) := by
  have given : ∀ f ∈ k.form.allFields, f.given? (m.erase key) = f.given? m := fun f mem =>
    FieldName.given?_congr (Keyed.find?_erase_of_ne m (other f mem).1) (Keyed.find?_erase_of_ne m (other f mem).2)
  have details := k.read_congr source fun f mem => given f (List.mem_append_right _ mem)
  have base := fun f mem => given f (List.mem_append_left _ mem)
  simp only [Payload.baseFields, List.forall_mem_cons] at base
  obtain ⟨label, delayValue, delayUnit, _⟩ := base
  have extras := Form.extras_erase m fun f mem => (other f mem).1
  unfold Form.readMembers
  rw [Decode.field_congr label, Decode.field_congr delayValue, Decode.field_congr delayUnit, details, extras]
  apply Decode.seq_pure_map (f := fun p : Payload Details => p.without key)
  intro make t read
  obtain ⟨_, _, _, three, _, rfl⟩ := Decode.seq_parts read
  obtain ⟨_, _, _, two, _, rfl⟩ := Decode.seq_parts three
  obtain ⟨_, _, _, one, _, rfl⟩ := Decode.seq_parts two
  obtain ⟨_, _, rfl⟩ := Decode.map_parts one
  rfl

-- A display id inside the data is read by no kind of step: without it, all else is read as it was.
theorem decode_erase (k : Kind) (source : Source) (m : Members) (s : Supply) :
    k.form.decode source (.obj (m.erase "displayId")) s =
      (k.form.decode source (.obj m) s).map fun (p, t) => (p.unmarked, t) := by
  have whole : Text.hasHalf "displayId" = false := by decide
  simp only [Form.decode, Decode.record, k.migrate_erase]
  cases k.form.migrate m with
  | error r => rfl
  | ok n =>
    simp only [Except.map]
    rw [Keyed.any_erase n fun _ => whole]
    split
    · rfl
    · exact k.readMembers_erase source n k.names_ne_displayId s

end Kind

namespace Node

variable {id tag : String} {data place : Members} {s : Supply}

-- The node of a tag, data and a place.
def made? (id tag : String) (data place : Members) (s : Supply) : Option (Node × Supply) := do
  let kind ← Kind.ofTag? (Kind.currentTag tag)
  let (position, s) ← (Position.decode .document (.obj place) s).toOption
  let (payload, s) ← (kind.form.decode .document (.obj data) s).toOption
  return (⟨id, position, none, payload⟩, s)

-- Without a display id inside the data.
def unmarked (n : Node) : Node := { n with payload := n.payload.unmarked }

theorem made?_erase : made? id tag (data.erase "displayId") place s =
    (made? id tag data place s).map fun (n, t) => (n.unmarked, t) := by
  simp only [made?]
  cases Kind.ofTag? (Kind.currentTag tag) with
  | none => rfl
  | some kind =>
    cases Position.decode .document (.obj place) s with
    | error r => rfl
    | ok found =>
      obtain ⟨position, u⟩ := found
      simp only [Option.bind_eq_bind, Option.bind_some, Except.toOption, kind.decode_erase]
      cases kind.form.decode .document (.obj data) u with
      | error r => rfl
      | ok read => rfl

theorem unmarked_eq_self {n : Node} : n.unmarked = n ↔ n.payload.extras.find? "displayId" = none := by
  constructor
  · intro same
    have extras : Keyed.erase n.payload.extras "displayId" = n.payload.extras := congrArg (·.payload.extras) same
    rw [← extras]
    exact Keyed.find?_erase_self _ _
  · intro none
    have lacks : ¬ Keyed.has n.payload.extras "displayId" = true := by
      rw [Keyed.has, List.any_eq_true]
      rintro ⟨kv, mem, same⟩
      have unequal := List.lookup_eq_none_iff.mp none kv mem
      simp [eq_of_beq same] at unequal
    rw [unmarked, Payload.unmarked, Keyed.erase_of_not_has lacks]

-- What a node has of a tag, data and a place.
structure Made (id tag : String) (data place : Members) (s : Supply) (n : Node) (t : Supply) : Prop where
  id : n.id = id
  kind : n.kind.tag = Kind.currentTag tag
  label : n.displayId = none
  read : ∃ u, Position.decode .document (.obj place) s = .ok (n.position, u) ∧
    n.kind.form.decode .document (.obj data) u = .ok (n.payload, t)
  marked : n.payload.extras.find? "displayId" = data.find? "displayId"

theorem made_of_made? (made : made? id tag data place s = some (n, t)) : Made id tag data place s n t := by
  obtain ⟨kind, known, rest⟩ := Option.bind_eq_some_iff.mp made
  obtain ⟨⟨position, u⟩, placed, rest⟩ := Option.bind_eq_some_iff.mp rest
  obtain ⟨⟨payload, w⟩, read, rest⟩ := Option.bind_eq_some_iff.mp rest
  cases rest
  have read := toOption_parts read
  obtain ⟨_, _, _, _, _, _, _, details, _⟩ := Payload.decode_parts read
  have same : payload.details.kind = kind := Payload.read_kind details
  subst same
  exact ⟨rfl, Kind.tag_of_ofTag? known, rfl, ⟨u, toOption_parts placed, read⟩,
    Kind.marked_of_decode read⟩

-- What is read of the members that make up a node.
theorem readMembers_made {kind : Kind} {m : Members} (name : m.find? "id" = some (.str id))
    (position : m.find? "position" = some (.obj place)) (label : m.find? "displayId" = none)
    (plain : m.find? "display_id" = none) (payload : m.find? "data" = some (.obj data)) :
    (readMembers kind .document m s).toOption = do
      let (position, s) ← (Position.decode .document (.obj place) s).toOption
      let (payload, s) ← (kind.form.decode .document (.obj data) s).toOption
      return (⟨id, position, none, payload⟩, s) := by
  simp only [readMembers, Decode.required, Decode.field, FieldName.given?, FieldName.same, name, position, label, plain,
    payload, Option.map_none, Decode.text, Decode.toOption_seq, Decode.toOption_map, Decode.toOption_under,
    Decode.toOption_pure, Option.bind_eq_bind, Option.bind_some, Option.bind_assoc]
  rfl

-- What is read of a node document: its tag is looked at first.
theorem decode_made {m : Members} (tagged : m.find? "kind" = some (.str (Kind.currentTag tag)))
    (name : m.find? "id" = some (.str id)) (position : m.find? "position" = some (.obj place))
    (label : m.find? "displayId" = none) (plain : m.find? "display_id" = none)
    (payload : m.find? "data" = some (.obj data)) (s : Supply) :
    (decode .document (.obj m) s).toOption = made? id tag data place s := by
  simp only [decode, Json.members?, tagged, made?]
  cases Kind.ofTag? (Kind.currentTag tag) with
  | none => rfl
  | some kind => exact (Decode.toOption_under _ _ s).trans (readMembers_made name position label plain payload)

theorem build_made (id tag : String) (data place : Members) (s : Supply) :
    (build (.str id) (.str tag) (.obj data) (.obj place) s).toOption = made? id tag data place s := by
  have filled : ∀ m : Members, orEmpty (.obj m) = .obj m := by
    intro m
    cases m <;> rfl
  simp only [build, Kind.parse, filled]
  cases known : Kind.ofTag? (Kind.currentTag tag) with
  | none =>
    simp only [made?, known]
    rfl
  | some kind =>
    rw [← decode_made (m := [("id", .str id), ("kind", .str kind.tag), ("data", .obj data), ("position", .obj place)])
      (congrArg (fun tag => some (Json.str tag)) (Kind.tag_of_ofTag? known)) rfl rfl rfl rfl rfl s, ← Decode.toOption_load title]
    dsimp only
    cases Decode.load title _ s <;> rfl

-- A node document in which the kind stands under `type`.
def document (id tag : String) (data place : Members) : Json :=
  .obj [("id", .str id), ("type", .str tag), ("data", .obj data), ("position", .obj place)]

-- It is brought into today's shape first.
theorem normalize_made (id tag : String) (data place : Members) (s : Supply) :
    (decode .document (normalize (document id tag data place)) s).toOption =
      made? id tag (data.erase "displayId") place s := by
  have shape : normalize (document id tag data place) =
      .obj [("id", .str id), ("data", .obj (data.erase "displayId")), ("position", .obj place),
        ("kind", .str (Kind.currentTag tag))] := by
    by_cases marked : data.has "displayId" = true
    · exact congrArg Json.obj (if_pos marked)
    · rw [Keyed.erase_of_not_has marked]
      exact congrArg Json.obj (if_neg marked)
  rw [shape]
  exact decode_made rfl rfl rfl rfl rfl rfl s

end Node

namespace Graph

-- The three ways, each of which gives a graph or nothing.
def loadedNode (id tag : String) (data place : Members) (s : Supply) : Option (Graph × Supply) :=
  (decode .document (.obj [("nodes", .arr [Node.document id tag data place])]) s).toOption

def addedNode (id tag : String) (data place : Members) (s : Supply) : Option (Graph × Supply) :=
  (empty.addNode (.str tag) (.str id) (.obj data) (.obj place) s).toOption.map fun ((_, g), t) => (g, t)

def rebuiltNode (id tag : String) (data place : Members) (s : Supply) : Option (Graph × Supply) := do
  let action : Json := .obj [("type", .str tag), ("args", .obj data), ("ui", .obj [("position", .obj place)])]
  let (chain, s) ← (Chain.decode .document (.obj [("actions", .obj [(id, action)])]) s).toOption
  (chain.toGraph s).value.toOption

-- A graph of one node.
def single (made : Node × Supply) : Graph × Supply := (⟨[made.1], []⟩, made.2)

variable {id tag : String} {data place : Members} {s : Supply}

theorem loadedNode_eq : loadedNode id tag data place s = (Node.made? id tag (data.erase "displayId") place s).map single := by
  have read : loadedNode id tag data place s =
      ((mk <$> Decode.under (.key "nodes") (Decode.items (Node.decode .document) 0
        [Node.normalize (Node.document id tag data place)]) <*> pure []) s).toOption := rfl
  rw [read, Decode.toOption_seq, Decode.toOption_map, Decode.toOption_under, Decode.toOption_items_one,
    Node.normalize_made]
  cases Node.made? id tag (data.erase "displayId") place s <;> rfl

theorem addedNode_eq (named : id ≠ "") :
    addedNode id tag data place s = (Node.made? id tag data place s).map single := by
  rw [← Node.build_made]
  have given : askedOrFresh (.str id) s = (.str id, s) := by simp [askedOrFresh, Json.isGiven, named]
  have unused : empty.unusedNodeId (.str id) = .ok () := rfl
  simp only [addedNode, addNode, Call.addNode, InPlace.outcome, given, InPlace.read_bind, unused]
  cases Node.build (.str id) (.str tag) (.obj data) (.obj place) s <;> rfl

-- A chain with one action that leads nowhere.
def lone (id : String) (a : Action) : Chain := ⟨none, none, "", none, [(id, a)]⟩

theorem toGraph_lone {a : Action} (last : a.nextAction = none) (s : Supply) :
    ((lone id a).toGraph s).value.toOption =
      (Node.build (.str id) (.str a.kind.tag) (.obj a.args) a.position.encode s).toOption.map single := by
  simp only [Chain.toGraph, lone, Chain.parts, Chain.edgeOf, last]
  cases Node.build (.str id) (.str a.kind.tag) (.obj a.args) a.position.encode s <;> rfl

theorem decode_action (tag : String) (data place : Members) (s : Supply) :
    (Action.decode .document (.obj [("type", .str tag), ("args", .obj data), ("ui", .obj [("position", .obj place)])])
      s).toOption = do
        let kind ← Kind.ofTag? (Kind.currentTag tag)
        let (position, s) ← (Position.decode .document (.obj place) s).toOption
        return (⟨kind, data, none, none, .null, none, position⟩, s) := by
  have read : Action.decode .document (.obj [("type", .str tag), ("args", .obj data),
      ("ui", .obj [("position", .obj place)])]) =
    Action.mk <$> Decode.under (.key "type") (Decode.choice (fun tag => Kind.ofTag? (Kind.currentTag tag)) (.str tag))
      <*> Decode.under (.key "args") (pure data) <*> pure none <*> pure none <*> pure .null <*> pure none
      <*> Decode.under (.key "ui") (Decode.under (.key "position") (Position.decode .document (.obj place))) := rfl
  rw [read]
  simp only [Decode.toOption_seq, Decode.toOption_map, Decode.toOption_under, Decode.toOption_choice,
    Decode.toOption_pure, Option.bind_eq_bind, Option.bind_some, Option.bind_assoc]
  cases Kind.ofTag? (Kind.currentTag tag) <;> rfl

theorem decode_lone (id : String) (v : Json) (s : Supply) :
    (Chain.decode .document (.obj [("actions", .obj [(id, v)])]) s).toOption =
      (Action.decode .document v s).toOption.map fun (a, t) => (lone id a, t) := by
  have read : Chain.decode .document (.obj [("actions", .obj [(id, v)])]) =
    Chain.mk <$> pure none <*> pure none <*> pure "" <*> pure none
      <*> Decode.under (.key "actions") (Decode.members (Action.decode .document) [(id, v)]) := rfl
  rw [read]
  simp only [Decode.toOption_seq, Decode.toOption_map, Decode.toOption_under, Decode.toOption_members_one,
    Decode.toOption_pure, Option.bind_some]
  cases Action.decode .document v s <;> rfl

theorem rebuiltNode_eq : rebuiltNode id tag data place s = (Node.made? id tag data place s).map single := by
  simp only [rebuiltNode, decode_lone, decode_action, Node.made?]
  cases known : Kind.ofTag? (Kind.currentTag tag) with
  | none => rfl
  | some kind =>
    cases placed : Position.decode .document (.obj place) s with
    | error r => rfl
    | ok found =>
      obtain ⟨p, u⟩ := found
      have again : Position.decode .document (.obj [("x", .float p.x), ("y", .float p.y)]) u = .ok (p, u) :=
        Position.decode_encode .document p u
      have built := Node.build_made id kind.tag data [("x", .float p.x), ("y", .float p.y)] u
      simp only [Node.made?, Kind.currentTag_tag, Kind.ofTag?_tag, again] at built
      exact (toGraph_lone rfl u).trans (congrArg (Option.map single) built)

-- However a node with a name of its own comes about: the three ways fail together, or they give one node, but for a
-- display id inside its data. Loading drops that, and the other two ways carry it along.
theorem node_constructions (named : id ≠ "") (tag : String) (data place : Members) (s : Supply) :
    (loadedNode id tag data place s = none ∧ addedNode id tag data place s = none ∧
      rebuiltNode id tag data place s = none) ∨
    ∃ n t, Node.Made id tag data place s n t ∧ addedNode id tag data place s = some (⟨[n], []⟩, t) ∧
      rebuiltNode id tag data place s = some (⟨[n], []⟩, t) ∧
      loadedNode id tag data place s = some (⟨[n.unmarked], []⟩, t) ∧
      (n.unmarked = n ↔ data.find? "displayId" = none) := by
  rw [loadedNode_eq, addedNode_eq named, rebuiltNode_eq, Node.made?_erase]
  cases made : Node.made? id tag data place s with
  | none => exact .inl ⟨rfl, rfl, rfl⟩
  | some result =>
    obtain ⟨n, t⟩ := result
    have parts := Node.made_of_made? made
    exact .inr ⟨n, t, parts, rfl, rfl, rfl, parts.marked ▸ Node.unmarked_eq_self⟩

-- A step that is known by an older tag, with what its data carries along.
theorem journey_constructed : ∃ n t,
    addedNode "a" "journey" [("journeyId", .str "j"), ("displayId", .str "Z9")] [] (⟨fun _ => "", 0⟩) =
      some (⟨[n], []⟩, t) ∧
    rebuiltNode "a" "journey" [("journeyId", .str "j"), ("displayId", .str "Z9")] [] (⟨fun _ => "", 0⟩) =
      some (⟨[n], []⟩, t) ∧
    loadedNode "a" "journey" [("journeyId", .str "j"), ("displayId", .str "Z9")] [] (⟨fun _ => "", 0⟩) =
      some (⟨[n.unmarked], []⟩, t) ∧ n.unmarked ≠ n := by
  rcases node_constructions (by decide : "a" ≠ "") "journey" [("journeyId", .str "j"), ("displayId", .str "Z9")] []
    ⟨fun _ => "", 0⟩ with ⟨_, none, _⟩ | ⟨n, t, _, added, rebuilt, loaded, same⟩
  · have some : (addedNode "a" "journey" [("journeyId", .str "j"), ("displayId", .str "Z9")] []
        ⟨fun _ => "", 0⟩).isSome = true := by decide +kernel
    rw [none] at some
    cases some
  · exact ⟨n, t, added, rebuilt, loaded, fun kept => nomatch same.mp kept⟩

theorem marked_not_agreed : ¬ ∀ (id tag : String) (data place : Members) (s : Supply), id ≠ "" →
    loadedNode id tag data place s = addedNode id tag data place s ∧
      addedNode id tag data place s = rebuiltNode id tag data place s := by
  intro always
  have agree := (always "a" "delay" [("displayId", .str "Z9")] [] ⟨fun _ => "", 0⟩ (by decide)).1
  have loaded : (loadedNode "a" "delay" [("displayId", .str "Z9")] [] ⟨fun _ => "", 0⟩).map
      (fun made => made.1.nodes.map fun n => n.payload.extras.has "displayId") = some [false] := by decide +kernel
  have added : (addedNode "a" "delay" [("displayId", .str "Z9")] [] ⟨fun _ => "", 0⟩).map
      (fun made => made.1.nodes.map fun n => n.payload.extras.has "displayId") = some [true] := by decide +kernel
  rw [agree, added] at loaded
  cases loaded

end Graph

end Orchestration
