import Orchestration.Graph.Edit
import Orchestration.Proofs.DecoderParts
import Orchestration.Proofs.Finite

namespace Orchestration

-- The wire names of the fields of a kind are distinct and whole, and none of them is a name that
-- is looked for beside the fields.
theorem Kind.wires_nodup (k : Kind) : (k.form.allFields.map FieldName.wire).Nodup := by
  cases k <;> decide

theorem Kind.wires_whole (k : Kind) : ∀ f ∈ k.form.allFields, Text.hasHalf f.wire = false := by
  cases k <;> decide +kernel

theorem Kind.wires_ne_cases (k : Kind) : ∀ f ∈ k.form.allFields, f.wire ≠ "cases" := by
  cases k <;> decide

theorem Kind.names_ne_displayId (k : Kind) :
    ∀ f ∈ k.form.allFields, f.wire ≠ "displayId" ∧ f.plain ≠ "displayId" := by
  cases k <;> decide

theorem Kind.names_ne_cases (k : Kind) : ∀ f ∈ k.form.allFields, f.wire ≠ "cases" ∧ f.plain ≠ "cases" := by
  cases k <;> decide

theorem Members.find?_extras (m : Members) {fields : List FieldName}
    (other : ∀ f ∈ fields, f.wire ≠ key ∧ f.plain ≠ key) : Keyed.find? (m.extras fields) key = m.find? key := by
  refine Keyed.find?_filter (p := fun name => !fields.any (·.takes m name)) ?_
  simp only [Bool.not_eq_true', List.any_eq_false, FieldName.takes]
  intro f mem
  obtain ⟨wire, plain⟩ := other f mem
  simp [wire.symm, plain.symm]

-- Only older cases change the members of a payload: they are taken away, and rules are put in their place.
theorem Kind.migrate_parts {k : Kind} {m n : Members} (migrated : k.form.migrate m = .ok n) :
    n = m ∨ ∃ rules, n = (m.erase "cases").insert "rules" rules := by
  cases k with
  | conditional =>
    simp only [form, Form.lift, Conditional.form, Conditional.migrate] at migrated
    split at migrated
    · cases migrated
      exact .inl rfl
    · split at migrated
      · cases migrated
        exact .inr ⟨_, rfl⟩
      · cases migrated
  | trigger | startFlow | humanApproval | notification | tagMutation | delay | registerEmployee | systemUpdate
  | csvUpload | triggerWorkflow =>
    cases migrated
    exact .inl rfl

theorem Details.write_keys (d : Details) : d.write.map (·.1) = d.kind.form.fields.map FieldName.wire := by
  cases d <;> rfl

theorem Kind.form_write (k : Kind) : k.form.write = Details.write := by
  cases k <;> rfl

theorem Notification.decodeAudience_ok (audience : List String) (s : Supply) :
    decodeAudience (.arr (audience.map .str)) s = .ok (audience, s) :=
  Decode.items_map audience 0 s fun _ _ => rfl

theorem Rule.decode_list (source : Source) (rules : List Rule) (s : Supply) :
    Decode.list (Rule.decode source) (.arr (rules.map Rule.encode)) s = .ok (rules, s) :=
  Decode.items_map rules 0 s fun r _ => Rule.decode_encode source r s

-- One case per kind: where every written member is found, the details are read as they were.
theorem Details.read_write (d : Details) (source : Source) {m : Members}
    (found : ∀ kv ∈ d.write, m.find? kv.1 = some kv.2) (s : Supply) :
    d.kind.form.read source m s = .ok (d, s) := by
  cases d with
  | trigger d =>
    simp only [write, Trigger.write, List.forall_mem_cons] at found
    obtain ⟨method, endpoint, authType, integrationId, active, -⟩ := found
    exact Decode.map_ok (Decode.seq_ok (Decode.seq_ok (Decode.seq_ok (Decode.seq_ok (Decode.map_ok
      (Decode.field_ok method rfl)) (Decode.field_ok endpoint rfl))
      (Decode.field_ok authType (Decode.optional_text _ _)))
      (Decode.field_ok integrationId (Decode.optional_text _ _))) (Decode.field_ok active rfl))
  | startFlow d =>
    simp only [write, StartFlow.write, List.forall_mem_cons] at found
    exact Decode.map_ok (Decode.map_ok (Decode.field_ok found.1 rfl))
  | conditional d =>
    simp only [write, Conditional.write, List.forall_mem_cons] at found
    obtain ⟨switchField, rules, -⟩ := found
    exact Decode.map_ok (Decode.seq_ok (Decode.map_ok (Decode.field_ok switchField rfl))
      (Decode.field_ok rules (Rule.decode_list source _ _)))
  | humanApproval d =>
    simp only [write, HumanApproval.write, List.forall_mem_cons] at found
    obtain ⟨assignee, description, timeout, -⟩ := found
    exact Decode.map_ok (Decode.seq_ok (Decode.seq_ok (Decode.map_ok (Decode.field_ok assignee rfl))
      (Decode.field_ok description rfl)) (Decode.field_ok timeout rfl))
  | notification d =>
    simp only [write, Notification.write, List.forall_mem_cons] at found
    obtain ⟨channel, audience, recipients, message, templateId, -⟩ := found
    exact Decode.map_ok (Decode.seq_ok (Decode.seq_ok (Decode.seq_ok (Decode.seq_ok (Decode.map_ok
      (Decode.field_ok channel (Decode.choice_ok (Channel.ofTag?_tag _))))
      (Decode.field_ok audience (Notification.decodeAudience_ok _ _)))
      (Decode.field_ok recipients rfl)) (Decode.field_ok message rfl))
      (Decode.field_ok templateId (Decode.optional_text _ _)))
  | tagMutation d =>
    simp only [write, TagMutation.write, List.forall_mem_cons] at found
    obtain ⟨addTag, removeTag, -⟩ := found
    exact Decode.map_ok (Decode.seq_ok (Decode.map_ok (Decode.field_ok addTag rfl))
      (Decode.field_ok removeTag rfl))
  | delay => rfl
  | registerEmployee d =>
    simp only [write, RegisterEmployee.write, List.forall_mem_cons] at found
    exact Decode.map_ok (Decode.map_ok (Decode.field_ok found.1 rfl))
  | systemUpdate d =>
    simp only [write, SystemUpdate.write, List.forall_mem_cons] at found
    obtain ⟨system, action, payload, -⟩ := found
    exact Decode.map_ok (Decode.seq_ok (Decode.seq_ok (Decode.map_ok (Decode.field_ok system rfl))
      (Decode.field_ok action rfl)) (Decode.field_ok payload rfl))
  | csvUpload d =>
    simp only [write, CsvUpload.write, List.forall_mem_cons] at found
    obtain ⟨templateId, fileName, -⟩ := found
    exact Decode.map_ok (Decode.seq_ok (Decode.map_ok
      (Decode.field_ok templateId (Decode.optional_text _ _)))
      (Decode.field_ok fileName (Decode.optional_text _ _)))
  | triggerWorkflow d =>
    simp only [write, TriggerWorkflow.write, List.forall_mem_cons] at found
    exact Decode.map_ok (Decode.map_ok (Decode.field_ok found.1 rfl))

theorem Rule.finite_list (rules : List Rule) : Json.itemsFinite (rules.map Rule.encode) = true := by
  rw [Json.itemsFinite_iff]
  intro v mem
  obtain ⟨_, _, rfl⟩ := List.mem_map.mp mem
  rfl

-- Where every field is given under its written name, the plain names are free for extras.
theorem Members.extras_of_present {m : Members} {fields : List FieldName}
    (present : ∀ f ∈ fields, Keyed.has m f.wire = true) :
    m.extras fields = m.filter fun kv => !(fields.any fun f => kv.1 == f.wire) := by
  refine List.filter_congr fun kv _ => congrArg not ?_
  rw [Bool.eq_iff_iff, List.any_eq_true, List.any_eq_true]
  refine exists_congr fun f => and_congr_right fun mem => ?_
  rw [FieldName.takes, present f mem, Bool.not_true, Bool.and_false, Bool.or_false]

namespace Form

theorem decode_obj {form : Form δ} {m : Members} : form.decode source (.obj m) s = .ok r ↔
    ∃ n, form.migrate m = .ok n ∧ (n.any fun (key, _) => Text.hasHalf key) = false ∧
      form.readMembers source n s = .ok r := by
  simp only [decode, Decode.record]
  cases form.migrate m with
  | error refusal => simp [Decode.refuse]
  | ok n =>
    simp only [Except.ok.injEq, exists_eq_left']
    split
    · rename_i half
      simp [half, Decode.complain_fails]
    · rename_i whole
      simp [whole]

-- Reading draws nothing before it comes to the details.
theorem readMembers_parts {form : Form δ} {m : Members} {p : Payload δ}
    (decoded : form.readMembers source m s = .ok (p, t)) :
    Decode.field m (.same "label") (pure "") Decode.text s = .ok (p.label, s) ∧
    Decode.field m ⟨"delayValue", "delay_value"⟩ (pure form.delayValue) Decode.integer s = .ok (p.delayValue, s) ∧
    Decode.field m ⟨"delayUnit", "delay_unit"⟩ (pure form.delayUnit) (Decode.choice DelayUnit.ofTag?) s =
      .ok (p.delayUnit, s) ∧
    form.read source m s = .ok (p.details, t) ∧ p.extras = m.extras form.allFields := by
  obtain ⟨_, _, _, four, last, rfl⟩ := Decode.seq_parts decoded
  obtain ⟨_, _, _, three, details, rfl⟩ := Decode.seq_parts four
  obtain ⟨_, _, _, two, unit, rfl⟩ := Decode.seq_parts three
  obtain ⟨_, _, _, one, value, rfl⟩ := Decode.seq_parts two
  obtain ⟨_, label, rfl⟩ := Decode.map_parts one
  obtain ⟨rfl, rfl⟩ := Decode.pure_parts last
  obtain rfl := (Decode.still.defaulted Decode.still.text).same label
  obtain rfl := (Decode.still.defaulted Decode.still.integer).same value
  obtain rfl := (Decode.still.defaulted (Decode.still.choice _)).same unit
  exact ⟨label, value, unit, details, rfl⟩

theorem readMembers_ok {form : Form δ} {m : Members}
    (label : Decode.field m (.same "label") (pure "") Decode.text s = .ok (a, s))
    (value : Decode.field m ⟨"delayValue", "delay_value"⟩ (pure form.delayValue) Decode.integer s = .ok (b, s))
    (unit : Decode.field m ⟨"delayUnit", "delay_unit"⟩ (pure form.delayUnit) (Decode.choice DelayUnit.ofTag?) s =
      .ok (c, s))
    (details : form.read source m s = .ok (d, t)) :
    form.readMembers source m s = .ok (⟨a, b, c, d, m.extras form.allFields⟩, t) :=
  Decode.seq_ok (Decode.seq_ok (Decode.seq_ok (Decode.seq_ok (Decode.map_ok label) value) unit) details) rfl

theorem members_eq (form : Form δ) (p : Payload δ) :
    form.members p = form.members { p with extras := [] } ++ p.extras := by
  simp [members]

section Written

-- What is written for the fields stands in front of the extras.

variable {form : Form δ} {p : Payload δ} (keys : (form.write p.details).map (·.1) = form.fields.map FieldName.wire)
include keys

theorem own_keys : (form.members { p with extras := [] }).map (·.1) = form.allFields.map FieldName.wire := by
  simp [members, keys, allFields, Payload.baseFields, FieldName.same]

theorem has_members {f : FieldName} (mem : f ∈ form.allFields) : Keyed.has (form.members p) f.wire = true := by
  have key : f.wire ∈ (form.members { p with extras := [] }).map (·.1) := by
    rw [own_keys keys]
    exact List.mem_map_of_mem mem
  obtain ⟨kv, present, same⟩ := List.mem_map.mp key
  rw [members_eq form p, Keyed.has, List.any_eq_true]
  exact ⟨kv, List.mem_append_left _ present, by simpa using same⟩

variable (free : ∀ kv ∈ p.extras, ∀ f ∈ form.allFields, kv.1 ≠ f.wire)
include free

theorem extras_members : Members.extras (form.members p) form.allFields = p.extras := by
  rw [Members.extras_of_present fun _ mem => has_members keys mem, members_eq, List.filter_append,
    List.filter_eq_nil_iff.mpr, List.filter_eq_self.mpr, List.nil_append]
  · intro kv mem
    rw [Bool.not_eq_true', List.any_eq_false]
    intro f field
    simpa using free kv mem f field
  · intro kv mem
    have key : kv.1 ∈ (form.members { p with extras := [] }).map (·.1) := List.mem_map_of_mem mem
    rw [own_keys keys] at key
    obtain ⟨f, field, same⟩ := List.mem_map.mp key
    simp only [Bool.not_eq_true', Bool.not_eq_false, List.any_eq_true]
    exact ⟨f, field, by simp [same]⟩

theorem readMembers_members (details : form.read source (form.members p) s = .ok (p.details, s)) :
    form.readMembers source (form.members p) s = .ok (p, s) := by
  have read : form.readMembers source (form.members p) s =
      .ok (⟨p.label, p.delayValue, p.delayUnit, p.details, (form.members p).extras form.allFields⟩, s) :=
    readMembers_ok (Decode.field_ok rfl rfl) (Decode.field_ok rfl rfl)
      (Decode.field_ok rfl (Decode.choice_ok (DelayUnit.ofTag?_tag p.delayUnit))) details
  rwa [extras_members keys free] at read

end Written

end Form

namespace Payload

-- What reading leaves behind. Extras are kept under keys that no field is written with, and cases
-- that are left beside the fields of a conditional never bring forth rules again.
structure Settled (p : Payload Details) : Prop where
  free : ∀ kv ∈ p.extras, ∀ f ∈ p.kind.form.allFields, kv.1 ≠ f.wire
  whole : ∀ kv ∈ p.extras, Text.hasHalf kv.1 = false
  cases : ∀ c, p.details = .conditional c →
    ((p.extras.find? "cases").getD .null).isGiven = true → c.rules ≠ []

def own (p : Payload Details) : Members :=
  [("label", .str p.label), ("delayValue", .int p.delayValue), ("delayUnit", .str p.delayUnit.tag)] ++
    p.details.write

theorem write_keys (p : Payload Details) :
    (p.kind.form.write p.details).map (·.1) = p.kind.form.fields.map FieldName.wire := by
  rw [p.kind.form_write, p.details.write_keys, kind]

theorem members_eq (p : Payload Details) : p.kind.form.members p = p.own ++ p.extras := by
  simp [Form.members, own, Kind.form_write]

theorem own_keys (p : Payload Details) : p.own.map (·.1) = p.kind.form.allFields.map FieldName.wire := by
  simp [own, Details.write_keys, Form.allFields, baseFields, FieldName.same, kind]

theorem own_nodup (p : Payload Details) : (p.own.map (·.1)).Nodup := by
  rw [own_keys]
  exact p.kind.wires_nodup

theorem own_wire {p : Payload Details} (mem : kv ∈ p.own) : ∃ f ∈ p.kind.form.allFields, f.wire = kv.1 := by
  have key : kv.1 ∈ p.own.map (·.1) := List.mem_map_of_mem mem
  rw [own_keys] at key
  exact List.mem_map.mp key

theorem whole_members {p : Payload Details} (settled : p.Settled) :
    ((p.own ++ p.extras).any fun (key, _) => Text.hasHalf key) = false := by
  rw [List.any_eq_false]
  rintro ⟨key, value⟩ mem
  rcases List.mem_append.mp mem with mine | extra
  · obtain ⟨f, field, same⟩ := own_wire mine
    have whole := p.kind.wires_whole f field
    rw [same] at whole
    simpa using whole
  · simpa using settled.whole _ extra

-- Only a conditional is of an older shape when it has cases, and rules that are there win over them.
theorem migrate_members {p : Payload Details} (settled : p.Settled) :
    p.kind.form.migrate (p.own ++ p.extras) = .ok (p.own ++ p.extras) := by
  have lacks : ∀ kv ∈ p.own, kv.1 ≠ "cases" := by
    intro kv mem
    obtain ⟨f, field, same⟩ := own_wire mem
    exact same ▸ p.kind.wires_ne_cases f field
  have cases : Keyed.find? (p.own ++ p.extras) "cases" = p.extras.find? "cases" :=
    Keyed.find?_append_of_not_mem lacks _
  obtain ⟨label, delayValue, delayUnit, details, extras⟩ := p
  cases details with
  | conditional c =>
    have rules : Keyed.find? (own ⟨label, delayValue, delayUnit, .conditional c, extras⟩ ++ extras) "rules" =
        some (.arr (c.rules.map Rule.encode)) :=
      Keyed.find?_append_of_mem (own_nodup _) (by simp [own, Details.write, Conditional.write]) _
    have legacy := settled.cases c rfl
    have stays : (!((extras.find? "cases").getD .null).isGiven ||
        (Json.arr (c.rules.map Rule.encode)).isGiven) = true := by
      cases given : ((extras.find? "cases").getD .null).isGiven with
      | false => rfl
      | true => simpa [Json.isGiven] using legacy given
    simp only [kind, Details.kind, Kind.form, Form.lift, Conditional.form, Conditional.migrate, cases, rules,
      Option.getD_some, stays, if_true]
  | trigger _ | startFlow _ | humanApproval _ | notification _ | tagMutation _ | delay
  | registerEmployee _ | systemUpdate _ | csvUpload _ | triggerWorkflow _ => rfl

theorem readMembers_own {p : Payload Details} (settled : p.Settled) (source : Source) (s : Supply) :
    p.kind.form.readMembers source (p.own ++ p.extras) s = .ok (p, s) := by
  have details := p.details.read_write source (m := p.own ++ p.extras)
    (fun kv mem => Keyed.find?_append_of_mem p.own_nodup (List.mem_append_right _ mem) _) s
  rw [← members_eq] at details ⊢
  exact Form.readMembers_members p.write_keys settled.free details

theorem decode_members {p : Payload Details} (settled : p.Settled) (source : Source) (s : Supply) :
    p.kind.form.decode source (.obj (p.kind.form.members p)) s = .ok (p, s) := by
  simp only [Form.decode, Decode.record, members_eq, migrate_members settled, whole_members settled,
    Bool.false_eq_true, if_false]
  exact readMembers_own settled source s

-- What is handed out of a payload.
def kept (p : Payload Details) : Payload Details := { p with extras := Json.finiteMembers p.extras }

theorem encode_eq (p : Payload Details) : p.encode = .obj (p.kept.kind.form.members p.kept) := rfl

theorem kept_settled {p : Payload Details} (settled : p.Settled) : p.kept.Settled where
  free := by
    intro kv mem
    have key := List.mem_map_of_mem (f := Prod.fst) mem
    rw [kept, Json.finiteMembers_keys] at key
    obtain ⟨old, present, same⟩ := List.mem_map.mp key
    exact same ▸ settled.free old present
  whole := by
    intro kv mem
    have key := List.mem_map_of_mem (f := Prod.fst) mem
    rw [kept, Json.finiteMembers_keys] at key
    obtain ⟨old, present, same⟩ := List.mem_map.mp key
    exact same ▸ settled.whole old present
  cases := by
    intro c shape given
    refine settled.cases c shape ?_
    rw [kept, Json.find?_finiteMembers] at given
    cases found : p.extras.find? "cases" with
    | none => simp [found, Json.isGiven] at given
    | some v => exact Json.isGiven_of_finiteOnly (by simpa [found] using given)

theorem kept_eq_self {p : Payload Details} : p.kept = p ↔ Json.membersFinite p.extras = true := by
  rw [← Json.finiteMembers_eq_self]
  constructor
  · exact congrArg Payload.extras
  · intro same
    rw [kept, same]

theorem own_finite (p : Payload Details) : Json.finiteMembers p.own = p.own := by
  rw [Json.finiteMembers_eq_self]
  cases shape : p.details with
  | trigger d =>
    simp [own, shape, Details.write, Trigger.write, Json.membersFinite, Json.isFinite, Json.finite_ofText]
  | conditional d =>
    simp [own, shape, Details.write, Conditional.write, Json.membersFinite, Json.isFinite, Rule.finite_list]
  | notification d =>
    simp [own, shape, Details.write, Notification.write, Json.membersFinite, Json.isFinite, Json.finite_texts,
      Json.finite_ofText]
  | csvUpload d =>
    simp [own, shape, Details.write, CsvUpload.write, Json.membersFinite, Json.isFinite, Json.finite_ofText]
  | startFlow _ | humanApproval _ | tagMutation _ | delay | registerEmployee _ | systemUpdate _
  | triggerWorkflow _ => simp only [own, shape]; rfl

theorem decode_encode {p : Payload Details} (settled : p.Settled) (source : Source) (s : Supply) :
    p.kind.form.decode source p.encode s = .ok (p.kept, s) :=
  decode_members (kept_settled settled) source s

theorem decode_parts {form : Form δ} {p : Payload δ} (decoded : form.decode source v s = .ok (p, t)) :
    ∃ m n u w, v = .obj m ∧ form.migrate m = .ok n ∧ (n.any fun (key, _) => Text.hasHalf key) = false ∧
      form.read source n u = .ok (p.details, w) ∧ p.extras = n.extras form.allFields := by
  obtain ⟨m, rfl, -⟩ := Decode.record_parts decoded
  obtain ⟨n, migrated, whole, read⟩ := Form.decode_obj.mp decoded
  obtain ⟨-, -, -, details, extras⟩ := Form.readMembers_parts read
  exact ⟨m, n, _, _, rfl, migrated, whole, details, extras⟩

theorem read_kind {k : Kind} (decoded : k.form.read source m s = .ok (d, t)) : d.kind = k := by
  cases k <;> obtain ⟨_, _, rfl⟩ := Decode.map_parts decoded <;> rfl

-- After migration cases stand beside given rules only: either they were turned into rules and taken
-- away, or the rules were there before.
theorem migrate_cases {m n : Members} (migrated : Conditional.migrate m = .ok n)
    (legacy : ((n.find? "cases").getD .null).isGiven = true) :
    ((n.find? "rules").getD .null).isGiven = true := by
  simp only [Conditional.migrate] at migrated
  split at migrated
  · rename_i stays
    cases migrated
    simpa [legacy] using stays
  · split at migrated
    · cases migrated
      rw [Keyed.find?_insert_of_ne _ _ (by decide), Keyed.find?_erase_self] at legacy
      cases legacy
    · cases migrated

theorem read_rules {m : Members} {c : Conditional}
    (decoded : Kind.conditional.form.read source m s = .ok (.conditional c, t))
    (given : ((m.find? "rules").getD .null).isGiven = true) : c.rules ≠ [] := by
  obtain ⟨d, inner, same⟩ := Decode.map_parts decoded
  cases same
  obtain ⟨_, _, rules, first, second, rfl⟩ := Decode.seq_parts inner
  obtain ⟨_, _, rfl⟩ := Decode.map_parts first
  cases found : m.find? "rules" with
  | none => simp [found, Json.isGiven] at given
  | some v =>
    have read : Decode.list (Rule.decode source) v _ = .ok (rules, t) :=
      Decode.field_parts (f := .same "rules") found second
    obtain ⟨vs, rfl, items⟩ := Decode.list_parts read
    have nonempty : vs ≠ [] := by simpa [found, Json.isGiven] using given
    have length := Decode.items_length items
    intro none
    have none : rules = [] := none
    rw [none] at length
    exact nonempty (List.length_eq_zero_iff.mp length.symm)

theorem settled_of_decode {k : Kind} {p : Payload Details}
    (decoded : k.form.decode source v s = .ok (p, t)) : p.kind = k ∧ p.Settled := by
  obtain ⟨m, n, u, w, rfl, migrated, whole, details, extras⟩ := decode_parts decoded
  have sort : p.kind = k := read_kind details
  refine ⟨sort, ?_, ?_, ?_⟩
  · rw [extras, sort]
    intro kv mem f field same
    have free := (List.mem_filter.mp mem).2
    simp only [Bool.not_eq_true', List.any_eq_false] at free
    exact free f field (by simp [FieldName.takes, same])
  · rw [extras]
    intro kv mem
    rw [List.any_eq_false] at whole
    simpa using whole kv (List.mem_filter.mp mem).1
  · intro c shape
    have conditional : k = .conditional := by rw [← sort, kind, shape]; rfl
    subst conditional
    rw [shape] at details
    rw [extras, n.find?_extras Kind.conditional.names_ne_cases]
    exact fun legacy => read_rules details (migrate_cases migrated legacy)

theorem settled_of_merge {p q : Payload Details} (merged : p.merge patch s = .ok (q, t)) :
    q.kind = p.kind ∧ q.Settled := by
  unfold merge Form.merge at merged
  exact settled_of_decode merged

end Payload

namespace Node

-- The node without the label that is derived from the graph.
def unlabeled (n : Node) : Node := { n with displayId := none }

def kept (n : Node) : Node := { n with payload := n.payload.kept }

theorem readMembers_ok {n : Node} {m : Members} (id : m.find? "id" = some (.str n.id))
    (position : m.find? "position" = some n.position.encode)
    (label : Decode.field m ⟨"displayId", "display_id"⟩ (pure none) (Decode.optional Decode.text) s =
      .ok (n.displayId, s))
    (data : m.find? "data" = some v) (read : n.kind.form.decode source v s = .ok (p, s)) :
    readMembers n.kind source m s = .ok ({ n with payload := p }, s) :=
  Decode.seq_ok (Decode.seq_ok (Decode.seq_ok (Decode.map_ok
    (Decode.required_ok (f := .same "id") id rfl))
    (Decode.field_ok (f := .same "position") position (Position.decode_encode source _ _))) label)
    (Decode.field_ok (f := .same "data") data read)

theorem decode_ok {n : Node} {m : Members} (tag : m.find? "kind" = some (.str n.kind.tag))
    (read : readMembers n.kind source m s = .ok r) : decode source (.obj m) s = .ok r := by
  simp only [decode, Json.members?, tag, Kind.ofTag?_tag]
  exact Decode.under_eq_ok.mpr read

theorem decode_encode {n : Node} (settled : n.payload.Settled) (source : Source) (s : Supply) :
    decode source n.encode s = .ok (n.kept, s) :=
  decode_ok rfl (readMembers_ok rfl rfl (Decode.field_ok rfl (Decode.optional_text _ _)) rfl
    (Payload.decode_encode settled source s))

theorem encode_isGiven (p : Payload Details) : p.encode.isGiven = true := by
  rw [Payload.encode_eq, Payload.members_eq]
  rfl

-- What a node hands out as loose values builds it again, but for its label.
theorem build_encode {n : Node} (settled : n.payload.Settled) (s : Supply) :
    build (.str n.id) (.str n.kind.tag) n.payload.encode n.position.encode s = .ok (n.kept.unlabeled, s) := by
  have data : orEmpty n.payload.encode = n.payload.encode := if_pos (encode_isGiven n.payload)
  have position : orEmpty n.position.encode = n.position.encode := rfl
  have read : decode .document (.obj [("id", .str n.id), ("kind", .str n.kind.tag),
      ("data", n.payload.encode), ("position", n.position.encode)]) s = .ok (n.kept.unlabeled, s) :=
    decode_ok (n := n.unlabeled) rfl
      (readMembers_ok (n := n.unlabeled) rfl rfl rfl rfl (Payload.decode_encode settled .document s))
  simp only [build, Kind.parse_tag, data, position, Decode.load, read]

theorem payload_of_readMembers {n : Node} (decoded : readMembers k source m s = .ok (n, t)) :
    n.kind = k ∧ n.payload.Settled := by
  obtain ⟨_, _, p, first, last, rfl⟩ := Decode.seq_parts decoded
  obtain ⟨_, _, _, second, _, rfl⟩ := Decode.seq_parts first
  obtain ⟨_, _, _, third, _, same⟩ := Decode.seq_parts second
  obtain ⟨_, _, rfl⟩ := Decode.map_parts third
  subst same
  rcases Decode.field_cases last with initial | ⟨v, read⟩
  · exact Payload.settled_of_decode initial
  · exact Payload.settled_of_decode read

theorem decode_parts {n : Node} (decoded : decode source v s = .ok (n, t)) :
    ∃ k m, v = .obj m ∧ readMembers k source m s = .ok (n, t) := by
  unfold decode at decoded
  cases v with
  | null | bool _ | int _ | float _ | str _ | arr _ => cases decoded
  | obj m =>
    simp only [Json.members?] at decoded
    cases tagged : Keyed.find? m "kind" with
    | none => exact absurd (by simpa only [tagged] using decoded) Decode.complain_fails
    | some v =>
      simp only [tagged] at decoded
      cases v with
      | str tag =>
        cases known : Kind.ofTag? tag with
        | none => exact absurd (by simpa only [known] using decoded) Decode.complain_fails
        | some k =>
          simp only [known] at decoded
          exact ⟨k, m, rfl, Decode.under_eq_ok.mp decoded⟩
      | null | bool _ | int _ | float _ | arr _ | obj _ => cases decoded

theorem settled_of_decode {n : Node} (decoded : decode source v s = .ok (n, t)) : n.payload.Settled := by
  obtain ⟨k, m, _, read⟩ := decode_parts decoded
  exact (payload_of_readMembers read).2

-- Nodes that came from reading: as parts of a document, built from loose values or patched. Nothing
-- is said about their labels, which may be set anew at any time.
inductive Validated : Node → Prop where
  | read : decode source v s = .ok (n, t) → Validated n
  | patched : Validated n → n.payload.merge patch s = .ok (p, t) → Validated { n with payload := p }
  | labeled : Validated n → Validated { n with displayId := label }

theorem Validated.settled (valid : Validated n) : n.payload.Settled := by
  induction valid with
  | read decoded => exact settled_of_decode decoded
  | patched _ merged => exact (Payload.settled_of_merge merged).2
  | labeled _ ih => exact ih

theorem validated_of_settled {n : Node} (settled : n.payload.Settled) : n.Validated := by
  have data := Payload.decode_members settled .document ⟨fun _ => "", 0⟩
  have read : decode .document (.obj [("id", .str n.id), ("position", n.position.encode),
      ("displayId", .ofText? n.displayId), ("kind", .str n.kind.tag),
      ("data", .obj (n.payload.kind.form.members n.payload))]) ⟨fun _ => "", 0⟩ = .ok (n, ⟨fun _ => "", 0⟩) :=
    decode_ok rfl (readMembers_ok rfl rfl (Decode.field_ok rfl (Decode.optional_text _ _)) rfl data)
  exact .read read

theorem build_parts {name tag data place : Json} (built : build name tag data place s = .ok (n, t)) :
    ∃ kind : Kind, decode .document (.obj [("id", name), ("kind", .str kind.tag), ("data", orEmpty data),
      ("position", orEmpty place)]) s = .ok (n, t) := by
  unfold build at built
  split at built
  · cases built
  · rename_i kind _
    dsimp only at built
    split at built
    · rename_i loaded
      cases built
      exact ⟨kind, Decode.load_parts loaded⟩
    · cases built

theorem build_validated (built : build name tag data place s = .ok (n, t)) : Validated n := by
  obtain ⟨_, read⟩ := build_parts built
  exact .read read

end Node

namespace Graph

-- Graphs whose nodes came from reading. Their edges may be any.
def Validated (g : Graph) : Prop := ∀ n ∈ g.nodes, n.Validated

theorem decodeNodes_validated (decoded : decodeNodes source v s = .ok (ns, t)) : ∀ n ∈ ns, n.Validated := by
  cases v with
  | arr vs => exact Decode.items_each (fun _ _ _ _ _ read => .read read) decoded
  | null | bool _ | int _ | float _ | str _ | obj _ => cases decoded

theorem readMembers_validated (decoded : readMembers source m s = .ok (g, t)) : g.Validated := by
  obtain ⟨_, _, _, first, _, rfl⟩ := Decode.seq_parts decoded
  obtain ⟨ns, nodes, rfl⟩ := Decode.map_parts first
  rcases Decode.field_cases nodes with absent | ⟨v, read⟩
  · obtain ⟨rfl, _⟩ := Decode.pure_parts absent
    intro n mem
    cases mem
  · exact decodeNodes_validated read

theorem decode_validated (decoded : decode source v s = .ok (g, t)) : g.Validated := by
  obtain ⟨_, rfl, read⟩ := Decode.record_parts decoded
  exact readMembers_validated read

end Graph

end Orchestration
