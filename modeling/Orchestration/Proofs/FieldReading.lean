import Mathlib.Data.List.Nodup
import Orchestration.Proofs.ReadBack

namespace Orchestration

namespace Decode

theorem field_single {m : Members} {f : FieldName} {absent absent' : Decode α} {read : Json → Decode α}
    (found : m.find? f.wire = some v) (decoded : field m f absent read s = .ok r) :
    field [(f.wire, v)] f absent' read s = .ok r :=
  field_ok (by simp [Keyed.find?]) (field_parts found decoded)

theorem field_missing {f : FieldName} {key : String} (wire : key ≠ f.wire) (plain : key ≠ f.plain) (v : Json)
    (absent : Decode α) (read : Json → Decode α) : field [(key, v)] f absent read = absent := by
  have first : (f.wire == key) = false := by simpa using wire.symm
  have second : (f.plain == key) = false := by simpa using plain.symm
  simp [field, FieldName.given?, Keyed.find?, List.lookup_cons, first, second]

end Decode

namespace Form

-- What a payload writes for a field.
def member? (form : Form δ) (p : Payload δ) (f : FieldName) : Option Json := Keyed.find? (form.members p) f.wire

-- What there is to know of a form, for its fields to be read one by one.
structure Fieldwise (form : Form δ) : Prop where
  distinct : (form.allFields.map FieldName.wire).Nodup
  apart : ∀ f ∈ form.allFields, ∀ g ∈ form.allFields, g.plain = f.wire ∨ g.plain = f.plain → g = f
  whole : ∀ f ∈ form.allFields, Text.hasHalf f.wire = false
  current : ∀ f ∈ form.allFields, ∀ v, form.migrate [(f.wire, v)] = .ok [(f.wire, v)]
  -- The details are read without any of their members, and each of their members is read alone.
  none : ∀ f ∈ Payload.baseFields, ∀ v s, ∃ d, form.read .document [(f.wire, v)] s = .ok (d, s)
  alone : ∀ {m s d t}, form.read .document m s = .ok (d, t) → ∀ f ∈ form.fields, ∀ v, m.find? f.wire = some v →
    ∃ e u, form.read .document [(f.wire, v)] s = .ok (e, u) ∧
      Keyed.find? (form.write d) f.wire = Keyed.find? (form.write e) f.wire
  keys : ∀ {m s d t}, form.read .document m s = .ok (d, t) →
    (form.write d).map (·.1) = form.fields.map FieldName.wire

theorem free_of_decode {form : Form δ} {p : Payload δ} (decoded : form.decode source v s = .ok (p, t)) :
    ∀ kv ∈ p.extras, ∀ f ∈ form.allFields, kv.1 ≠ f.wire := by
  obtain ⟨m, n, u, w, rfl, -, -, -, extras⟩ := Payload.decode_parts decoded
  rw [extras]
  intro kv mem f field same
  have free := (List.mem_filter.mp mem).2
  rw [Bool.not_eq_true', List.any_eq_false] at free
  exact free f field (by simp [FieldName.takes, same])

section Written

-- What is written for the fields, and what stands behind it.

variable {form : Form δ} {p : Payload δ} (keys : (form.write p.details).map (·.1) = form.fields.map FieldName.wire)
include keys

theorem find?_members_other {key : String} (other : ∀ f ∈ form.allFields, f.wire ≠ key) :
    Keyed.find? (form.members p) key = p.extras.find? key := by
  rw [members_eq form p]
  refine Keyed.find?_append_of_not_mem (fun kv mem => ?_) _
  have wire := List.mem_map_of_mem (f := Prod.fst) mem
  rw [own_keys keys] at wire
  obtain ⟨f, field, same⟩ := List.mem_map.mp wire
  exact same ▸ other f field

theorem member?_isSome {f : FieldName} (mem : f ∈ form.allFields) : (form.member? p f).isSome = true := by
  rw [member?, ← Keyed.has_eq_isSome]
  exact has_members keys mem

end Written

namespace Fieldwise

variable {form : Form δ} (fieldwise : form.Fieldwise)
include fieldwise

theorem wire_ne {f g : FieldName} (mem : f ∈ form.allFields) (other : g ∈ form.allFields) (different : f ≠ g) :
    f.wire ≠ g.wire ∧ f.wire ≠ g.plain :=
  ⟨fun same => different (List.inj_on_of_nodup_map fieldwise.distinct mem other same),
    fun same => different (fieldwise.apart f mem g other (.inl same.symm)).symm⟩

theorem base_wire_ne {f g : FieldName} (base : f ∈ Payload.baseFields) (detail : g ∈ form.fields) :
    f.wire ≠ g.wire := by
  have distinct := fieldwise.distinct
  rw [allFields, List.map_append, List.nodup_append] at distinct
  exact distinct.2.2 _ (List.mem_map_of_mem base) _ (List.mem_map_of_mem detail)

-- The detail of a field stands behind the members that every payload has, and before the extras.
theorem member?_details {p : Payload δ} (keys : (form.write p.details).map (·.1) = form.fields.map FieldName.wire)
    {f : FieldName} (mem : f ∈ form.fields) : form.member? p f = Keyed.find? (form.write p.details) f.wire := by
  have behind : ∀ kv ∈ ([("label", .str p.label), ("delayValue", .int p.delayValue),
      ("delayUnit", .str p.delayUnit.tag)] : Members), kv.1 ≠ f.wire := by
    intro kv front
    have wire : kv.1 ∈ Payload.baseFields.map FieldName.wire := List.mem_map_of_mem (f := Prod.fst) front
    obtain ⟨g, base, same⟩ := List.mem_map.mp wire
    exact same ▸ fieldwise.base_wire_ne base mem
  have present : (Keyed.find? (form.write p.details) f.wire).isSome = true := by
    have key : f.wire ∈ (form.write p.details).map (·.1) := keys ▸ List.mem_map_of_mem mem
    obtain ⟨kv, among, same⟩ := List.mem_map.mp key
    rw [← Keyed.has_eq_isSome, Keyed.has, List.any_eq_true]
    exact ⟨kv, among, by simpa using same⟩
  rw [member?, members, Keyed.find?_append, Keyed.find?_append, Keyed.find?_eq_none.mpr behind, Option.none_or,
    Option.or_of_isSome present]

theorem write_keys {p : Payload δ} (read : form.readMembers .document m s = .ok (p, t)) :
    (form.write p.details).map (·.1) = form.fields.map FieldName.wire :=
  fieldwise.keys (readMembers_parts read).2.2.2.1

theorem read_single {m : Members} (decoded : form.readMembers .document m s = .ok (q, t)) {f : FieldName}
    (mem : f ∈ form.allFields) (found : m.find? f.wire = some v) :
    ∃ r u, form.decode .document (.obj [(f.wire, v)]) s = .ok (r, u) ∧ form.member? q f = form.member? r f := by
  obtain ⟨label, value, unit, details, _⟩ := readMembers_parts decoded
  have read : ∀ {r u}, form.readMembers .document [(f.wire, v)] s = .ok (r, u) →
      form.decode .document (.obj [(f.wire, v)]) s = .ok (r, u) := fun single =>
    decode_obj.mpr ⟨_, fieldwise.current f mem v, by simpa using fieldwise.whole f mem, single⟩
  rcases List.mem_append.mp mem with base | detail
  · obtain ⟨d, rest⟩ := fieldwise.none f base v s
    simp only [Payload.baseFields, List.mem_cons, List.not_mem_nil, or_false] at base
    rcases base with rfl | rfl | rfl
    · exact ⟨_, _, read (readMembers_ok (Decode.field_single found label) rfl rfl rest), rfl⟩
    · exact ⟨_, _, read (readMembers_ok rfl (Decode.field_single found value) rfl rest), rfl⟩
    · exact ⟨_, _, read (readMembers_ok rfl rfl (Decode.field_single found unit) rest), rfl⟩
  · obtain ⟨e, u, alone, same⟩ := fieldwise.alone details f detail v found
    have missing : ∀ g ∈ Payload.baseFields, f.wire ≠ g.wire ∧ f.wire ≠ g.plain := by
      intro g base
      refine fieldwise.wire_ne mem (List.mem_append_left _ base) ?_
      rintro rfl
      exact fieldwise.base_wire_ne base detail rfl
    simp only [Payload.baseFields, List.forall_mem_cons] at missing
    obtain ⟨noLabel, noValue, noUnit, -⟩ := missing
    have whole : form.readMembers .document [(f.wire, v)] s = .ok (⟨"", form.delayValue, form.delayUnit, e, _⟩, u) :=
      readMembers_ok (congrFun (Decode.field_missing noLabel.1 noLabel.2 v _ _) s)
        (congrFun (Decode.field_missing noValue.1 noValue.2 v _ _) s)
        (congrFun (Decode.field_missing noUnit.1 noUnit.2 v _ _) s) alone
    refine ⟨_, _, read whole, ?_⟩
    rw [fieldwise.member?_details (fieldwise.keys details) detail,
      fieldwise.member?_details (fieldwise.keys alone) detail, same]

end Fieldwise

end Form

section Kinds

open Decode

-- One case per kind and field: beside the member for it, all fields have what stands for an absent one. Only rules
-- draw names, and they are read last.
theorem Kind.read_alone (k : Kind) (decoded : k.form.read .document m s = .ok (d, t)) {f : FieldName}
    (mem : f ∈ k.form.fields) (found : m.find? f.wire = some v) :
    ∃ e u, k.form.read .document [(f.wire, v)] s = .ok (e, u) ∧
      Keyed.find? (k.form.write d) f.wire = Keyed.find? (k.form.write e) f.wire := by
  have text {f : FieldName} {a : String} {x : String} {s t} :
      field m f (Pure.pure a) Decode.text s = .ok (x, t) → t = s := (still.defaulted still.text).same
  have textOrNull {f : FieldName} {x : Option String} {s t} :
      field m f (Pure.pure none) (optional Decode.text) s = .ok (x, t) → t = s :=
    (still.defaulted (still.optional still.text)).same
  cases k with
  | trigger =>
    obtain ⟨_, inner, rfl⟩ := map_parts decoded
    obtain ⟨_, _, _, four, active, rfl⟩ := seq_parts inner
    obtain ⟨_, _, _, three, integration, rfl⟩ := seq_parts four
    obtain ⟨_, _, _, two, auth, rfl⟩ := seq_parts three
    obtain ⟨_, _, _, one, endpoint, rfl⟩ := seq_parts two
    obtain ⟨_, method, rfl⟩ := map_parts one
    obtain rfl := text method
    obtain rfl := text endpoint
    obtain rfl := textOrNull auth
    obtain rfl := textOrNull integration
    simp only [form, Form.lift, Trigger.form, List.mem_cons, List.not_mem_nil, or_false] at mem
    rcases mem with rfl | rfl | rfl | rfl | rfl
    · exact ⟨_, _, map_ok (seq_ok (seq_ok (seq_ok (seq_ok (map_ok (field_single found method)) rfl) rfl) rfl) rfl),
        rfl⟩
    · exact ⟨_, _, map_ok (seq_ok (seq_ok (seq_ok (seq_ok (map_ok rfl) (field_single found endpoint)) rfl) rfl) rfl),
        rfl⟩
    · exact ⟨_, _, map_ok (seq_ok (seq_ok (seq_ok (seq_ok (map_ok rfl) rfl) (field_single found auth)) rfl) rfl), rfl⟩
    · exact ⟨_, _, map_ok (seq_ok (seq_ok (seq_ok (seq_ok (map_ok rfl) rfl) rfl) (field_single found integration)) rfl),
        rfl⟩
    · exact ⟨_, _, map_ok (seq_ok (seq_ok (seq_ok (seq_ok (map_ok rfl) rfl) rfl) rfl) (field_single found active)),
        rfl⟩
  | conditional =>
    obtain ⟨_, inner, rfl⟩ := map_parts decoded
    obtain ⟨_, _, _, one, rules, rfl⟩ := seq_parts inner
    obtain ⟨_, switchField, rfl⟩ := map_parts one
    obtain rfl := text switchField
    simp only [form, Form.lift, Conditional.form, List.mem_cons, List.not_mem_nil, or_false] at mem
    rcases mem with rfl | rfl
    · exact ⟨_, _, map_ok (seq_ok (map_ok (field_single found switchField)) rfl), rfl⟩
    · exact ⟨_, _, map_ok (seq_ok (map_ok rfl) (field_single found rules)), rfl⟩
  | humanApproval =>
    obtain ⟨_, inner, rfl⟩ := map_parts decoded
    obtain ⟨_, _, _, two, timeout, rfl⟩ := seq_parts inner
    obtain ⟨_, _, _, one, description, rfl⟩ := seq_parts two
    obtain ⟨_, assignee, rfl⟩ := map_parts one
    obtain rfl := text assignee
    obtain rfl := text description
    simp only [form, Form.lift, HumanApproval.form, List.mem_cons, List.not_mem_nil, or_false] at mem
    rcases mem with rfl | rfl | rfl
    · exact ⟨_, _, map_ok (seq_ok (seq_ok (map_ok (field_single found assignee)) rfl) rfl), rfl⟩
    · exact ⟨_, _, map_ok (seq_ok (seq_ok (map_ok rfl) (field_single found description)) rfl), rfl⟩
    · exact ⟨_, _, map_ok (seq_ok (seq_ok (map_ok rfl) rfl) (field_single found timeout)), rfl⟩
  | notification =>
    obtain ⟨_, inner, rfl⟩ := map_parts decoded
    obtain ⟨_, _, _, four, template, rfl⟩ := seq_parts inner
    obtain ⟨_, _, _, three, message, rfl⟩ := seq_parts four
    obtain ⟨_, _, _, two, recipients, rfl⟩ := seq_parts three
    obtain ⟨_, _, _, one, audience, rfl⟩ := seq_parts two
    obtain ⟨_, channel, rfl⟩ := map_parts one
    obtain rfl := (still.defaulted (still.choice _)).same channel
    obtain rfl := (still.defaulted still.audience).same audience
    obtain rfl := text recipients
    obtain rfl := text message
    simp only [form, Form.lift, Notification.form, List.mem_cons, List.not_mem_nil, or_false] at mem
    rcases mem with rfl | rfl | rfl | rfl | rfl
    · exact ⟨_, _, map_ok (seq_ok (seq_ok (seq_ok (seq_ok (map_ok (field_single found channel)) rfl) rfl) rfl) rfl),
        rfl⟩
    · exact ⟨_, _, map_ok (seq_ok (seq_ok (seq_ok (seq_ok (map_ok rfl) (field_single found audience)) rfl) rfl) rfl),
        rfl⟩
    · exact ⟨_, _, map_ok (seq_ok (seq_ok (seq_ok (seq_ok (map_ok rfl) rfl) (field_single found recipients)) rfl) rfl),
        rfl⟩
    · exact ⟨_, _, map_ok (seq_ok (seq_ok (seq_ok (seq_ok (map_ok rfl) rfl) rfl) (field_single found message)) rfl),
        rfl⟩
    · exact ⟨_, _, map_ok (seq_ok (seq_ok (seq_ok (seq_ok (map_ok rfl) rfl) rfl) rfl) (field_single found template)),
        rfl⟩
  | tagMutation =>
    obtain ⟨_, inner, rfl⟩ := map_parts decoded
    obtain ⟨_, _, _, one, removeTag, rfl⟩ := seq_parts inner
    obtain ⟨_, addTag, rfl⟩ := map_parts one
    obtain rfl := text addTag
    simp only [form, Form.lift, TagMutation.form, List.mem_cons, List.not_mem_nil, or_false] at mem
    rcases mem with rfl | rfl
    · exact ⟨_, _, map_ok (seq_ok (map_ok (field_single found addTag)) rfl), rfl⟩
    · exact ⟨_, _, map_ok (seq_ok (map_ok rfl) (field_single found removeTag)), rfl⟩
  | delay => cases mem
  | systemUpdate =>
    obtain ⟨_, inner, rfl⟩ := map_parts decoded
    obtain ⟨_, _, _, two, payload, rfl⟩ := seq_parts inner
    obtain ⟨_, _, _, one, action, rfl⟩ := seq_parts two
    obtain ⟨_, system, rfl⟩ := map_parts one
    obtain rfl := text system
    obtain rfl := text action
    simp only [form, Form.lift, SystemUpdate.form, List.mem_cons, List.not_mem_nil, or_false] at mem
    rcases mem with rfl | rfl | rfl
    · exact ⟨_, _, map_ok (seq_ok (seq_ok (map_ok (field_single found system)) rfl) rfl), rfl⟩
    · exact ⟨_, _, map_ok (seq_ok (seq_ok (map_ok rfl) (field_single found action)) rfl), rfl⟩
    · exact ⟨_, _, map_ok (seq_ok (seq_ok (map_ok rfl) rfl) (field_single found payload)), rfl⟩
  | csvUpload =>
    obtain ⟨_, inner, rfl⟩ := map_parts decoded
    obtain ⟨_, _, _, one, file, rfl⟩ := seq_parts inner
    obtain ⟨_, template, rfl⟩ := map_parts one
    obtain rfl := textOrNull template
    simp only [form, Form.lift, CsvUpload.form, List.mem_cons, List.not_mem_nil, or_false] at mem
    rcases mem with rfl | rfl
    · exact ⟨_, _, map_ok (seq_ok (map_ok (field_single found template)) rfl), rfl⟩
    · exact ⟨_, _, map_ok (seq_ok (map_ok rfl) (field_single found file)), rfl⟩
  | startFlow | registerEmployee | triggerWorkflow =>
    obtain ⟨_, inner, rfl⟩ := map_parts decoded
    obtain ⟨_, only, rfl⟩ := map_parts inner
    cases List.mem_singleton.mp mem
    exact ⟨_, _, map_ok (map_ok (field_single found only)), rfl⟩

end Kinds

theorem Kind.fieldwise (k : Kind) : k.form.Fieldwise where
  distinct := k.wires_nodup
  apart := by cases k <;> decide
  whole := k.wires_whole
  current := by
    intro f mem v
    have other := k.wires_ne_cases f mem
    cases k with
    | conditional =>
      have lacks : Keyed.find? [(f.wire, v)] "cases" = none :=
        Keyed.find?_eq_none.mpr fun kv only => by
          cases List.mem_singleton.mp only
          exact other
      simp [form, Form.lift, Conditional.form, Conditional.migrate, lacks, Json.isGiven]
    | trigger | startFlow | humanApproval | notification | tagMutation | delay | registerEmployee | systemUpdate
    | csvUpload | triggerWorkflow => rfl
  none := by
    intro f base v s
    simp only [Payload.baseFields, List.mem_cons, List.not_mem_nil, or_false] at base
    cases k <;> rcases base with rfl | rfl | rfl <;> exact ⟨_, rfl⟩
  alone := fun decoded _ mem _ found => k.read_alone decoded mem found
  keys := by
    intro m s d t decoded
    rw [k.form_write, d.write_keys, Payload.read_kind decoded]

namespace Form

theorem bare_again {p : Payload Unit} (free : ∀ kv ∈ p.extras, ∀ f ∈ bare.allFields, kv.1 ≠ f.wire) (s : Supply) :
    bare.readMembers .document (bare.members p) s = .ok (p, s) :=
  readMembers_members rfl free rfl

theorem bare_fieldwise : bare.Fieldwise where
  distinct := by decide
  apart := by decide
  whole := by decide +kernel
  current := fun _ _ _ => rfl
  none := fun _ _ _ _ => ⟨(), rfl⟩
  alone := fun _ _ mem => nomatch mem
  keys := fun _ => rfl

end Form

end Orchestration
