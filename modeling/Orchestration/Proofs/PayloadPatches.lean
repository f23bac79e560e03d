import Orchestration.Proofs.FieldReading

namespace Orchestration

-- The last entry of a patch that names a field, under its written or its plain name.
def FieldName.asked? (f : FieldName) (patch : Members) : Option Json :=
  (patch.reverse.find? fun kv => kv.1 == f.wire || kv.1 == f.plain).map (·.2)

theorem FieldName.asked?_same (name : String) (patch : Members) :
    (FieldName.same name).asked? patch = Keyed.find? patch.reverse name := by
  have renamed := Keyed.find?_renamed patch.reverse id name
  simp only [id, List.map_id'] at renamed
  simpa [asked?, same] using renamed.symm

namespace Form

-- Whether a key is one of the names of a field.
def names (form : Form δ) (key : String) : Bool := form.allFields.any fun f => key == f.wire || key == f.plain

-- What a patch makes of a payload. A field that it names has the value that is read of the last entry for it, where
-- a document of that kind holds nothing else. Every other field and every other extra is as it was.
structure Patches (form : Form δ) (p : Payload δ) (patch : Members) (s : Supply) (q : Payload δ) : Prop where
  named : ∀ f ∈ form.allFields, ∀ v, f.asked? patch = some v →
    ∃ r t, form.decode .document (.obj [(f.wire, v)]) s = .ok (r, t) ∧ form.member? q f = form.member? r f
  unnamed : ∀ f ∈ form.allFields, f.asked? patch = none → form.member? q f = form.member? p f
  extras : ∀ key, q.extras.find? key =
    if form.names key then p.extras.find? key else (Keyed.find? patch.reverse key).or (p.extras.find? key)

theorem wireKey_of_other {form : Form δ} {key : String} (other : form.names key = false) (named : String) :
    (form.wireKey named == key) = (named == key) := by
  simp only [names, List.any_eq_false, Bool.or_eq_true, beq_iff_eq, not_or] at other
  rw [Bool.eq_iff_iff, beq_iff_eq, beq_iff_eq]
  unfold wireKey
  cases found : form.allFields.find? (·.plain == named) with
  | none => rfl
  | some g =>
    have field := List.mem_of_find?_eq_some found
    have plain : g.plain = named := by simpa using List.find?_some found
    obtain ⟨wire, beside⟩ := other g field
    exact ⟨fun same => absurd same.symm wire, fun same => absurd (same.symm.trans plain.symm) beside⟩

-- The members of a payload with a patch merged into them.
def patched (form : Form δ) (p : Payload δ) (patch : Members) : Members :=
  (form.members p).update (patch.map fun (k, v) => (form.wireKey k, v))

theorem patched_append (form : Form δ) (p : Payload δ) (patch : Members) (key : String) (v : Json) :
    form.patched p (patch ++ [(key, v)]) = (form.patched p patch).insert (form.wireKey key) v := by
  rw [patched, List.map_append, Keyed.update, List.foldl_append]
  rfl

theorem find?_patched (form : Form δ) (p : Payload δ) (patch : Members) (key : String) :
    (form.patched p patch).find? key =
      ((patch.reverse.find? fun kv => form.wireKey kv.1 == key).map (·.2)).or (Keyed.find? (form.members p) key) := by
  rw [patched, Keyed.find?_update, Keyed.find?_ofList, ← List.map_reverse, Keyed.find?_renamed]

theorem find?_patched_other {form : Form δ} (p : Payload δ) (patch : Members) {key : String}
    (other : form.names key = false) :
    (form.patched p patch).find? key = (Keyed.find? patch.reverse key).or (Keyed.find? (form.members p) key) := by
  have plain := Keyed.find?_renamed patch.reverse id key
  simp only [id, List.map_id'] at plain
  simp only [find?_patched, wireKey_of_other other, plain]

-- No entry of a patch is merged in under the plain name of a field that is written otherwise.
theorem find?_patched_plain {form : Form δ} (p : Payload δ) (patch : Members) {key : String}
    (named : form.names key = true) (other : ∀ f ∈ form.allFields, f.wire ≠ key) :
    (form.patched p patch).find? key = Keyed.find? (form.members p) key := by
  have gone : ∀ name, (form.wireKey name == key) = false := by
    intro name
    rw [beq_eq_false_iff_ne]
    unfold wireKey
    cases found : form.allFields.find? (·.plain == name) with
    | some g => exact other g (List.mem_of_find?_eq_some found)
    | none =>
      rintro rfl
      obtain ⟨f, mem, wire | plain⟩ := by simpa [names] using named
      · exact other f mem wire.symm
      · exact absurd plain.symm (by simpa using List.find?_eq_none.mp found f mem)
  rw [find?_patched, List.find?_eq_none.mpr fun kv _ => by simp [gone kv.1]]
  rfl

namespace Fieldwise

variable {form : Form δ} (fieldwise : form.Fieldwise)
include fieldwise

theorem wireKey_eq {f : FieldName} (mem : f ∈ form.allFields) (key : String) :
    (form.wireKey key == f.wire) = (key == f.wire || key == f.plain) := by
  rw [Bool.eq_iff_iff, Bool.or_eq_true, beq_iff_eq, beq_iff_eq, beq_iff_eq]
  unfold wireKey
  cases found : form.allFields.find? (·.plain == key) with
  | none =>
    have other : f.plain ≠ key := by simpa using List.find?_eq_none.mp found f mem
    simp [other.symm]
  | some g =>
    have field := List.mem_of_find?_eq_some found
    have plain : g.plain = key := by simpa using List.find?_some found
    subst plain
    constructor
    · intro same
      exact .inr (congrArg FieldName.plain (List.inj_on_of_nodup_map fieldwise.distinct field mem same))
    · intro named
      rw [fieldwise.apart f mem g field named]

theorem find?_patched_field (p : Payload δ) (patch : Members) {f : FieldName} (mem : f ∈ form.allFields) :
    (form.patched p patch).find? f.wire = (f.asked? patch).or (form.member? p f) := by
  simp only [find?_patched, fieldwise.wireKey_eq mem]
  rfl

-- A payload is as the patch makes it, when its members with the patch in them are read as fields.
theorem patches {p q : Payload δ} (free : ∀ kv ∈ p.extras, ∀ f ∈ form.allFields, kv.1 ≠ f.wire)
    (again : form.readMembers .document (form.members p) s = .ok (p, s))
    (read : form.readMembers .document (form.patched p patch) s = .ok (q, t)) : form.Patches p patch s q where
  named := by
    intro f mem v asked
    exact fieldwise.read_single read mem (by rw [fieldwise.find?_patched_field p patch mem, asked]; rfl)
  unnamed := by
    intro f mem silent
    have present := member?_isSome (fieldwise.write_keys again) mem
    obtain ⟨v, old⟩ := Option.isSome_iff_exists.mp present
    have stays : (form.patched p patch).find? f.wire = some v := by
      rw [fieldwise.find?_patched_field p patch mem, silent, Option.none_or, old]
    obtain ⟨r, _, single, new⟩ := fieldwise.read_single read mem stays
    obtain ⟨r', _, single', same⟩ := fieldwise.read_single again mem old
    rw [single] at single'
    cases single'
    rw [new, same]
  extras := by
    intro key
    have keys := fieldwise.write_keys again
    have present : ∀ f ∈ form.allFields, Keyed.has (form.patched p patch) f.wire = true := by
      intro f mem
      rw [Keyed.has_eq_isSome, fieldwise.find?_patched_field p patch mem, Option.isSome_or, member?_isSome keys mem,
        Bool.or_true]
    have untaken : q.extras = (form.patched p patch).filter fun kv =>
        !(form.allFields.any fun f => kv.1 == f.wire) := by
      rw [(readMembers_parts read).2.2.2.2, Members.extras_of_present present]
    by_cases wire : ∃ f ∈ form.allFields, f.wire = key
    · obtain ⟨f, mem, rfl⟩ := wire
      have named : form.names f.wire = true := List.any_eq_true.mpr ⟨f, mem, by simp⟩
      rw [if_pos named, Keyed.find?_eq_none.mpr fun kv extra => free kv extra f mem, Keyed.find?_eq_none, untaken]
      intro kv extra same
      have left := (List.mem_filter.mp extra).2
      rw [Bool.not_eq_true', List.any_eq_false] at left
      exact left f mem (beq_iff_eq.mpr same)
    · have other : ∀ f ∈ form.allFields, f.wire ≠ key := fun f mem same => wire ⟨f, mem, same⟩
      have kept : q.extras.find? key = (form.patched p patch).find? key := by
        rw [untaken]
        refine Keyed.find?_filter (p := fun name => !(form.allFields.any fun f => name == f.wire)) ?_
        rw [Bool.not_eq_true', List.any_eq_false]
        intro f mem
        simpa using (other f mem).symm
      cases named : form.names key with
      | true => rw [if_pos rfl, kept, find?_patched_plain p patch named other, find?_members_other keys other]
      | false =>
        rw [if_neg Bool.false_ne_true, kept, find?_patched_other p patch named, find?_members_other keys other]

end Fieldwise

end Form

theorem Conditional.ids_of_cases {field : Json} {made : List Rule} (cases : Members)
    (decoded : Decode.items (Rule.decode source) start
      (cases.map fun (value, label) => ruleOfCase field value label) s = .ok (made, t)) :
    made.map Rule.id = cases.map (·.1) := by
  induction cases generalizing start s made with
  | nil =>
    cases decoded
    rfl
  | cons case rest ih =>
    obtain ⟨rule, u, more, first, later, rfl⟩ := Decode.items_cons_parts decoded
    have id : rule.id = case.1 := by
      obtain ⟨_, _, _, four, _, rfl⟩ := Decode.seq_parts first
      obtain ⟨_, _, _, three, _, rfl⟩ := Decode.seq_parts four
      obtain ⟨_, _, _, two, _, rfl⟩ := Decode.seq_parts three
      obtain ⟨_, _, _, one, _, rfl⟩ := Decode.seq_parts two
      obtain ⟨_, id, rfl⟩ := Decode.map_parts one
      exact (Decode.pure_parts id).1.symm
    rw [List.map_cons, List.map_cons, id, ih later]

theorem Kind.names_cases (k : Kind) : k.form.names "cases" = false := by
  cases k <;> decide

namespace Payload

theorem patched_cases (p : Payload Details) {patch : Members} (noCases : ∀ kv ∈ patch, kv.1 ≠ "cases") :
    Keyed.find? (p.kind.form.patched p patch) "cases" = p.extras.find? "cases" := by
  have absent : Keyed.find? patch.reverse "cases" = none :=
    Keyed.find?_eq_none.mpr fun kv mem => noCases kv (List.mem_reverse.mp mem)
  rw [Form.find?_patched_other p patch p.kind.names_cases, absent, Option.none_or,
    Form.find?_members_other p.write_keys p.kind.wires_ne_cases]

theorem patched_detail (p : Payload Details) (patch : Members) {f : FieldName} (mem : f ∈ p.kind.form.fields) :
    Keyed.find? (p.kind.form.patched p patch) f.wire = (f.asked? patch).or (Keyed.find? p.details.write f.wire) := by
  rw [p.kind.fieldwise.find?_patched_field p patch (List.mem_append_right _ mem),
    p.kind.fieldwise.member?_details p.write_keys mem, p.kind.form_write]

theorem patched_rules {p : Payload Details} (shape : p.details = .conditional c) (patch : Members) :
    Keyed.find? (p.kind.form.patched p patch) "rules" =
      ((FieldName.same "rules").asked? patch).or (some (.arr (c.rules.map Rule.encode))) := by
  have found := p.patched_detail patch (f := .same "rules") (by rw [kind, shape]; exact .tail _ (.head _))
  rwa [shape] at found

theorem patched_switchField {p : Payload Details} (shape : p.details = .conditional c) (patch : Members) :
    Keyed.find? (p.kind.form.patched p patch) "switchField" =
      ((FieldName.mk "switchField" "switch_field").asked? patch).or (some (.str c.switchField)) := by
  have found := p.patched_detail patch (f := ⟨"switchField", "switch_field"⟩) (by rw [kind, shape]; exact .head _)
  rwa [shape] at found

-- A patch clears the rules of a conditional, beside which old cases were left.
def Revives (p : Payload Details) (patch : Members) : Prop :=
  p.kind = .conditional ∧ ((p.extras.find? "cases").getD .null).isGiven = true ∧
    ∃ v, (FieldName.same "rules").asked? patch = some v ∧ v.isGiven = false

theorem eq_of_fields {p q : Payload Details} (sort : q.kind = p.kind)
    (same : ∀ f ∈ p.kind.form.allFields, p.kind.form.member? q f = p.kind.form.member? p f) :
    q = { p with extras := q.extras } := by
  have label : q.label = p.label :=
    Json.str.inj (Option.some.inj (same (.same "label") (by simp [Form.allFields, baseFields])))
  have value : q.delayValue = p.delayValue :=
    Json.int.inj (Option.some.inj (same ⟨"delayValue", "delay_value"⟩ (by simp [Form.allFields, baseFields])))
  have unit : q.delayUnit = p.delayUnit := DelayUnit.eq_of_tag
    (Json.str.inj (Option.some.inj (same ⟨"delayUnit", "delay_unit"⟩ (by simp [Form.allFields, baseFields]))))
  have found : ∀ r : Payload Details, r.kind = p.kind → ∀ kv ∈ r.own, Keyed.find? (p.kind.form.members r) kv.1 =
      some kv.2 := by
    intro r sort kv mem
    rw [← sort, r.members_eq]
    exact Keyed.find?_append_of_mem r.own_nodup mem _
  have details : q.details = p.details := by
    have mine := q.details.read_write .document (m := p.kind.form.members q)
      (fun kv mem => found q sort kv (List.mem_append_right _ mem)) ⟨fun _ => "", 0⟩
    have theirs := p.details.read_write .document (m := p.kind.form.members q) (fun kv mem => by
      obtain ⟨f, field, wire⟩ := own_wire (List.mem_append_right _ mem)
      have moved := same f field
      rw [Form.member?, Form.member?, wire] at moved
      rw [moved]
      exact found p rfl kv (List.mem_append_right _ mem)) ⟨fun _ => "", 0⟩
    have kinds : q.details.kind = p.details.kind := sort
    rw [kinds, theirs] at mine
    injection mine with both
    exact (congrArg Prod.fst both).symm
  rw [← label, ← value, ← unit, ← details]

theorem kind_conditional {p : Payload Details} (sort : p.kind = .conditional) : ∃ c, p.details = .conditional c := by
  obtain ⟨_, _, _, details, _⟩ := p
  cases details with
  | conditional c => exact ⟨c, rfl⟩
  | trigger _ | startFlow _ | humanApproval _ | notification _ | tagMutation _ | delay | registerEmployee _
  | systemUpdate _ | csvUpload _ | triggerWorkflow _ => cases sort

section Patched

variable {p : Payload Details} (settled : p.Settled) {patch : Members} (noCases : ∀ kv ∈ patch, kv.1 ≠ "cases")
include settled noCases

theorem migrate_patched (rest : ¬ p.Revives patch) :
    p.kind.form.migrate (p.kind.form.patched p patch) = .ok (p.kind.form.patched p patch) := by
  by_cases sort : p.kind = .conditional
  · obtain ⟨c, shape⟩ := kind_conditional sort
    have rules := patched_rules shape patch
    have stays : (!((p.extras.find? "cases").getD .null).isGiven ||
        ((Keyed.find? (p.kind.form.patched p patch) "rules").getD .null).isGiven) = true := by
      cases old : ((p.extras.find? "cases").getD .null).isGiven with
      | false => rfl
      | true =>
        rw [rules]
        cases asked : (FieldName.same "rules").asked? patch with
        | none => simpa [Json.isGiven] using settled.cases c shape old
        | some v =>
          cases given : v.isGiven with
          | true => simpa using given
          | false => exact absurd ⟨sort, old, v, asked, given⟩ rest
    have migrated : Conditional.migrate (p.kind.form.patched p patch) = .ok (p.kind.form.patched p patch) := by
      simp only [Conditional.migrate, patched_cases p noCases, stays, if_true]
    rwa [sort] at migrated ⊢
  · cases made : p.kind with
    | conditional => exact absurd made sort
    | trigger | startFlow | humanApproval | notification | tagMutation | delay | registerEmployee | systemUpdate
    | csvUpload | triggerWorkflow => rfl

omit noCases in
theorem patches_of_migrated {q : Payload Details} (migrated : p.kind.form.migrate (p.kind.form.patched p patch) =
    .ok (p.kind.form.patched p patch)) (merged : p.merge patch s = .ok (q, t)) : p.kind.form.Patches p patch s q := by
  obtain ⟨n, moved, -, read⟩ := Form.decode_obj.mp merged
  rw [← Form.patched, migrated] at moved
  cases moved
  have again := readMembers_own settled .document s
  rw [← members_eq] at again
  exact p.kind.fieldwise.patches settled.free again read

end Patched

-- The rules that stand for old cases, over the field that is switched on with the patch.
def revived (c : Conditional) (patch cases : Members) : Json :=
  .arr (cases.map fun (value, label) =>
    Conditional.ruleOfCase (((FieldName.mk "switchField" "switch_field").asked? patch).getD (.str c.switchField)) value
      label)

-- A payload without the cases that were left beside its fields.
def uncased (p : Payload Details) : Payload Details := { p with extras := p.extras.erase "cases" }

theorem uncased_settled {p : Payload Details} (settled : p.Settled) : p.uncased.Settled where
  free := fun kv mem => settled.free kv (List.mem_filter.mp mem).1
  whole := fun kv mem => settled.whole kv (List.mem_filter.mp mem).1
  cases := by
    intro c shape given
    rw [uncased, Keyed.find?_erase_self] at given
    cases given

theorem members_uncased (p : Payload Details) :
    p.kind.form.members p.uncased = Keyed.erase (p.kind.form.members p) "cases" := by
  have own : Keyed.erase p.own "cases" = p.own := by
    refine List.filter_eq_self.mpr fun kv mem => ?_
    obtain ⟨f, field, same⟩ := own_wire mem
    rw [← same]
    simpa using p.kind.wires_ne_cases f field
  have parts : Keyed.erase (p.own ++ p.extras) "cases" = Keyed.erase p.own "cases" ++ p.extras.erase "cases" :=
    List.filter_append _ _
  rw [members_eq, parts, own]
  exact members_eq p.uncased

-- What is migrated then is what the patch makes of a payload without cases, the rules of the cases standing behind it.
theorem patched_uncased {p : Payload Details} (sort : p.kind = .conditional) {patch : Members}
    (noCases : ∀ kv ∈ patch, kv.1 ≠ "cases") (rules : Json) :
    p.kind.form.patched p.uncased (patch ++ [("rules", rules)]) =
      (Keyed.erase (p.kind.form.patched p patch) "cases").insert "rules" rules := by
  have lacks : ∀ kv ∈ patch.map fun (k, v) => (p.kind.form.wireKey k, v), kv.1 ≠ "cases" := by
    intro kv mem same
    obtain ⟨old, among, rfl⟩ := List.mem_map.mp mem
    have plain := Form.wireKey_of_other p.kind.names_cases old.1
    rw [beq_iff_eq.mpr same] at plain
    exact noCases old among (beq_iff_eq.mp plain.symm)
  have last : p.kind.form.wireKey "rules" = "rules" := by
    rw [sort]
    rfl
  rw [Form.patched_append, last, Form.patched, Form.patched, Keyed.erase_update _ _ lacks, members_uncased]

theorem patches_revived {p q : Payload Details} (settled : p.Settled) {patch : Members}
    (noCases : ∀ kv ∈ patch, kv.1 ≠ "cases") (revives : p.Revives patch) (merged : p.merge patch s = .ok (q, t)) :
    ∃ c cases, p.details = .conditional c ∧ p.extras.find? "cases" = some (.obj cases) ∧
      p.kind.form.Patches p.uncased (patch ++ [("rules", revived c patch cases)]) s q ∧
      q.rules.map Rule.id = cases.map (·.1) := by
  obtain ⟨sort, old, v, asked, cleared⟩ := revives
  obtain ⟨c, shape⟩ := kind_conditional sort
  obtain ⟨n, moved, -, read⟩ := Form.decode_obj.mp merged
  have migrate : p.kind.form.migrate = Conditional.migrate := by
    rw [sort]
    rfl
  cases found : p.extras.find? "cases" with
  | none => simp [found, Json.isGiven] at old
  | some older =>
    simp only [found, Option.getD_some] at old
    rw [← Form.patched, migrate, Conditional.migrate] at moved
    simp only [patched_cases p noCases, patched_rules shape patch, patched_switchField shape patch, found, asked,
      Option.some_or, Option.getD_some, old, cleared] at moved
    cases older with
    | obj cases =>
      have same : n = p.kind.form.patched p.uncased (patch ++ [("rules", revived c patch cases)]) := by
        rw [patched_uncased sort noCases, revived]
        cases moved
        cases (FieldName.mk "switchField" "switch_field").asked? patch <;> rfl
      have again := readMembers_own (uncased_settled settled) .document s
      rw [← members_eq] at again
      refine ⟨c, cases, shape, rfl, ?_, ?_⟩
      · rw [same] at read
        exact p.kind.fieldwise.patches (uncased_settled settled).free again read
      · have made : Keyed.find? n "rules" = some (revived c patch cases) := by
          rw [same, patched_uncased sort noCases, Keyed.find?_insert_self]
        have details := (Form.readMembers_parts read).2.2.2.1
        rw [sort] at details
        obtain ⟨d, inner, same⟩ := Decode.map_parts details
        obtain ⟨_, _, rules, first, listed, rfl⟩ := Decode.seq_parts inner
        obtain ⟨_, _, rfl⟩ := Decode.map_parts first
        have items : Decode.list (Rule.decode .document) (revived c patch cases) _ = .ok (rules, _) :=
          Decode.field_parts (f := .same "rules") made listed
        have rulesOf : q.rules = rules := by rw [Payload.rules, ← same]
        rw [rulesOf]
        exact Conditional.ids_of_cases cases items
    | null | bool _ | int _ | float _ | str _ | arr _ => cases moved

theorem cleared_rules {k : Kind} {p q : Payload Details} {patch : Members} (patches : k.form.Patches p patch s q)
    (conditional : k = .conditional) (sort : q.kind = k)
    (cleared : (FieldName.same "rules").asked? patch = some (.arr [])) : q.rules = [] := by
  subst conditional
  obtain ⟨c, shape⟩ := kind_conditional sort
  have mem : FieldName.same "rules" ∈ Kind.conditional.form.fields := .tail _ (.head _)
  obtain ⟨r, t, read, same⟩ := patches.named _ (List.mem_append_right _ mem) _ cleared
  cases read
  obtain ⟨_, _, _, _, _⟩ := q
  subst shape
  have empty : some (Json.arr (c.rules.map Rule.encode)) = some (.arr []) := same
  simpa [rules] using empty

-- A patch without cases changes exactly what it names, unless it clears rules beside which old cases were left: then
-- the cases are gone, and their rules stand where the patch left none.
theorem merge_patches (patch : Members) (noCases : patch.has "cases" = false) :
    (∀ {k : Kind} {source v s₀ s₁ s t} {p q : Payload Details}, k.form.decode source v s₀ = .ok (p, s₁) →
      p.merge patch s = .ok (q, t) →
      q.kind = k ∧
      (¬ p.Revives patch →
        k.form.Patches p patch s q ∧
        ((∀ f ∈ k.form.allFields, f.asked? patch = none) → q = { p with extras := q.extras }) ∧
        (k = .conditional → (FieldName.same "rules").asked? patch = some (.arr []) → q.rules = [])) ∧
      (p.Revives patch → ∃ c cases, p.details = .conditional c ∧ p.extras.find? "cases" = some (.obj cases) ∧
        k.form.Patches p.uncased (patch ++ [("rules", revived c patch cases)]) s q ∧
        q.rules.map Rule.id = cases.map (·.1))) ∧
    (∀ {source v s₀ s₁ s t} {p q : Payload Unit}, Form.bare.decode source v s₀ = .ok (p, s₁) →
      Form.bare.merge p patch s = .ok (q, t) → Form.bare.Patches p patch s q) := by
  have lacks : ∀ kv ∈ patch, kv.1 ≠ "cases" := by
    intro kv mem same
    exact Bool.false_ne_true (noCases.symm.trans (List.any_eq_true.mpr ⟨kv, mem, beq_iff_eq.mpr same⟩))
  constructor
  · intro k source v s₀ s₁ s t p q decoded merged
    obtain ⟨rfl, settled⟩ := settled_of_decode decoded
    obtain ⟨sort, -⟩ := settled_of_merge merged
    refine ⟨sort, fun rest => ?_, fun revives => patches_revived settled lacks revives merged⟩
    have patches := patches_of_migrated settled (migrate_patched settled lacks rest) merged
    exact ⟨patches, fun silent => eq_of_fields sort fun f mem => patches.unnamed f mem (silent f mem),
      fun conditional => cleared_rules patches conditional sort⟩
  · intro source v s₀ s₁ s t p q decoded merged
    obtain ⟨n, moved, -, read⟩ := Form.decode_obj.mp merged
    cases moved
    have free := Form.free_of_decode decoded
    exact Form.bare_fieldwise.patches free (Form.bare_again free s) read

-- A conditional of one rule, with what else is known of it.
def ruled (extras : Members) : Payload Details :=
  { label := "", delayValue := 0, delayUnit := .minutes, details := .conditional ⟨"", [⟨"a", "", "", .equals, ""⟩]⟩,
    extras := extras }

theorem cleared_and_delayed : ∃ q : Payload Details,
    Kind.conditional.form.Patches (ruled []) [("rules", .arr []), ("delay_value", .int 3)] ⟨fun _ => "", 0⟩ q ∧
      q.rules = [] ∧ q.delayValue = 3 := by
  have decoded : Kind.conditional.form.decode .document (.obj [("rules", .arr [.obj [("id", .str "a")]])])
      ⟨fun _ => "", 0⟩ = .ok (ruled [], ⟨fun _ => "", 0⟩) := rfl
  obtain ⟨-, whole, -⟩ := (merge_patches [("rules", .arr []), ("delay_value", .int 3)] (by decide)).1 decoded
    (q := { ruled [] with delayValue := 3, details := .conditional ⟨"", []⟩ }) (t := ⟨fun _ => "", 0⟩) rfl
  obtain ⟨patches, -, cleared⟩ := whole fun revives => nomatch revives.2.1
  exact ⟨_, patches, cleared rfl rfl, rfl⟩

theorem cleared_rules_return : ¬ ∀ (patch : Members) (p q : Payload Details) (v : Json) (s t : Supply),
    patch.has "cases" = false → p.kind.form.decode .document v s = .ok (p, s) → p.merge patch s = .ok (q, t) →
      p.kind.form.Patches p patch s q ∧
        ((FieldName.same "rules").asked? patch = some (.arr []) → q.rules = []) := by
  intro always
  have decoded : Kind.conditional.form.decode .document
      (.obj [("rules", .arr [.obj [("id", .str "a")]]), ("cases", .obj [("x", .str "X")])]) ⟨fun _ => "", 0⟩ =
        .ok (ruled [("cases", .obj [("x", .str "X")])], ⟨fun _ => "", 0⟩) := rfl
  have back := always [("rules", .arr [])] (ruled [("cases", .obj [("x", .str "X")])])
    { ruled [] with details := .conditional ⟨"", [⟨"x", "X", "", .equals, "x"⟩]⟩ } _ _ ⟨fun _ => "", 0⟩ (by decide)
    decoded rfl
  cases back.2 rfl

end Payload
end Orchestration
