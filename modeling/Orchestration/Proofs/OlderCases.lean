import Orchestration.Proofs.BranchReaders
import Orchestration.Proofs.NodeConstruction

namespace Orchestration

-- The rule of a case: its value, and the label that stands under it.
def Rule.ofCase (field : String) (case : String × Json) : Rule := ⟨case.1, Json.shown case.2, field, .equals, case.1⟩

theorem eraseDups_of_nodup {xs : List String} (distinct : xs.Nodup) : xs.eraseDups = xs := by
  induction xs with
  | nil => rfl
  | cons x rest ih =>
    obtain ⟨first, later⟩ := List.nodup_cons.mp distinct
    have apart : rest.filter (fun y => !y == x) = rest := by
      rw [List.filter_eq_self]
      intro y mem
      have other : y ≠ x := fun same => first (same ▸ mem)
      simpa using other
    rw [List.eraseDups_cons, apart, ih later]

theorem Decode.text_parts {v : Json} (decoded : text v s = .ok (a, t)) : v = .str a ∧ s = t := by
  cases v with
  | str _ =>
    cases decoded
    exact ⟨rfl, rfl⟩
  | null | bool _ | int _ | float _ | arr _ | obj _ => cases decoded

-- A text that may be absent is the one under the written name of its field, else the one under the plain name.
theorem Decode.field_text {m : Members} {f : FieldName}
    (decoded : field m f (pure a) text s = .ok (b, t)) :
    (m.find? f.wire).getD ((m.find? f.plain).getD (.str a)) = .str b ∧ s = t := by
  unfold field FieldName.given? at decoded
  cases wire : m.find? f.wire with
  | some v =>
    rw [wire] at decoded
    exact text_parts (under_eq_ok.mp decoded)
  | none =>
    rw [wire] at decoded
    cases plain : m.find? f.plain with
    | some v =>
      rw [plain] at decoded
      exact text_parts (under_eq_ok.mp decoded)
    | none =>
      rw [plain] at decoded
      cases decoded
      exact ⟨rfl, rfl⟩

namespace Conditional

-- What names the field of a conditional: what stands under the written name, else what stands under the plain one.
def fieldOf (m : Members) : Json := (m.find? "switchField").getD ((m.find? "switch_field").getD (.str ""))

-- The members in today's shape.
def renewed (m cases : Members) : Members :=
  (m.erase "cases").insert "rules" (.arr (cases.map fun (value, label) => ruleOfCase (fieldOf m) value label))

-- The handles of rules that were made of cases.
theorem handles_of_cases {cases : Members} (distinct : (cases.map (·.1)).Nodup) {c : Conditional}
    (rules : c.rules = cases.map (Rule.ofCase c.switchField)) :
    c.branches.map Branch.handle = (cases.map (·.1)).filter (· != Branch.fallbackHandle) ++ [Branch.fallbackHandle] := by
  have ids : c.rules.map Rule.id = cases.map (·.1) := by
    rw [rules, List.map_map]
    rfl
  rw [c.lists.handles, ids, eraseDups_of_nodup (distinct.filter _)]

section Decoded

variable {m : Members} {p : Payload Details} {source : Source} {s t : Supply}

theorem read_parts (read : Kind.conditional.form.readMembers source m s = .ok (p, t)) :
    ∃ c, p.details = .conditional c ∧ fieldOf m = .str c.switchField ∧
      Decode.field m (.same "rules") (pure []) (Decode.list (Rule.decode source)) s = .ok (c.rules, t) := by
  obtain ⟨c, inner, same⟩ := Decode.map_parts (Form.readMembers_parts read).2.2.2.1
  obtain ⟨_, _, _, first, rules, rfl⟩ := Decode.seq_parts inner
  obtain ⟨_, named, rfl⟩ := Decode.map_parts first
  obtain ⟨field, rfl⟩ := Decode.field_text named
  exact ⟨_, same.symm, field, rules⟩

theorem rules_of_renewed {cases : Members}
    (read : Kind.conditional.form.readMembers source (renewed m cases) s = .ok (p, t)) :
    ∃ c, p.details = .conditional c ∧ fieldOf m = .str c.switchField ∧ c.rules = cases.map (Rule.ofCase c.switchField) := by
  obtain ⟨c, shape, field, rules⟩ := read_parts read
  have same : fieldOf (renewed m cases) = fieldOf m := by
    simp only [fieldOf, renewed]
    rw [Keyed.find?_insert_of_ne _ _ (by decide), Keyed.find?_insert_of_ne _ _ (by decide),
      Keyed.find?_erase_of_ne _ (by decide), Keyed.find?_erase_of_ne _ (by decide)]
  rw [same] at field
  have listed := Decode.field_parts (f := .same "rules") (Keyed.find?_insert_self _ _ _) rules
  have made : cases.map (fun (value, label) => ruleOfCase (fieldOf m) value label) =
      (cases.map (Rule.ofCase c.switchField)).map Rule.encode := by
    rw [List.map_map, field]
    rfl
  rw [made, Rule.decode_list] at listed
  exact ⟨c, shape, field, (congrArg Prod.fst (Except.ok.inj listed)).symm⟩

end Decoded

end Conditional

namespace Payload

-- A conditional whose rules were made of cases: one rule for each, in their order, and nothing is left of the cases. Its
-- branches are the cases and the fallback, and an edge that leaves it through a case is one of which nothing is said.
structure RuledBy (p : Payload Details) (m cases : Members) : Prop where
  rules : ∃ c, p.details = .conditional c ∧ Conditional.fieldOf m = .str c.switchField ∧
    c.rules = cases.map (Rule.ofCase c.switchField)
  gone : p.extras.find? "cases" = none
  branches : (cases.map (·.1)).Nodup → ∀ n : Node, n.payload = p → n.branches.map Branch.handle =
    (cases.map (·.1)).filter (· != Branch.fallbackHandle) ++ [Branch.fallbackHandle]
  resolves : ∀ (g : Graph) (e : Edge) (n : Node), g.joins e = true → g.lastNode? e.source = some n → n.payload = p →
    (∃ case ∈ cases, e.sourceHandle = some case.1) → Issue.ofEdge g e = []

-- A conditional that was given rules has them as they are read on their own, so rules that were written come back.
-- Cases beside them are carried along, and without them all else is the same.
structure KeepsRules (p : Payload Details) (source : Source) (m : Members) (given : Json) (s t : Supply) : Prop where
  rules : ∃ c, p.details = .conditional c ∧ Decode.list (Rule.decode source) given s = .ok (c.rules, t)
  written : ∀ rules : List Rule, given = .arr (rules.map Rule.encode) → p.rules = rules
  carried : p.extras.find? "cases" = m.find? "cases"
  alone : Kind.conditional.form.decode source (.obj (m.erase "cases")) s = .ok (p.without "cases", t)

variable {m : Members} {p : Payload Details} {source : Source} {s t : Supply}

theorem ruledBy_of_decode {cases : Members} (older : m.find? "cases" = some (.obj cases)) (some : cases ≠ [])
    (unruled : ((m.find? "rules").getD .null).isGiven = false)
    (decoded : Kind.conditional.form.decode source (.obj m) s = .ok (p, t)) : p.RuledBy m cases := by
  obtain ⟨n, migrated, -, read⟩ := Form.decode_obj.mp decoded
  have given : (Json.obj cases).isGiven = true := by simpa [Json.isGiven] using some
  have renewed : n = Conditional.renewed m cases := by
    simp only [Kind.form, Form.lift, Conditional.form, Conditional.migrate, older, Option.getD_some, given, unruled]
      at migrated
    cases migrated
    rfl
  subst renewed
  obtain ⟨c, shape, field, rules⟩ := Conditional.rules_of_renewed read
  refine ⟨⟨c, shape, field, rules⟩, ?_, ?_, ?_⟩
  · rw [(Form.readMembers_parts read).2.2.2.2, Members.find?_extras _ Kind.conditional.names_ne_cases,
      Conditional.renewed, Keyed.find?_insert_of_ne _ _ (by decide), Keyed.find?_erase_self]
  · rintro distinct n rfl
    rw [Node.branches_of_conditional shape]
    exact Conditional.handles_of_cases distinct rules
  · rintro g e n joined last rfl ⟨case, mem, handle⟩
    rw [Graph.ofEdge_accepted joined last, Node.accepts_iff, shape, Details.resolves_conditional]
    refine ⟨case.1, handle, .inr ?_⟩
    rw [rules, List.map_map]
    exact List.mem_map_of_mem (f := Rule.id ∘ Rule.ofCase c.switchField) mem

theorem keepsRules_of_decode {given : Json} (ruled : m.find? "rules" = some given) (some : given.isGiven = true)
    (decoded : Kind.conditional.form.decode source (.obj m) s = .ok (p, t)) : p.KeepsRules source m given s t := by
  obtain ⟨n, migrated, whole, read⟩ := Form.decode_obj.mp decoded
  have stays : n = m := by
    simp only [Kind.form, Form.lift, Conditional.form, Conditional.migrate, ruled, Option.getD_some, some,
      Bool.or_true, if_true] at migrated
    cases migrated
    rfl
  subst stays
  obtain ⟨c, shape, -, rules⟩ := Conditional.read_parts read
  have listed := Decode.field_parts (f := .same "rules") ruled rules
  refine ⟨⟨c, shape, listed⟩, ?_, ?_, ?_⟩
  · rintro written rfl
    rw [Rule.decode_list] at listed
    rw [Payload.rules, shape]
    exact (congrArg Prod.fst (Except.ok.inj listed)).symm
  · rw [(Form.readMembers_parts read).2.2.2.2, Members.find?_extras _ Kind.conditional.names_ne_cases]
  · have migrated : Kind.conditional.form.migrate (n.erase "cases") = .ok (n.erase "cases") := by
      simp only [Kind.form, Form.lift, Conditional.form, Conditional.migrate, Keyed.find?_erase_self]
      rfl
    have legible : ((n.erase "cases").any fun (key, _) => Text.hasHalf key) = false := by
      have named : Text.hasHalf "cases" = false := by decide
      rwa [Keyed.any_erase n fun _ => named]
    refine Form.decode_obj.mpr ⟨_, migrated, legible, ?_⟩
    rw [Kind.readMembers_erase _ source n Kind.conditional.names_ne_cases, read]
    rfl

-- Cases are read as rules exactly where no rules are given, and rules that are given stay as they are.
theorem cases_become_rules (decoded : Kind.conditional.form.decode source (.obj m) s = .ok (p, t)) :
    (∀ cases, m.find? "cases" = some (.obj cases) → cases ≠ [] →
      ((m.find? "rules").getD .null).isGiven = false → p.RuledBy m cases) ∧
    ∀ given, m.find? "rules" = some given → given.isGiven = true → p.KeepsRules source m given s t :=
  ⟨fun _ older some unruled => ruledBy_of_decode older some unruled decoded,
    fun _ ruled some => keepsRules_of_decode ruled some decoded⟩

-- Cases under both names of the field, with no label, a label that is no text and the handle of the fallback.
def seasons : Members := [("summer", .str ""), ("else-handle", .str "Any"), ("winter", .null)]

-- The members of a conditional with such cases, and with rules beside them or none.
def seasonal (rules : List Rule) : Members :=
  [("switch_field", .str "month"), ("switchField", .str "season"), ("cases", .obj seasons),
    ("rules", .arr (rules.map Rule.encode))]

def seasonalPayload (rules : List Rule) (extras : Members) : Payload Details :=
  ⟨"", 0, .minutes, .conditional ⟨"season", rules⟩, ("switch_field", .str "month") :: extras⟩

theorem seasonal_ruled : (seasonalPayload [⟨"summer", "", "season", .equals, "summer"⟩,
      ⟨"else-handle", "Any", "season", .equals, "else-handle"⟩,
      ⟨"winter", "None", "season", .equals, "winter"⟩] []).RuledBy (seasonal []) seasons ∧
    (seasonalPayload [plainRule "a"] [("cases", .obj seasons)]).KeepsRules .document (seasonal [plainRule "a"])
      (.arr [(plainRule "a").encode]) ⟨fun _ => "", 0⟩ ⟨fun _ => "", 0⟩ := by
  let s : Supply := ⟨fun _ => "", 0⟩
  have older : Kind.conditional.form.decode .document (.obj (seasonal [])) s = .ok (seasonalPayload
      [⟨"summer", "", "season", .equals, "summer"⟩, ⟨"else-handle", "Any", "season", .equals, "else-handle"⟩,
        ⟨"winter", "None", "season", .equals, "winter"⟩] [], s) := rfl
  have beside : Kind.conditional.form.decode .document (.obj (seasonal [plainRule "a"])) s =
      .ok (seasonalPayload [plainRule "a"] [("cases", .obj seasons)], s) := rfl
  obtain ⟨ruled, -⟩ := cases_become_rules older
  obtain ⟨-, keeps⟩ := cases_become_rules beside
  exact ⟨ruled _ rfl (by decide) rfl, keeps _ rfl rfl⟩

end Payload
end Orchestration
