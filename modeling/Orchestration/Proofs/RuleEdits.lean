import Mathlib.Data.List.Nodup
import Orchestration.Proofs.Executable
import Orchestration.Proofs.PayloadPatches

namespace Orchestration

section Middle

-- A list about one of its items.

variable (before : List α) (a : α) (later : List α)

theorem eraseIdx_middle : (before ++ a :: later).eraseIdx before.length = before ++ later := by
  rw [List.eraseIdx_append_of_length_le (Nat.le_refl _), Nat.sub_self, List.eraseIdx_cons_zero]

theorem set_middle (b : α) : (before ++ a :: later).set before.length b = before ++ b :: later := by
  rw [List.set_append_right _ _ (Nat.le_refl _), Nat.sub_self, List.set_cons_zero]

theorem getElem?_middle : (before ++ a :: later)[before.length]? = some a := by
  rw [List.getElem?_append_right (Nat.le_refl _), Nat.sub_self, List.getElem?_cons_zero]

theorem insertIdx_middle : (before ++ later).insertIdx before.length a = before ++ a :: later := by
  induction before with
  | nil => rfl
  | cons b rest ih => rw [List.cons_append, List.length_cons, List.insertIdx_succ_cons, ih, List.cons_append]

end Middle

-- What a patch makes of one member: what is read of the last entry for it, or what was there before.
def Told (read : Json → Decode α) (name : String) (patch : Members) (old new : α) : Prop :=
  match (FieldName.same name).asked? patch with
  | none => new = old
  | some v => ∀ s, read v s = .ok (new, s)

theorem told_exact {m : Members} {read : Json → Decode α} {absent : Decode α} (here : m.find? name = some v)
    (current : ∀ s, read v s = .ok (old, s)) (quiet : ∀ w, Decode.Still (read w)) (patch : Members) :
    Decode.field (m.update patch) (.same name) absent read s = .ok (new, t) ↔ Told read name patch old new ∧ t = s := by
  have found : (m.update patch).find? name = ((FieldName.same name).asked? patch).or (some v) := by
    rw [Keyed.find?_update, Keyed.find?_ofList, here, FieldName.asked?_same]
  unfold Told
  cases asked : (FieldName.same name).asked? patch with
  | none =>
    rw [asked, Option.none_or] at found
    constructor
    · intro decoded
      have same := Decode.field_parts (f := .same name) found decoded
      rw [current s] at same
      cases same
      exact ⟨rfl, rfl⟩
    · rintro ⟨rfl, rfl⟩
      exact Decode.field_ok (f := .same name) found (current _)
  | some w =>
    rw [asked, Option.some_or] at found
    constructor
    · intro decoded
      have read := Decode.field_parts (f := .same name) found decoded
      exact ⟨quiet w s new t read, (quiet w).same read⟩
    · rintro ⟨reads, rfl⟩
      exact Decode.field_ok (f := .same name) found (reads _)

-- What a patch makes of a rule, member by member.
structure Rule.Patched (r : Rule) (patch : Members) (q : Rule) : Prop where
  id : Told Decode.textOrNumber "id" patch r.id q.id
  label : Told Decode.textOrNumber "label" patch r.label q.label
  field : Told Decode.textOrNumber "field" patch r.field q.field
  operator : Told (Decode.choice Comparison.ofTag?) "operator" patch r.operator q.operator
  value : Told Decode.textOrNumber "value" patch r.value q.value

theorem Rule.told_text {r : Rule} (patch : Members) (here : Keyed.find? r.members name = some (.str old))
    (absent : Decode String) :
    Decode.field (Keyed.update r.members patch) (.same name) absent Decode.textOrNumber s = .ok (new, t) ↔
      Told Decode.textOrNumber name patch old new ∧ t = s :=
  told_exact here (fun _ => rfl) Decode.still.textOrNumber patch

-- A rule that is read again has an id, so that none is made up.
theorem RuleEdit.patched_exact {r q : Rule} {patch : Members} :
    patched r patch s = .ok (q, t) ↔ r.Patched patch q ∧ t = s := by
  have operator {u : Supply} {new : Comparison} {t : Supply} : Decode.field (Keyed.update r.members patch)
      (.same "operator") (pure .equals) (Decode.choice Comparison.ofTag?) u = .ok (new, t) ↔
        Told (Decode.choice Comparison.ofTag?) "operator" patch r.operator new ∧ t = u :=
    told_exact rfl (fun _ => Decode.choice_ok (Comparison.ofTag?_tag r.operator)) (Decode.still.choice _) patch
  constructor
  · intro decoded
    obtain ⟨_, _, _, four, value, rfl⟩ := Decode.seq_parts decoded
    obtain ⟨_, _, _, three, compared, rfl⟩ := Decode.seq_parts four
    obtain ⟨_, _, _, two, field, rfl⟩ := Decode.seq_parts three
    obtain ⟨_, _, _, one, label, rfl⟩ := Decode.seq_parts two
    obtain ⟨_, id, rfl⟩ := Decode.map_parts one
    obtain ⟨toldId, rfl⟩ := (Rule.told_text patch rfl _).mp id
    obtain ⟨toldLabel, rfl⟩ := (Rule.told_text patch rfl _).mp label
    obtain ⟨toldField, rfl⟩ := (Rule.told_text patch rfl _).mp field
    obtain ⟨toldOperator, rfl⟩ := operator.mp compared
    obtain ⟨toldValue, rfl⟩ := (Rule.told_text patch rfl _).mp value
    exact ⟨⟨toldId, toldLabel, toldField, toldOperator, toldValue⟩, rfl⟩
  · rintro ⟨⟨id, label, field, compared, value⟩, rfl⟩
    exact Decode.seq_ok (Decode.seq_ok (Decode.seq_ok (Decode.seq_ok (Decode.map_ok
      ((Rule.told_text patch rfl _).mpr ⟨id, rfl⟩)) ((Rule.told_text patch rfl _).mpr ⟨label, rfl⟩))
      ((Rule.told_text patch rfl _).mpr ⟨field, rfl⟩)) (operator.mpr ⟨compared, rfl⟩))
      ((Rule.told_text patch rfl _).mpr ⟨value, rfl⟩)

namespace RuleEdit

theorem names_iff {id : Json} {r : Rule} : names id r = true ↔ id = .str r.id := by
  cases id with
  | str id => rw [names, beq_iff_eq, Json.str.injEq, eq_comm]
  | null | bool _ | int _ | float _ | arr _ | obj _ => simp [names]

theorem place_exact {rules : List Rule} {id : Json} : place rules id = .ok i ↔
    ∃ before r later, rules = before ++ r :: later ∧ before.length = i ∧ id = .str r.id ∧
      r.id ∉ before.map Rule.id := by
  have found : place rules id = .ok i ↔ rules.findIdx? (names id) = some i := by
    unfold place
    cases rules.findIdx? (names id) <;> simp
  rw [found, List.findIdx?_eq_some_iff_getElem]
  constructor
  · rintro ⟨inside, named, first⟩
    rw [names_iff] at named
    refine ⟨rules.take i, rules[i], rules.drop (i + 1), ?_, List.length_take_of_le inside.le, named, ?_⟩
    · rw [List.getElem_cons_drop, List.take_append_drop]
    · intro used
      obtain ⟨q, early, same⟩ := List.mem_map.mp used
      obtain ⟨j, earlier, rfl⟩ := List.mem_take_iff_getElem.mp early
      exact first j (Nat.lt_min.mp earlier).1 (names_iff.mpr (by rw [named, same]))
  · rintro ⟨before, r, later, rfl, rfl, rfl, first⟩
    refine ⟨by simp, by simp [names], ?_⟩
    intro j early named
    rw [List.getElem_append_left early, names_iff, Json.str.injEq] at named
    exact first (List.mem_map.mpr ⟨before[j], List.getElem_mem early, named.symm⟩)

theorem checkFree_exact {rules : List Rule} : checkFree rules handle = .ok () ↔
    handle ≠ Branch.fallbackHandle ∧ handle ∉ rules.map Rule.id := by
  unfold checkFree
  by_cases reserved : handle = Branch.fallbackHandle
  · simp [reserved]
  · simp [reserved]

-- Where an index leads among so many others. An integer, or a truth value as one, is brought within them; a number
-- with a fraction is taken only when it lies without.
def Lands (others : Nat) : Json → Nat → Prop
  | .int n, i => (i : Int) = min (max n 0) others
  | .bool b, i => i = min b.toNat others
  | .float x, i => if (Binary64.ofInt others).lt x then i = others else ¬ Binary64.zero.lt x ∧ i = 0
  | _, _ => False

theorem lands_exact {others : Nat} {index : Json} : indexWithin? others index = some i ↔ Lands others index i := by
  cases index with
  | int n =>
    simp only [indexWithin?, Lands, Option.some.injEq]
    omega
  | bool b => rw [indexWithin?, Lands, Option.some.injEq, eq_comm]
  | float x =>
    simp only [indexWithin?, Lands]
    split
    · simp [eq_comm]
    · split
      · rename_i _ above
        simp [above]
      · rename_i _ below
        simp [below, eq_comm]
  | null | str _ | arr _ | obj _ => simp [indexWithin?, Lands]

theorem lands_within (lands : Lands others index i) : i ≤ others := by
  cases index with
  | int n =>
    simp only [Lands] at lands
    omega
  | bool b => exact lands ▸ Nat.min_le_right _ _
  | float x =>
    simp only [Lands] at lands
    split at lands
    · exact lands.le
    · exact lands.2 ▸ Nat.zero_le _
  | null | str _ | arr _ | obj _ => exact lands.elim

-- What an edit makes of the rules. The rule that an edit names is the first one of its id.
inductive Effect : RuleEdit → List Rule → List Rule → Prop where
  | add : rules.length < Conditional.maxRules → rule.id ≠ Branch.fallbackHandle → rule.id ∉ rules.map Rule.id →
      Effect (.add rule) rules (rules ++ [rule])
  | update {before later : List Rule} : r.id ∉ before.map Rule.id → r.Patched patch q →
      (q.id ≠ r.id → q.id ≠ Branch.fallbackHandle ∧ q.id ∉ (before ++ later).map Rule.id) →
      Effect (.update (.str r.id) patch) (before ++ r :: later) (before ++ q :: later)
  | remove {before later : List Rule} : r.id ∉ before.map Rule.id →
      Effect (.remove (.str r.id)) (before ++ r :: later) (before ++ later)
  | move {before later front back : List Rule} : r.id ∉ before.map Rule.id → before ++ later = front ++ back →
      Lands ((before ++ r :: later).length - 1) index front.length →
      Effect (.move (.str r.id) index) (before ++ r :: later) (front ++ r :: back)

theorem addRule_exact : addRule rules rule = .ok made ↔ Effect (.add rule) rules made := by
  unfold addRule
  split
  · rename_i full
    constructor
    · intro added
      cases added
    · intro effect
      cases effect with
      | add few _ _ => exact absurd few (Nat.not_lt.mpr full)
  · rename_i few
    constructor
    · intro added
      obtain ⟨_, free, appended⟩ := bind_parts added
      obtain ⟨unreserved, unused⟩ := checkFree_exact.mp free
      cases appended
      exact .add (Nat.not_le.mp few) unreserved unused
    · intro effect
      cases effect with
      | add _ unreserved unused =>
        rw [checkFree_exact.mpr ⟨unreserved, unused⟩]
        rfl

theorem updateRule_exact {rules : List Rule} {id : Json} :
    updateRule rules id patch s = .ok (made, t) ↔ Effect (.update id patch) rules made ∧ t = s := by
  constructor
  · intro updated
    obtain ⟨i, placed, rest⟩ := bind_parts updated
    obtain ⟨before, r, later, rfl, rfl, rfl, first⟩ := place_exact.mp (mapError_parts placed)
    rw [getElem?_middle] at rest
    obtain ⟨⟨q, u⟩, loaded, checked⟩ := bind_parts rest
    obtain ⟨patched, rfl⟩ := patched_exact.mp (Decode.load_parts (mapError_parts loaded))
    simp only [eraseIdx_middle, set_middle] at checked
    by_cases other : q.id ≠ r.id
    · rw [if_pos other] at checked
      obtain ⟨_, free, same⟩ := bind_parts checked
      cases same
      exact ⟨.update first patched fun _ => checkFree_exact.mp (mapError_parts free), rfl⟩
    · rw [if_neg other] at checked
      cases checked
      exact ⟨.update first patched fun new => absurd new other, rfl⟩
  · rintro ⟨effect, rfl⟩
    cases effect with
    | @update _ r q before later first patched free =>
      have placed := place_exact.mpr ⟨before, r, later, rfl, rfl, rfl, first⟩
      have loaded : Decode.load Rule.title (RuleEdit.patched r patch) t = .ok (q, t) := by
        rw [Decode.load, patched_exact.mpr ⟨patched, rfl⟩]
      simp only [updateRule, placed, Except.mapError, bind, Except.bind, getElem?_middle, loaded, eraseIdx_middle,
        set_middle]
      by_cases other : q.id ≠ r.id
      · rw [if_pos other, checkFree_exact.mpr (free other)]
        rfl
      · rw [if_neg other]
        rfl

theorem removeRule_exact {rules : List Rule} {id : Json} :
    removeRule rules id = .ok made ↔ Effect (.remove id) rules made := by
  constructor
  · intro removed
    obtain ⟨i, placed, gone⟩ := bind_parts removed
    obtain ⟨before, r, later, rfl, rfl, rfl, first⟩ := place_exact.mp placed
    rw [eraseIdx_middle] at gone
    cases gone
    exact .remove first
  · intro effect
    cases effect with
    | @remove r before later first =>
      rw [removeRule, place_exact.mpr ⟨before, r, later, rfl, rfl, rfl, first⟩, ← eraseIdx_middle before r later]
      rfl

theorem moveRule_exact {rules : List Rule} {id index : Json} :
    moveRule rules id index = .ok made ↔ Effect (.move id index) rules made := by
  have rest (before : List Rule) (r : Rule) (later : List Rule) :
      (before ++ r :: later).length - 1 = (before ++ later).length := by
    simp
  constructor
  · intro moved
    obtain ⟨i, placed, after⟩ := bind_parts moved
    obtain ⟨before, r, later, rfl, rfl, rfl, first⟩ := place_exact.mp (mapError_parts placed)
    simp only [eraseIdx_middle, getElem?_middle] at after
    cases lands : indexWithin? (before ++ later).length index with
    | none =>
      rw [lands] at after
      cases after
    | some i =>
      rw [lands] at after
      cases after
      have lands := lands_exact.mp lands
      have whole := List.take_append_drop i (before ++ later)
      have length : ((before ++ later).take i).length = i := List.length_take_of_le (lands_within lands)
      have inserted := insertIdx_middle ((before ++ later).take i) r ((before ++ later).drop i)
      rw [whole, length] at inserted
      rw [inserted]
      refine .move first whole.symm ?_
      rw [rest, length]
      exact lands
  · intro effect
    cases effect with
    | @move r _ before later front back first others lands =>
      rw [rest] at lands
      have placed := place_exact.mpr ⟨before, r, later, rfl, rfl, rfl, first⟩
      simp only [moveRule, placed, Except.mapError, bind, Except.bind, getElem?_middle, eraseIdx_middle,
        lands_exact.mpr lands]
      rw [others, insertIdx_middle]
      rfl

theorem apply_exact {edit : RuleEdit} : edit.apply rules s = .ok (made, t) ↔ edit.Effect rules made ∧ t = s := by
  cases edit with
  | add rule =>
    constructor
    · intro applied
      obtain ⟨_, added, same⟩ := mapped_parts applied
      cases same
      exact ⟨addRule_exact.mp (mapError_parts added), rfl⟩
    · rintro ⟨effect, rfl⟩
      rw [apply, addRule_exact.mpr effect]
      rfl
  | update id patch => exact updateRule_exact
  | remove id =>
    constructor
    · intro applied
      obtain ⟨_, removed, same⟩ := mapped_parts applied
      cases same
      exact ⟨removeRule_exact.mp (mapError_parts removed), rfl⟩
    · rintro ⟨effect, rfl⟩
      rw [apply, removeRule_exact.mpr effect]
      rfl
  | move id index =>
    constructor
    · intro applied
      obtain ⟨_, moved, same⟩ := mapped_parts applied
      cases same
      exact ⟨moveRule_exact.mp moved, rfl⟩
    · rintro ⟨effect, rfl⟩
      rw [apply, moveRule_exact.mpr effect]
      rfl

end RuleEdit

-- Rules that validation has nothing to say about, but for the field that they switch on.
structure Conditional.Sound (c : Conditional) : Prop where
  few : c.rules.length ≤ Conditional.maxRules
  distinct : (c.rules.map Rule.id).Nodup
  unreserved : ∀ r ∈ c.rules, r.id ≠ Branch.fallbackHandle

namespace Rule

variable {before later : List Rule} {r : Rule}

theorem nodup_middle : ((before ++ r :: later).map Rule.id).Nodup ↔
    r.id ∉ (before ++ later).map Rule.id ∧ ((before ++ later).map Rule.id).Nodup := by
  rw [List.map_append, List.map_cons, List.nodup_middle, ← List.map_append, List.nodup_cons]

theorem mem_middle : key ∈ (before ++ r :: later).map Rule.id ↔
    key = r.id ∨ key ∈ (before ++ later).map Rule.id := by
  rw [List.map_append, List.map_cons, List.perm_middle.mem_iff, List.mem_cons, ← List.map_append]

end Rule

namespace Conditional.Sound

theorem perm (sound : Sound c) (perm : made.Perm c.rules) : Sound { c with rules := made } where
  few := perm.length_eq ▸ sound.few
  distinct := (perm.map Rule.id).nodup_iff.mpr sound.distinct
  unreserved := fun r mem => sound.unreserved r (perm.mem_iff.mp mem)

theorem sublist (sound : Sound c) (part : made.Sublist c.rules) : Sound { c with rules := made } where
  few := part.length_le.trans sound.few
  distinct := sound.distinct.sublist (part.map Rule.id)
  unreserved := fun r mem => sound.unreserved r (part.subset mem)

theorem replace (sound : Sound c) (shape : c.rules = before ++ r :: later)
    (free : q.id ≠ r.id → q.id ≠ Branch.fallbackHandle ∧ q.id ∉ (before ++ later).map Rule.id) :
    Sound { c with rules := before ++ q :: later } := by
  have distinct := sound.distinct
  rw [shape, Rule.nodup_middle] at distinct
  obtain ⟨single, distinct⟩ := distinct
  have unreserved := sound.unreserved
  rw [shape] at unreserved
  have new : q.id ≠ Branch.fallbackHandle ∧ q.id ∉ (before ++ later).map Rule.id := by
    by_cases kept : q.id = r.id
    · rw [kept]
      exact ⟨unreserved r (List.mem_append_right _ List.mem_cons_self), single⟩
    · exact free kept
  refine ⟨?_, ?_, ?_⟩
  · have few := sound.few
    rw [shape, List.length_append] at few
    rw [List.length_append]
    exact few
  · exact Rule.nodup_middle.mpr ⟨new.2, distinct⟩
  · intro p mem
    rcases List.mem_cons.mp (List.perm_middle.mem_iff.mp mem) with rfl | other
    · exact new.1
    · exact unreserved p (List.perm_middle.mem_iff.mpr (List.mem_cons_of_mem _ other))

end Conditional.Sound

namespace RuleEdit

theorem Effect.sound {edit : RuleEdit} {c : Conditional} (effect : edit.Effect c.rules made) (sound : c.Sound) :
    Conditional.Sound { c with rules := made } := by
  obtain ⟨field, rules⟩ := c
  cases effect with
  | add room free unused =>
    refine ⟨?_, ?_, ?_⟩
    · rw [List.length_append]
      exact room
    · rw [List.map_append, List.nodup_append]
      refine ⟨sound.distinct, List.nodup_singleton _, ?_⟩
      rintro _ old _ new rfl
      exact unused (List.mem_singleton.mp new ▸ old)
    · intro r mem
      rcases List.mem_append.mp mem with old | new
      · exact sound.unreserved r old
      · exact List.mem_singleton.mp new ▸ free
  | update _ _ free => exact sound.replace rfl free
  | remove => exact sound.sublist ((List.sublist_cons_self _ _).append_left _)
  | move _ others _ =>
    refine sound.perm (List.perm_middle.trans ?_)
    rw [← others]
    exact List.perm_middle.symm

end RuleEdit

theorem Branch.handles_ofRules {taken : List String} {rules : List Rule} (distinct : (rules.map Rule.id).Nodup)
    (free : ∀ r ∈ rules, r.id ∉ taken) (index : Nat) :
    (ofRules taken index rules).map Branch.handle = rules.map Rule.id := by
  induction rules generalizing taken index with
  | nil => rfl
  | cons r rest ih =>
    rw [List.map_cons, List.nodup_cons] at distinct
    obtain ⟨first, later⟩ := List.forall_mem_cons.mp free
    have unused : taken.contains r.id = false := by simpa using first
    rw [ofRules, unused, if_neg Bool.false_ne_true, List.map_cons, List.map_cons, ih distinct.2]
    intro q mem
    rw [List.mem_cons, not_or]
    exact ⟨fun same => distinct.1 (same ▸ List.mem_map_of_mem mem), later q mem⟩

theorem Conditional.Sound.handles {c : Conditional} (sound : c.Sound) :
    c.branches.map Branch.handle = c.rules.map Rule.id ++ [Branch.fallbackHandle] := by
  rw [branches, List.map_append, Branch.handles_ofRules sound.distinct]
  · rfl
  · intro r mem
    simpa using sound.unreserved r mem

namespace Issue

theorem mem_when {condition : Bool} {i j : Issue} : i ∈ when condition j ↔ condition = true ∧ i = j := by
  cases condition <;> simp [when]

-- What is said about a step is said under its id, and of no edge.
theorem about_ofNode {catalog : Option Catalog} {n : Node} (mem : i ∈ ofNode catalog n) :
    i.nodeId? = some n.id ∧ i.edgeId? = none := by
  rw [ofNode, List.mem_append, mem_when] at mem
  rcases mem with ⟨-, rfl⟩ | mem
  · exact ⟨rfl, rfl⟩
  · cases shape : n.payload.details with
    | startFlow d =>
      simp only [shape, ofDetails, ofStartFlow] at mem
      split at mem
      · cases List.mem_singleton.mp mem
        exact ⟨rfl, rfl⟩
      · cases catalog with
        | none => cases mem
        | some c =>
          obtain ⟨-, rfl⟩ := mem_when.mp mem
          exact ⟨rfl, rfl⟩
    | conditional d =>
      simp only [shape, ofDetails, ofConditional, List.mem_append, mem_when, List.mem_map] at mem
      rcases mem with ((⟨-, rfl⟩ | ⟨-, rfl⟩) | ⟨_, -, rfl⟩) | ⟨-, rfl⟩ <;> exact ⟨rfl, rfl⟩
    | notification d =>
      simp only [shape, ofDetails, ofNotification, List.mem_append, mem_when] at mem
      rcases mem with ⟨-, rfl⟩ | ⟨-, rfl⟩ <;> exact ⟨rfl, rfl⟩
    | triggerWorkflow _ | delay | tagMutation _ =>
      simp only [shape, ofDetails, mem_when] at mem
      obtain ⟨-, rfl⟩ := mem
      exact ⟨rfl, rfl⟩
    | trigger _ | humanApproval _ | registerEmployee _ | systemUpdate _ | csvUpload _ =>
      simp [shape, ofDetails] at mem

def ruleCodes : List String := ["too_many_rules", "duplicate_rule_id", "reserved_rule_id"]

theorem sound_ofNode {catalog : Option Catalog} {n : Node} {c : Conditional}
    (shape : n.payload.details = .conditional c) (sound : c.Sound) (mem : i ∈ ofNode catalog n) :
    i.code ∉ ruleCodes := by
  have few : decide (Conditional.maxRules < c.rules.length) = false := decide_eq_false (Nat.not_lt.mpr sound.few)
  have shared : c.sharedIds = [] := Conditional.sharedIds_eq_nil.mpr sound.distinct
  have reserved : (c.rules.any (·.id == Branch.fallbackHandle)) = false := by
    rw [List.any_eq_false]
    intro r mem
    simpa using sound.unreserved r mem
  rw [ofNode, shape, ofDetails, ofConditional, few, shared, reserved] at mem
  simp only [List.mem_append, mem_when, List.map_nil, List.not_mem_nil, Bool.false_eq_true, false_and, or_false] at mem
  rcases mem with ⟨-, rfl⟩ | ⟨-, rfl⟩ <;> simp [code, ruleCodes]

theorem code_ofEdge {g : Graph} {e : Edge} (mem : i ∈ ofEdge g e) : i.code ∉ ruleCodes := by
  simp only [ofEdge] at mem
  split at mem
  · cases List.mem_singleton.mp mem
    simp [code, ruleCodes]
  · split at mem
    · cases mem
    · split at mem
      · cases mem
      · split at mem
        all_goals
          cases List.mem_singleton.mp mem
          simp [code, ruleCodes]

end Issue

-- Of rules that are sound, validation of the whole graph says nothing.
theorem Graph.issues_sound {g : Graph} (distinct : (g.nodes.map Node.id).Nodup) (present : n ∈ g.nodes)
    (shape : n.payload.details = .conditional c) (sound : c.Sound) (mem : i ∈ g.issues catalog)
    (about : i.nodeId? = some n.id) : i.code ∉ Issue.ruleCodes := by
  have inhabited : g.nodes.isEmpty = false := by
    rw [List.isEmpty_eq_false_iff]
    exact List.ne_nil_of_mem present
  simp only [issues, inhabited, Bool.false_eq_true, if_false, List.mem_append, List.mem_map, List.mem_flatMap] at mem
  rcases mem with ((⟨_, -, rfl⟩ | ⟨_, -, rfl⟩) | ⟨m, other, step⟩) | ⟨e, -, edge⟩
  · simp [Issue.code, Issue.ruleCodes]
  · simp [Issue.code, Issue.ruleCodes]
  · have same : m = n := by
      rw [(Issue.about_ofNode step).1, Option.some.injEq] at about
      exact eq_of_id_eq distinct other present about
    subst same
    exact Issue.sound_ofNode shape sound step
  · exact Issue.code_ofEdge edge

namespace Payload

theorem editRules_exact {p q : Payload Conditional} {edit : RuleEdit} : p.editRules edit s = .ok (q, t) ↔
    edit.Effect p.details.rules q.details.rules ∧
      q = { p with details := { p.details with rules := q.details.rules } } ∧ t = s := by
  constructor
  · intro edited
    obtain ⟨⟨made, u⟩, applied, same⟩ := bind_parts edited
    obtain ⟨effect, rfl⟩ := RuleEdit.apply_exact.mp applied
    cases same
    exact ⟨effect, rfl, rfl⟩
  · rintro ⟨effect, whole, rfl⟩
    rw [editRules, RuleEdit.apply_exact.mpr ⟨effect, rfl⟩, whole]
    rfl

-- A payload after an edit; a refused one leaves it as it was.
def edited (p : Payload Conditional) (edit : RuleEdit) (s : Supply) : Payload Conditional :=
  match p.editRules edit s with
  | .ok (q, _) => q
  | .error _ => p

-- A payload after a run of edits.
def editAll (p : Payload Conditional) (edits : List (RuleEdit × Supply)) : Payload Conditional :=
  edits.foldl (fun p (edit, s) => p.edited edit s) p

theorem edited_sound {p : Payload Conditional} (sound : p.details.Sound) (edit : RuleEdit) (s : Supply) :
    (p.edited edit s).details.Sound := by
  unfold edited
  split
  · rename_i done
    obtain ⟨effect, whole, -⟩ := editRules_exact.mp done
    rw [whole]
    exact effect.sound sound
  · exact sound

theorem editAll_sound {p : Payload Conditional} (sound : p.details.Sound) (edits : List (RuleEdit × Supply)) :
    (p.editAll edits).details.Sound := by
  induction edits generalizing p with
  | nil => exact sound
  | cons first rest ih => exact ih (edited_sound sound first.1 first.2)

theorem edited_beside (p : Payload Conditional) (edit : RuleEdit) (s : Supply) :
    p.edited edit s = { p with details := { p.details with rules := (p.edited edit s).details.rules } } := by
  unfold edited
  split
  · rename_i done
    exact (editRules_exact.mp done).2.1
  · rfl

theorem editAll_beside (p : Payload Conditional) (edits : List (RuleEdit × Supply)) :
    p.editAll edits = { p with details := { p.details with rules := (p.editAll edits).details.rules } } := by
  induction edits generalizing p with
  | nil => rfl
  | cons first rest ih =>
    have later := ih (p.edited first.1 first.2)
    have now := p.edited_beside first.1 first.2
    have step : p.editAll (first :: rest) = (p.edited first.1 first.2).editAll rest := rfl
    rw [step]
    rw [now] at later ⊢
    exact later

-- Rules that are sound stay so through every run of edits, whatever is asked for, so that the branches are the rules in
-- their order and the fallback, and validation finds nothing wrong with them. Each edit does what is said of it to the
-- rules and nothing else, or is refused.
theorem edits_sound {p : Payload Conditional} (sound : p.details.Sound) (edits : List (RuleEdit × Supply)) :
    (p.editAll edits).details.Sound ∧
    (p.editAll edits).details.branches.map Branch.handle =
      (p.editAll edits).details.rules.map Rule.id ++ [Branch.fallbackHandle] ∧
    (∀ (catalog : Option Catalog) (n : Node), n.payload = (p.editAll edits).map .conditional →
      (∀ i ∈ Issue.ofNode catalog n, i.code ∉ ["too_many_rules", "duplicate_rule_id", "reserved_rule_id"]) ∧
      ∀ g : Graph, (g.nodes.map Node.id).Nodup → n ∈ g.nodes → ∀ i ∈ g.issues catalog, i.nodeId? = some n.id →
        i.code ∉ ["too_many_rules", "duplicate_rule_id", "reserved_rule_id"]) ∧
    p.editAll edits = { p with details := { p.details with rules := (p.editAll edits).details.rules } } ∧
    (∀ (q r : Payload Conditional) (edit : RuleEdit) (s t : Supply), q.editRules edit s = .ok (r, t) ↔
      edit.Effect q.details.rules r.details.rules ∧
        r = { q with details := { q.details with rules := r.details.rules } } ∧ t = s) := by
  have kept := editAll_sound sound edits
  refine ⟨kept, kept.handles, ?_, p.editAll_beside edits, fun _ _ _ _ _ => editRules_exact⟩
  intro catalog n payload
  have shape := congrArg Payload.details payload
  exact ⟨fun _ mem => Issue.sound_ofNode shape kept mem,
    fun _ distinct present _ mem about => Graph.issues_sound distinct present shape kept mem about⟩

-- Two rules, of which the first is put behind the second and renamed. Adding it again is refused.
def paired : Payload Conditional :=
  { label := "", delayValue := 0, delayUnit := .minutes, extras := [],
    details := ⟨"", [⟨"a", "", "", .equals, ""⟩, ⟨"b", "", "", .equals, ""⟩]⟩ }

def pairedEdits : List (RuleEdit × Supply) :=
  [(.move (.str "a") (.int 7), ⟨fun _ => "", 0⟩), (.update (.str "a") [("id", .int 3)], ⟨fun _ => "", 0⟩),
    (.add ⟨"3", "", "", .equals, ""⟩, ⟨fun _ => "", 0⟩)]

theorem paired_edited : (paired.editAll pairedEdits).details.Sound ∧
    (paired.editAll pairedEdits).details.branches.map Branch.handle = ["b", "3", "else-handle"] := by
  have sound : paired.details.Sound := ⟨by decide, by decide, by decide⟩
  obtain ⟨kept, handles, -⟩ := edits_sound sound pairedEdits
  refine ⟨kept, handles.trans ?_⟩
  decide +kernel

end Payload

end Orchestration
