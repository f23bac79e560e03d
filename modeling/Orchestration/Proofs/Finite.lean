import Orchestration.Json.Value

namespace Orchestration.Json

theorem finiteItems_eq_map (items : List Json) : finiteItems items = items.map finiteOnly := by
  induction items with
  | nil => rfl
  | cons v rest ih => rw [finiteItems, ih, List.map_cons]

theorem finiteMembers_eq_map (m : Members) : finiteMembers m = m.map fun (key, v) => (key, v.finiteOnly) := by
  induction m with
  | nil => rfl
  | cons kv rest ih => rw [finiteMembers, ih, List.map_cons]

theorem finiteMembers_keys (m : Members) : (finiteMembers m).map (·.1) = m.map (·.1) := by
  rw [finiteMembers_eq_map, List.map_map]
  rfl

theorem finiteMembers_append (m more : Members) :
    finiteMembers (m ++ more) = finiteMembers m ++ finiteMembers more := by
  rw [finiteMembers_eq_map, finiteMembers_eq_map, finiteMembers_eq_map, List.map_append]

theorem find?_finiteMembers (m : Members) (key : String) :
    Keyed.find? (finiteMembers m) key = (m.find? key).map finiteOnly := by
  induction m with
  | nil => rfl
  | cons kv rest ih =>
    obtain ⟨k, v⟩ := kv
    simp only [Keyed.find?, finiteMembers, List.lookup_cons] at ih ⊢
    cases key == k with
    | true => rfl
    | false => exact ih

theorem membersFinite_iff {m : Members} : membersFinite m = true ↔ ∀ kv ∈ m, kv.2.isFinite = true := by
  induction m with
  | nil => simp [membersFinite]
  | cons kv rest ih => rw [membersFinite, Bool.and_eq_true, ih, List.forall_mem_cons]

theorem itemsFinite_iff {items : List Json} : itemsFinite items = true ↔ ∀ v ∈ items, v.isFinite = true := by
  induction items with
  | nil => simp [itemsFinite]
  | cons v rest ih => rw [itemsFinite, Bool.and_eq_true, ih, List.forall_mem_cons]

mutual
theorem finiteOnly_isFinite : ∀ v : Json, v.finiteOnly.isFinite = true
  | .float x => by
    rw [finiteOnly]
    cases finite : x.isFinite with
    | true => simpa [isFinite] using finite
    | false => rfl
  | .arr items => by
    rw [finiteOnly, isFinite]
    exact finiteItems_isFinite items
  | .obj m => by
    rw [finiteOnly, isFinite]
    exact finiteMembers_isFinite m
  | .null | .bool _ | .int _ | .str _ => rfl

theorem finiteItems_isFinite : ∀ items : List Json, itemsFinite (finiteItems items) = true
  | [] => rfl
  | v :: rest => by
    rw [finiteItems, itemsFinite, finiteOnly_isFinite v, finiteItems_isFinite rest]
    rfl

theorem finiteMembers_isFinite : ∀ m : List (String × Json), membersFinite (finiteMembers m) = true
  | [] => rfl
  | (_, v) :: rest => by
    rw [finiteMembers, membersFinite, finiteOnly_isFinite v, finiteMembers_isFinite rest]
    rfl
end

mutual
theorem finiteOnly_of_isFinite : ∀ v : Json, v.isFinite = true → v.finiteOnly = v
  | .float _, finite => if_pos finite
  | .arr items, finite => congrArg Json.arr (finiteItems_of_isFinite items finite)
  | .obj m, finite => congrArg Json.obj (finiteMembers_of_isFinite m finite)
  | .null, _ | .bool _, _ | .int _, _ | .str _, _ => rfl

theorem finiteItems_of_isFinite : ∀ items : List Json, itemsFinite items = true → finiteItems items = items
  | [], _ => rfl
  | v :: rest, finite => by
    rw [itemsFinite, Bool.and_eq_true] at finite
    rw [finiteItems, finiteOnly_of_isFinite v finite.1, finiteItems_of_isFinite rest finite.2]

theorem finiteMembers_of_isFinite :
    ∀ m : List (String × Json), membersFinite m = true → finiteMembers m = m
  | [], _ => rfl
  | (_, v) :: rest, finite => by
    rw [membersFinite, Bool.and_eq_true] at finite
    rw [finiteMembers, finiteOnly_of_isFinite v finite.1, finiteMembers_of_isFinite rest finite.2]
end

theorem finiteMembers_eq_self {m : Members} : finiteMembers m = m ↔ membersFinite m = true :=
  ⟨fun same => same ▸ finiteMembers_isFinite m, finiteMembers_of_isFinite m⟩

theorem finiteMembers_idem (m : Members) : finiteMembers (finiteMembers m) = finiteMembers m :=
  finiteMembers_eq_self.mpr (finiteMembers_isFinite m)

theorem isGiven_of_finiteOnly {v : Json} (given : v.finiteOnly.isGiven = true) : v.isGiven = true := by
  cases v with
  | float x =>
    cases finite : x.isFinite with
    | true => simpa [finiteOnly, finite] using given
    | false => simp [finiteOnly, finite, isGiven] at given
  | arr items =>
    rw [finiteOnly, finiteItems_eq_map] at given
    simpa [isGiven] using given
  | obj m =>
    rw [finiteOnly, finiteMembers_eq_map] at given
    simpa [isGiven] using given
  | null | bool _ | int _ | str _ => exact given

theorem finite_texts (texts : List String) : itemsFinite (texts.map Json.str) = true := by
  rw [itemsFinite_iff]
  intro v mem
  obtain ⟨_, _, rfl⟩ := List.mem_map.mp mem
  rfl

theorem finite_ofText (o : Option String) : (ofText? o).isFinite = true := by
  cases o <;> rfl

theorem finite_ofInt (o : Option Int) : (ofInt? o).isFinite = true := by
  cases o <;> rfl

theorem finiteOnly_ofText (o : Option String) : (ofText? o).finiteOnly = ofText? o :=
  finiteOnly_of_isFinite _ (finite_ofText o)

theorem finiteOnly_ofInt (o : Option Int) : (ofInt? o).finiteOnly = ofInt? o :=
  finiteOnly_of_isFinite _ (finite_ofInt o)

-- What is written without such numbers stays as it is.
theorem finiteItems_written {xs : List α} {write : α → Json}
    (each : ∀ x ∈ xs, (write x).finiteOnly = write x) : finiteItems (xs.map write) = xs.map write := by
  rw [finiteItems_eq_map, List.map_map]
  exact List.map_congr_left each

theorem finiteMembers_written {m : Keyed α} {write : α → Json}
    (each : ∀ kv ∈ m, (write kv.2).finiteOnly = write kv.2) :
    finiteMembers (m.map fun (key, a) => (key, write a)) = m.map fun (key, a) => (key, write a) := by
  rw [finiteMembers_eq_map, List.map_map]
  exact List.map_congr_left fun kv mem => congrArg (Prod.mk kv.1) (each kv mem)

end Orchestration.Json
