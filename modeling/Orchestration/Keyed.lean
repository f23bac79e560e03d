namespace Orchestration

-- Values under keys. Every operation here keeps keys distinct if they are distinct.
abbrev Keyed (α : Type) := List (String × α)

namespace Keyed

def find? (m : Keyed α) (key : String) : Option α := m.lookup key

def has (m : Keyed α) (key : String) : Bool := m.any (·.1 == key)

-- Sets a value: in its place if the key is there, else at the end.
def insert (m : Keyed α) (key : String) (value : α) : Keyed α :=
  match m with
  | [] => [(key, value)]
  | (k, v) :: rest => if k == key then (k, value) :: rest else (k, v) :: insert rest key value

def erase (m : Keyed α) (key : String) : Keyed α := m.filter (·.1 != key)

-- Sets the values of another list one after the other.
def update (m : Keyed α) (more : Keyed α) : Keyed α :=
  more.foldl (fun acc (k, v) => acc.insert k v) m

-- The list in which a later value for a key takes the place of an earlier one.
def ofList (m : List (String × α)) : Keyed α := update [] m

theorem find?_insert_self (m : Keyed α) (key : String) (value : α) :
    (m.insert key value).find? key = some value := by
  induction m with
  | nil => simp [insert, find?]
  | cons kv rest ih =>
    obtain ⟨k, v⟩ := kv
    by_cases h : k = key
    · subst h; simp [insert, find?]
    · have h' : (key == k) = false := by simp; exact fun e => h e.symm
      have h'' : (k == key) = false := by simpa using h
      simp only [insert, h'', Bool.false_eq_true, if_false]
      simp only [find?, List.lookup_cons, h'] at ih ⊢
      exact ih

theorem find?_insert_of_ne (m : Keyed α) {key other : String} (value : α) (h : other ≠ key) :
    (m.insert key value).find? other = m.find? other := by
  induction m with
  | nil =>
    have : (other == key) = false := by simpa using h
    simp [insert, find?, List.lookup_cons, this]
  | cons kv rest ih =>
    obtain ⟨k, v⟩ := kv
    by_cases hk : k = key
    · subst hk
      have : (other == k) = false := by simpa using h
      simp [insert, find?, List.lookup_cons, this]
    · have h'' : (k == key) = false := by simpa using hk
      simp only [insert, h'', Bool.false_eq_true, if_false, find?, List.lookup_cons] at ih ⊢
      cases other == k <;> simp_all

theorem find?_insert (m : Keyed α) (key other : String) (value : α) :
    (m.insert key value).find? other = (find? [(key, value)] other).or (m.find? other) := by
  by_cases same : other = key
  · rw [same, find?_insert_self]
    simp [find?]
  · have unequal : (other == key) = false := by simpa using same
    rw [find?_insert_of_ne m value same]
    simp [find?, List.lookup_cons, unequal]

theorem find?_update (m more : Keyed α) (key : String) :
    (m.update more).find? key = ((ofList more).find? key).or (m.find? key) := by
  induction more generalizing m with
  | nil => rfl
  | cons kv rest ih =>
    have step : ∀ n : Keyed α, n.update (kv :: rest) = (n.insert kv.1 kv.2).update rest := fun _ => rfl
    rw [ofList, step, step, ih, ih, find?_insert m, find?_insert [], Option.or_assoc, Option.or_assoc]
    rfl

theorem find?_erase_self (m : Keyed α) (key : String) : (m.erase key).find? key = none := by
  rw [find?, List.lookup_eq_none_iff]
  intro kv h
  have := (List.mem_filter.1 h).2
  grind

theorem keys_insert_of_has (m : Keyed α) (key : String) (value : α) (h : m.has key = true) :
    (m.insert key value).map (·.1) = m.map (·.1) := by
  induction m with
  | nil => simp [has] at h
  | cons kv rest ih =>
    obtain ⟨k, v⟩ := kv
    by_cases hk : k = key
    · subst hk; simp [insert]
    · have h'' : (k == key) = false := by simpa using hk
      simp only [has, List.any_cons, h'', Bool.false_or] at h
      simp [insert, h'', ih h]

theorem erase_of_not_has {m : Keyed α} (lacks : ¬ m.has key = true) : m.erase key = m := by
  rw [erase, List.filter_eq_self]
  intro kv mem
  rw [has, List.any_eq_true] at lacks
  simpa using fun same => lacks ⟨kv, mem, same⟩

theorem mem_of_find? {m : Keyed α} (found : m.find? k = some v) : (k, v) ∈ m := by
  obtain ⟨before, after, rfl, _⟩ := List.lookup_eq_some_iff.mp found
  exact List.mem_append_right _ List.mem_cons_self

theorem find?_of_mem {m : Keyed α} (distinct : (m.map (·.1)).Nodup) (mem : (k, v) ∈ m) :
    m.find? k = some v := by
  obtain ⟨before, after, rfl⟩ := List.append_of_mem mem
  refine List.lookup_eq_some_iff.mpr ⟨before, after, rfl, ?_⟩
  intro kv early
  rw [List.map_append, List.nodup_append] at distinct
  have other := distinct.2.2 kv.1 (List.mem_map_of_mem early) k List.mem_cons_self
  simpa using other.symm

theorem find?_of_perm {m n : Keyed α} (perm : m.Perm n) (distinct : (m.map (·.1)).Nodup) (key : String) :
    m.find? key = n.find? key := by
  cases found : n.find? key with
  | some v => exact find?_of_mem distinct (perm.mem_iff.mpr (mem_of_find? found))
  | none =>
    cases missed : m.find? key with
    | none => rfl
    | some v =>
      have present := find?_of_mem ((perm.map _).nodup distinct) (perm.mem_iff.mp (mem_of_find? missed))
      rw [found] at present
      cases present

theorem find?_append (m more : Keyed α) (key : String) :
    Keyed.find? (m ++ more) key = (m.find? key).or (Keyed.find? more key) := List.lookup_append

theorem find?_eq_none {m : Keyed α} {key : String} : m.find? key = none ↔ ∀ kv ∈ m, kv.1 ≠ key := by
  rw [find?, List.lookup_eq_none_iff]
  constructor
  · exact fun apart kv mem => (bne_iff_ne.mp (apart kv mem)).symm
  · exact fun apart kv mem => bne_iff_ne.mpr (apart kv mem).symm

theorem has_eq_isSome (m : Keyed α) (key : String) : m.has key = (m.find? key).isSome := by
  rw [Bool.eq_iff_iff, Option.isSome_iff_ne_none, ne_eq, find?_eq_none, has, List.any_eq_true]
  simp only [beq_iff_eq, Classical.not_forall, Classical.not_not, exists_prop]

theorem find?_append_of_mem {m : Keyed α} (distinct : (m.map (·.1)).Nodup)
    (mem : (k, v) ∈ m) (more : Keyed α) : Keyed.find? (m ++ more) k = some v := by
  rw [find?_append, find?_of_mem distinct mem, Option.some_or]

theorem find?_append_of_not_mem {m : Keyed α} (lacks : ∀ kv ∈ m, kv.1 ≠ k) (more : Keyed α) :
    Keyed.find? (m ++ more) k = Keyed.find? more k := by
  rw [find?_append, find?_eq_none.mpr lacks, Option.none_or]

theorem find?_ofList (m : Keyed α) (key : String) : (ofList m).find? key = Keyed.find? m.reverse key := by
  have last : ∀ more n : Keyed α, (n.update more).find? key = (Keyed.find? more.reverse key).or (n.find? key) := by
    intro more
    induction more with
    | nil => exact fun _ => rfl
    | cons kv rest ih =>
      intro n
      have step : n.update (kv :: rest) = (n.insert kv.1 kv.2).update rest := rfl
      rw [step, ih, find?_insert, List.reverse_cons, find?_append, Option.or_assoc]
  rw [ofList, last]
  exact Option.or_none

theorem find?_renamed (m : Keyed α) (rename : String → String) (key : String) :
    Keyed.find? (m.map fun (k, v) => (rename k, v)) key = (List.find? (fun kv => rename kv.1 == key) m).map (·.2) := by
  induction m with
  | nil => rfl
  | cons kv rest ih =>
    obtain ⟨k, v⟩ := kv
    rw [List.map_cons, find?, List.lookup_cons, List.find?_cons]
    by_cases same : rename k = key
    · simp [same]
    · have unequal : (key == rename k) = false := by simpa using Ne.symm same
      have other : (rename k == key) = false := by simpa using same
      simp only [unequal, other]
      exact ih

theorem find?_filter {m : Keyed α} {p : String → Bool} (kept : p k = true) :
    Keyed.find? (m.filter fun kv => p kv.1) k = m.find? k := by
  induction m with
  | nil => rfl
  | cons kv rest ih =>
    obtain ⟨key, value⟩ := kv
    by_cases same : k = key
    · subst same
      simp [Keyed.find?, kept]
    · have unequal : (k == key) = false := by simpa using same
      simp only [Keyed.find?] at ih
      by_cases chosen : p key = true <;> simp [Keyed.find?, chosen, List.lookup_cons, unequal, ih]

theorem find?_erase_of_ne (m : Keyed α) {key other : String} (different : other ≠ key) :
    (m.erase key).find? other = m.find? other :=
  find?_filter (p := fun k => k != key) (by simpa using different)

theorem has_erase_of_ne (m : Keyed α) {key other : String} (different : other ≠ key) :
    (m.erase key).has other = m.has other := by
  rw [Bool.eq_iff_iff]
  simp only [has, erase, List.any_eq_true, List.mem_filter, beq_iff_eq, bne_iff_ne]
  constructor
  · rintro ⟨kv, ⟨mem, _⟩, same⟩
    exact ⟨kv, mem, same⟩
  · rintro ⟨kv, mem, rfl⟩
    exact ⟨kv, ⟨mem, different⟩, rfl⟩

theorem any_erase (m : Keyed α) {key : String} {p : String × α → Bool} (lacks : ∀ v, p (key, v) = false) :
    (m.erase key).any p = m.any p := by
  rw [erase, List.any_filter]
  refine congrArg m.any (funext fun kv => ?_)
  obtain ⟨k, v⟩ := kv
  by_cases same : k = key
  · subst same
    simp [lacks v]
  · simp [same]

theorem erase_comm (m : Keyed α) (key other : String) : (m.erase key).erase other = (m.erase other).erase key := by
  simp only [erase, List.filter_filter, Bool.and_comm]

theorem erase_insert (m : Keyed α) {key other : String} (different : other ≠ key) (v : α) :
    (m.insert other v).erase key = (m.erase key).insert other v := by
  induction m with
  | nil => simp [insert, erase, different]
  | cons kv rest ih =>
    obtain ⟨k, w⟩ := kv
    simp only [erase] at ih ⊢
    by_cases same : k = other
    · subst same
      simp [insert, different]
    · by_cases gone : k = key
      · subst gone
        simp [insert, same, ih]
      · simp [insert, same, gone, ih]

theorem erase_update (m more : Keyed α) {key : String} (lacks : ∀ kv ∈ more, kv.1 ≠ key) :
    (m.update more).erase key = (m.erase key).update more := by
  induction more generalizing m with
  | nil => rfl
  | cons kv rest ih =>
    have step : ∀ n : Keyed α, n.update (kv :: rest) = (n.insert kv.1 kv.2).update rest := fun _ => rfl
    rw [step, step, ih _ fun other mem => lacks other (List.mem_cons_of_mem _ mem),
      erase_insert m (lacks kv List.mem_cons_self)]

theorem find?_map {m : Keyed α} {f : α → β} (found : m.find? key = some v) :
    Keyed.find? (m.map fun (k, v) => (k, f v)) key = some (f v) := by
  obtain ⟨before, after, rfl, early⟩ := List.lookup_eq_some_iff.mp found
  refine List.lookup_eq_some_iff.mpr ⟨before.map fun (k, v) => (k, f v), after.map fun (k, v) => (k, f v), ?_, ?_⟩
  · rw [List.map_append, List.map_cons]
  · intro kv mem
    obtain ⟨old, among, rfl⟩ := List.mem_map.mp mem
    exact early old among

theorem insert_of_not_mem {m : Keyed α} (lacks : k ∉ m.map (·.1)) (v : α) :
    m.insert k v = m ++ [(k, v)] := by
  induction m with
  | nil => rfl
  | cons kv rest ih =>
    simp only [List.map_cons, List.mem_cons, not_or] at lacks
    have unequal : (kv.1 == k) = false := by simpa using lacks.1 ∘ Eq.symm
    simp only [Keyed.insert, unequal, Bool.false_eq_true, if_false, ih lacks.2, List.cons_append]

theorem insert_nodup {m : Keyed α} (distinct : (m.map (·.1)).Nodup) (key : String) (value : α) :
    ((m.insert key value).map (·.1)).Nodup := by
  by_cases present : m.has key = true
  · rwa [keys_insert_of_has m key value present]
  · have lacks : key ∉ m.map (·.1) := by
      intro mem
      obtain ⟨kv, among, same⟩ := List.mem_map.mp mem
      exact present (List.any_eq_true.mpr ⟨kv, among, by simpa using same⟩)
    rw [insert_of_not_mem lacks, List.map_append, List.nodup_append]
    refine ⟨distinct, by simp, ?_⟩
    rintro _ old _ new rfl
    have same : _ = key := List.mem_singleton.mp new
    exact lacks (same ▸ old)

theorem update_nodup {m : Keyed α} (distinct : (m.map (·.1)).Nodup) (more : Keyed α) :
    ((m.update more).map (·.1)).Nodup := by
  induction more generalizing m with
  | nil => exact distinct
  | cons kv rest ih => exact ih (insert_nodup distinct kv.1 kv.2)

theorem ofList_nodup (m : Keyed α) : ((ofList m).map (·.1)).Nodup :=
  update_nodup (m := []) List.nodup_nil m

theorem mem_of_mem_insert {m : Keyed α} (mem : kv ∈ m.insert k v) : kv ∈ m ∨ kv = (k, v) := by
  induction m with
  | nil => exact Or.inr (List.mem_singleton.mp mem)
  | cons first rest ih =>
    unfold Keyed.insert at mem
    split at mem
    · rename_i same
      rcases List.mem_cons.mp mem with rfl | later
      · exact Or.inr (by rw [eq_of_beq same])
      · exact Or.inl (List.mem_cons_of_mem _ later)
    · rcases List.mem_cons.mp mem with rfl | later
      · exact Or.inl List.mem_cons_self
      · exact (ih later).imp_left (List.mem_cons_of_mem _)

theorem update_of_nodup {m more : Keyed α} (distinct : ((m ++ more).map (·.1)).Nodup) :
    m.update more = m ++ more := by
  induction more generalizing m with
  | nil => simp [Keyed.update]
  | cons kv rest ih =>
    have lacks : kv.1 ∉ m.map (·.1) := by
      intro mem
      rw [List.map_append, List.nodup_append] at distinct
      exact distinct.2.2 _ mem kv.1 (by simp) rfl
    have step : m.update (kv :: rest) = (m.insert kv.1 kv.2).update rest := rfl
    rw [step, insert_of_not_mem lacks, ih (by simpa using distinct), List.append_assoc]
    rfl

theorem mem_of_mem_update {m more : Keyed α} (mem : kv ∈ m.update more) : kv ∈ m ∨ kv ∈ more := by
  induction more generalizing m with
  | nil => exact Or.inl mem
  | cons new rest ih =>
    rcases ih (m := m.insert new.1 new.2) mem with inserted | later
    · rcases mem_of_mem_insert inserted with old | rfl
      · exact Or.inl old
      · exact Or.inr List.mem_cons_self
    · exact Or.inr (List.mem_cons_of_mem _ later)

theorem mem_of_mem_ofList {m : Keyed α} (mem : kv ∈ Keyed.ofList m) : kv ∈ m :=
  (mem_of_mem_update (m := []) mem).resolve_left List.not_mem_nil

theorem ofList_of_nodup {m : Keyed α} (distinct : (m.map (·.1)).Nodup) : Keyed.ofList m = m :=
  update_of_nodup (m := []) distinct

end Keyed
end Orchestration
