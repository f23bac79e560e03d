import Orchestration.Service.Tables

namespace Orchestration.Tables

section Put

variable {id : ρ → String} {row r : ρ} {rows : List ρ}

theorem put_ids : (put (fun r => id r == id row) row rows).map id =
    if id row ∈ rows.map id then rows.map id else rows.map id ++ [id row] := by
  induction rows with
  | nil => rfl
  | cons r rest ih =>
    by_cases same : id r = id row
    · simp [put, same]
    · have other : ¬ id row = id r := fun eq => same eq.symm
      simp only [put, beq_iff_eq, same, if_false, List.map_cons, ih, List.mem_cons, other, false_or]
      split <;> rfl

theorem put_distinct (distinct : (rows.map id).Nodup) : ((put (fun r => id r == id row) row rows).map id).Nodup := by
  rw [put_ids]
  split
  · exact distinct
  · rename_i new
    exact List.nodup_append.mpr ⟨distinct, by simp, by
      intro old mem last among
      rintro rfl
      exact new (List.mem_singleton.mp among ▸ mem)⟩

theorem mem_put_ids {key : String} :
    key ∈ (put (fun r => id r == id row) row rows).map id ↔ key ∈ rows.map id ∨ key = id row := by
  rw [put_ids]
  split
  · rename_i present
    exact ⟨Or.inl, fun either => either.elim (fun old => old) (fun same => same ▸ present)⟩
  · simp

theorem mem_put (distinct : (rows.map id).Nodup) (mem : r ∈ put (fun r => id r == id row) row rows) :
    r = row ∨ (r ∈ rows ∧ id r ≠ id row) := by
  induction rows with
  | nil => exact Or.inl (List.mem_singleton.mp mem)
  | cons first rest ih =>
    rw [List.map_cons, List.nodup_cons] at distinct
    unfold put at mem
    split at mem
    · rename_i same
      rcases List.mem_cons.mp mem with rfl | later
      · exact Or.inl rfl
      · refine Or.inr ⟨List.mem_cons_of_mem _ later, fun equal => distinct.1 ?_⟩
        rw [eq_of_beq same, ← equal]
        exact List.mem_map_of_mem later
    · rename_i other
      rcases List.mem_cons.mp mem with rfl | later
      · exact Or.inr ⟨List.mem_cons_self, by simpa using other⟩
      · exact (ih distinct.2 later).imp_right (And.imp_left (List.mem_cons_of_mem _))

theorem mem_put_self (same : ρ → Bool) (row : ρ) (rows : List ρ) : row ∈ put same row rows := by
  induction rows with
  | nil => exact List.mem_singleton_self row
  | cons first rest ih =>
    unfold put
    split
    · exact List.mem_cons_self
    · exact List.mem_cons_of_mem _ ih

theorem mem_put_of_ne (mem : r ∈ rows) (other : id r ≠ id row) : r ∈ put (fun r => id r == id row) row rows := by
  induction rows with
  | nil => cases mem
  | cons first rest ih =>
    unfold put
    split
    · rename_i same
      rcases List.mem_cons.mp mem with rfl | later
      · exact absurd (eq_of_beq same) other
      · exact List.mem_cons_of_mem _ later
    · rcases List.mem_cons.mp mem with rfl | later
      · exact List.mem_cons_self
      · exact List.mem_cons_of_mem _ (ih later)

end Put

theorem record?_parts {t : Tables} (found : t.record? key = some row) : row ∈ t.records ∧ row.id = key := by
  have same := List.find?_some found
  exact ⟨List.mem_of_find?_eq_some found, by simpa using same⟩

theorem record?_of_mem {t : Tables} (distinct : (t.records.map RecordRow.id).Nodup) (mem : row ∈ t.records) :
    t.record? row.id = some row := by
  unfold record?
  generalize t.records = rows at distinct mem
  induction rows with
  | nil => cases mem
  | cons first rest ih =>
    rw [List.map_cons, List.nodup_cons] at distinct
    rcases List.mem_cons.mp mem with rfl | later
    · simp
    · have other : first.id ≠ row.id := fun same => distinct.1 (same ▸ List.mem_map_of_mem later)
      rw [List.find?_cons_of_neg (by simpa using other)]
      exact ih distinct.2 later

-- The row that an orchestrator is stored in.
structure Copies (row : RecordRow) (o : Orchestrator) : Prop where
  name : row.id = o.id
  document : row.document = o.encode.finiteOnly
  status : row.status = o.status.tag
  writable : o.isWritable = true
  created : o.createdAt.isSome = true
  updated : o.updatedAt = some row.updatedAt

theorem putRecord_copies {t u : Tables} {o : Orchestrator} (stored : t.putRecord o = .ok u) :
    ∃ row, Copies row o ∧ u = { t with records := put (fun r => r.id == row.id) row t.records } := by
  unfold putRecord at stored
  split at stored
  · cases stored
  · rename_i writable
    split at stored
    · rename_i updated created stamped
      cases stored
      exact ⟨⟨o.id, o.encode.finiteOnly, o.status.tag, updated⟩,
        ⟨rfl, rfl, rfl, by simpa using writable, by simp [created], stamped⟩, rfl⟩
    · cases stored

theorem putRecord_parts {t u : Tables} {o : Orchestrator} (stored : t.putRecord o = .ok u) :
    ∃ row : RecordRow, row.id = o.id ∧ row.document = o.encode.finiteOnly ∧
      u.records = put (fun r => r.id == row.id) row t.records ∧ u.versions = t.versions := by
  obtain ⟨row, copies, rfl⟩ := putRecord_copies stored
  exact ⟨row, copies.name, copies.document, rfl, rfl⟩

-- Nothing else keeps an orchestrator from being stored.
theorem putRecord_ok (t : Tables) {o : Orchestrator} (writable : o.isWritable = true)
    (created : o.createdAt.isSome = true) (updated : o.updatedAt.isSome = true) : ∃ u, t.putRecord o = .ok u := by
  obtain ⟨first, stamped⟩ := Option.isSome_iff_exists.mp created
  obtain ⟨last, moved⟩ := Option.isSome_iff_exists.mp updated
  simp [putRecord, writable, stamped, moved]

-- What is dropped of one owner is not among the rows of another.
theorem filter_drop {owner : ρ → String} (different : other ≠ key) (rows : List ρ) :
    (rows.filter (owner · != key)).filter (owner · == other) = rows.filter (owner · == other) := by
  rw [List.filter_filter]
  refine List.filter_congr fun row _ => ?_
  by_cases same : owner row = other <;> simp [same, different]

-- The versions of an orchestrator in the order in which they were added.
def history (t : Tables) (key : String) : List VersionRow := t.versions.filter (·.orchestratorId == key)

theorem addVersion_eq {t u : Tables} {v : Version} (added : t.addVersion v = some u) :
    u = { t with versions := t.versions ++ [⟨v.orchestratorId, v.number, v.encode.finiteOnly⟩] } := by
  unfold addVersion at added
  split at added
  · cases added
  · split at added
    · cases added
    · cases added
      rfl

theorem addVersion_writable {t u : Tables} {v : Version} (added : t.addVersion v = some u) : v.isWritable = true := by
  unfold addVersion at added
  split at added
  · cases added
  · rename_i writable
    simpa using writable

theorem addVersion_parts {t u : Tables} {v : Version} (added : t.addVersion v = some u) :
    u.records = t.records ∧ u.versions = t.versions ++ [⟨v.orchestratorId, v.number, v.encode.finiteOnly⟩] := by
  rw [addVersion_eq added]
  exact ⟨rfl, rfl⟩

theorem addEvents_parts {t u : Tables} {events : List Event} (added : t.addEvents key owner events = some u) :
    (∀ e ∈ events, e.isWritable = true) ∧
      u = { t with events := t.events ++ events.map fun e => ⟨key, owner, e.encode⟩ } := by
  unfold addEvents at added
  split at added
  · rename_i writable
    cases added
    exact ⟨List.all_eq_true.mp writable, rfl⟩
  · cases added

theorem eventsAbout_addEvents {t u : Tables} {events : List Event} (added : t.addEvents key owner events = some u)
    (different : other ≠ owner) : u.eventsAbout other = t.eventsAbout other := by
  obtain ⟨_, rfl⟩ := addEvents_parts added
  simp only [eventsAbout]
  rw [List.filter_append, List.append_right_eq_self, List.filter_eq_nil_iff]
  intro row mem
  obtain ⟨_, _, rfl⟩ := List.mem_map.mp mem
  simpa using different.symm

theorem history_add {t u : Tables} {row : VersionRow} (added : u.versions = t.versions ++ [row]) (key : String) :
    u.history key = t.history key ++ if row.orchestratorId = key then [row] else [] := by
  by_cases same : row.orchestratorId = key <;> simp [history, added, same]

theorem history_drop (t : Tables) {key other : String} (different : other ≠ key) :
    (t.dropRecord key).history other = t.history other :=
  filter_drop different t.versions

-- Numbers given out in order, from one on.
def Numbered (rows : List VersionRow) : Prop :=
  rows.map VersionRow.number = (List.range rows.length).map fun (i : Nat) => (i : Int) + 1

theorem Numbered.add {rows : List VersionRow} (numbered : Numbered rows) {row : VersionRow}
    (next : row.number = rows.length + 1) : Numbered (rows ++ [row]) := by
  unfold Numbered at numbered ⊢
  rw [List.map_append, numbered, List.length_append, List.length_singleton, List.range_succ, List.map_append,
    List.map_singleton, List.map_singleton, next]

theorem Numbered.last {rows : List VersionRow} (numbered : Numbered rows) (last : rows.getLast? = some row) :
    row.number = rows.length := by
  obtain ⟨before, rfl⟩ := List.getLast?_eq_some_iff.mp last
  unfold Numbered at numbered
  rw [List.map_append, List.length_append, List.length_singleton, List.range_succ, List.map_append] at numbered
  have tail := (List.append_inj_right' numbered rfl)
  simpa using tail

-- Sorting by numbers has nothing to do then.
theorem versionsOf_eq {t : Tables} (numbered : Numbered (t.history key)) : t.versionsOf key = t.history key := by
  refine List.mergeSort_of_pairwise ?_
  have sorted : ((t.history key).map VersionRow.number).Pairwise (· ≤ ·) := by
    rw [numbered, List.pairwise_map]
    exact List.pairwise_lt_range.imp fun {a b} (less : a < b) => by omega
  rw [List.pairwise_map] at sorted
  exact sorted.imp fun le => decide_eq_true le

theorem latestVersion?_eq {t : Tables} (numbered : Numbered (t.history key)) :
    t.latestVersion? key = (t.history key).getLast? := by
  rw [latestVersion?, versionsOf_eq numbered]

theorem nextVersion_eq {t : Tables} (numbered : Numbered (t.history key)) :
    t.nextVersion key = (t.history key).length + 1 := by
  rw [nextVersion, versionsOf_eq numbered]
  cases last : (t.history key).getLast? with
  | none =>
    rw [List.getLast?_eq_none_iff.mp last]
    rfl
  | some row =>
    simp only [numbered.last last]

end Orchestration.Tables
