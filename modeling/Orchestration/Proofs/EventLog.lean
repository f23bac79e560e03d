import Orchestration.Proofs.StoredRecords

namespace Orchestration

structure ExecutionRow.Holds (row : ExecutionRow) (e : Execution) : Prop where
  name : row.id = e.id
  owner : row.orchestratorId = e.orchestratorId
  document : row.document = e.encode

structure EventRow.Holds (row : EventRow) (e : Event) : Prop where
  document : row.document = e.encode
  writable : e.isWritable = true

theorem Event.within_encode (e : Event) : e.encode.within Json.deepestStored = true := by
  rw [encode, Json.deepestStored, Json.within_obj]
  simp [Json.within, Json.within_ofText]

theorem Execution.within_encode (e : Execution) : e.encode.within Json.deepestStored = true := by
  rw [encode, Json.deepestStored, Json.within_obj]
  simp [Json.within, Json.within_ofText]

namespace Event

-- The latest timestamp is one of them, however they are compared.
theorem firstGreatest_mem {α : Type} {x : α} {value : α → β} {lt : β → β → Bool} {xs : List α}
    (found : firstGreatest value lt xs = some x) : x ∈ xs := by
  have least : Sort.least? (fun y best => lt (value best) (value y)) xs = some x := by
    cases xs with
    | nil => cases found
    | cons first rest => exact found
  exact Sort.least_mem least

theorem texts_of_mapM {texts : List String}
    (parsed : texts.mapM (fun t => (Instant.parse t).map fun i => (t, i)) = some pairs) :
    pairs.map Prod.fst = texts := by
  induction texts generalizing pairs with
  | nil =>
    cases parsed
    rfl
  | cons text texts ih =>
    rw [List.mapM_cons] at parsed
    obtain ⟨first, one, later⟩ := Option.bind_eq_some_iff.mp parsed
    obtain ⟨others, more, same⟩ := Option.bind_eq_some_iff.mp later
    cases same
    obtain ⟨_, _, rfl⟩ := Option.map_eq_some_iff.mp one
    rw [List.map_cons, ih more]

theorem texts_of_instants {texts : List String} (read : instants? texts = some pairs) : pairs.map Prod.fst = texts := by
  obtain ⟨all, parsed, rest⟩ := Option.bind_eq_some_iff.mp read
  split at rest
  · cases rest
    exact texts_of_mapM parsed
  · cases rest

theorem latest?_mem {texts : List String} (latest : latest? texts = some text) : text ∈ texts := by
  unfold latest? at latest
  split at latest
  · rename_i read instants
    obtain ⟨pair, greatest, rfl⟩ := Option.map_eq_some_iff.mp latest
    exact texts_of_instants instants ▸ List.mem_map_of_mem (firstGreatest_mem greatest)
  · exact firstGreatest_mem latest

theorem last_whole {events : List Event} (writable : ∀ e ∈ events, e.isWritable = true) :
    (Json.ofText? (summarize events).lastExecution).hasHalf = false := by
  cases last : (summarize events).lastExecution with
  | none => rfl
  | some text =>
    obtain ⟨e, mem, rfl⟩ := List.mem_map.mp (latest?_mem last)
    have whole : e.encode.hasHalf = false := by simpa [isWritable] using writable e mem
    exact (Json.hasHalf_obj.mp whole ("timestamp", .str e.timestamp) (by simp)).2

end Event

namespace Tables

variable {t u v : Tables}

structure Filed (t : Tables) : Prop where
  distinct : (t.executions.map ExecutionRow.id).Nodup
  executions : ∀ row ∈ t.executions, ∃ e, row.Holds e
  owned : ∀ row ∈ t.executions, row.orchestratorId ∈ t.records.map RecordRow.id
  placed : ∀ row ∈ t.events, ∃ x ∈ t.executions, x.id = row.executionId ∧ x.orchestratorId = row.orchestratorId
  events : ∀ row ∈ t.events, ∃ e, row.Holds e

theorem filed_empty : empty.Filed :=
  ⟨List.nodup_nil, fun _ mem => absurd mem List.not_mem_nil, fun _ mem => absurd mem List.not_mem_nil,
    fun _ mem => absurd mem List.not_mem_nil, fun _ mem => absurd mem List.not_mem_nil⟩

theorem Filed.congr (filed : t.Filed) (executions : u.executions = t.executions) (events : u.events = t.events)
    (records : t.records.map RecordRow.id ⊆ u.records.map RecordRow.id) : u.Filed :=
  ⟨executions ▸ filed.distinct, executions ▸ filed.executions, fun row mem =>
    records (filed.owned row (executions ▸ mem)), executions ▸ events ▸ filed.placed, events ▸ filed.events⟩

theorem Filed.execution_unique (filed : t.Filed) (mem : row ∈ t.executions) (other : row' ∈ t.executions)
    (same : row'.id = row.id) : row' = row :=
  List.inj_on_of_nodup_map filed.distinct other mem same

theorem Filed.putRecord (filed : t.Filed) (stored : t.putRecord o = .ok u) : u.Filed := by
  obtain ⟨row, _, rfl⟩ := putRecord_copies stored
  exact filed.congr rfl rfl fun _ mem => mem_put_ids.mpr (.inl mem)

theorem putExecution_row (t : Tables) (e : Execution) : ∃ row : ExecutionRow, row.id = e.id ∧ row.document = e.encode ∧
    ((∃ old ∈ t.executions, old.id = e.id ∧ row.orchestratorId = old.orchestratorId) ∨
      row.orchestratorId = e.orchestratorId) ∧
    t.putExecution e = { t with executions := put (fun r => r.id == row.id) row t.executions } := by
  unfold putExecution
  dsimp only
  split
  · rename_i old found
    have same : old.id = e.id := by simpa using List.find?_some found
    exact ⟨{ old with document := e.encode }, same, rfl, .inl ⟨old, List.mem_of_find?_eq_some found, same, rfl⟩,
      by simp only [same]⟩
  · exact ⟨⟨e.id, e.orchestratorId, e.startedAt, e.encode⟩, rfl, rfl, .inr rfl, rfl⟩

theorem mem_putExecution_ids {t : Tables} {e : Execution} :
    key ∈ (t.putExecution e).executions.map ExecutionRow.id ↔ key ∈ t.executions.map ExecutionRow.id ∨ key = e.id := by
  obtain ⟨row, name, _, _, same⟩ := t.putExecution_row e
  rw [same, mem_put_ids, name]

theorem putExecution_parts {e : Execution}
    (agrees : ∀ row ∈ t.executions, row.id = e.id → row.orchestratorId = e.orchestratorId) :
    ∃ row : ExecutionRow, row.Holds e ∧
      t.putExecution e = { t with executions := put (fun r => r.id == row.id) row t.executions } := by
  obtain ⟨row, name, document, owner, same⟩ := t.putExecution_row e
  refine ⟨row, ⟨name, ?_, document⟩, same⟩
  rcases owner with ⟨old, mem, again, kept⟩ | mine
  · exact kept.trans (agrees old mem again)
  · exact mine

theorem Filed.putExecution (filed : t.Filed) {e : Execution}
    (agrees : ∀ row ∈ t.executions, row.id = e.id → row.orchestratorId = e.orchestratorId)
    (owner : e.orchestratorId ∈ t.records.map RecordRow.id) : (t.putExecution e).Filed := by
  obtain ⟨row, holds, same⟩ := putExecution_parts agrees
  rw [same]
  refine ⟨put_distinct filed.distinct, ?_, ?_, ?_, filed.events⟩
  · intro x mem
    rcases mem_put filed.distinct mem with rfl | ⟨old, _⟩
    · exact ⟨e, holds⟩
    · exact filed.executions x old
  · intro x mem
    rcases mem_put filed.distinct mem with rfl | ⟨old, _⟩
    · exact holds.owner ▸ owner
    · exact filed.owned x old
  · intro event mem
    obtain ⟨x, old, name, owner⟩ := filed.placed event mem
    by_cases again : x.id = row.id
    · refine ⟨row, mem_put_self _ _ _, again.symm.trans name, ?_⟩
      exact (holds.owner.trans (agrees x old (again.trans holds.name)).symm).trans owner
    · exact ⟨x, mem_put_of_ne old again, name, owner⟩

theorem Filed.addEvents (filed : t.Filed) {events : List Event} (mem : x ∈ t.executions)
    (added : t.addEvents x.id x.orchestratorId events = some u) : u.Filed := by
  obtain ⟨writable, rfl⟩ := addEvents_parts added
  refine ⟨filed.distinct, filed.executions, filed.owned, ?_, ?_⟩
  · intro row among
    rcases List.mem_append.mp among with old | new
    · exact filed.placed row old
    · obtain ⟨e, _, rfl⟩ := List.mem_map.mp new
      exact ⟨x, mem, rfl, rfl⟩
  · intro row among
    rcases List.mem_append.mp among with old | new
    · exact filed.events row old
    · obtain ⟨e, present, rfl⟩ := List.mem_map.mp new
      exact ⟨e, rfl, writable e present⟩

-- Everything about an orchestrator goes with it, and nothing else.
theorem Filed.drop (filed : t.Filed) (key : String) : ((t.dropRecord key).dropExecutions key).Filed := by
  have kept : ∀ {x : ExecutionRow}, x ∈ t.executions → x.orchestratorId ≠ key →
      x ∈ ((t.dropRecord key).dropExecutions key).executions := fun mem other =>
    List.mem_filter.mpr ⟨mem, by simpa using other⟩
  refine ⟨filed.distinct.sublist (List.filter_sublist.map _), ?_, ?_, ?_, ?_⟩
  · exact fun row mem => filed.executions row (List.mem_filter.mp mem).1
  · intro row mem
    obtain ⟨old, other⟩ := List.mem_filter.mp mem
    obtain ⟨r, stored, same⟩ := List.mem_map.mp (filed.owned row old)
    exact List.mem_map.mpr ⟨r, List.mem_filter.mpr ⟨stored, by rwa [same]⟩, same⟩
  · intro row mem
    obtain ⟨old, other⟩ := List.mem_filter.mp mem
    obtain ⟨x, among, name, owner⟩ := filed.placed row old
    exact ⟨x, kept among (by simpa [owner] using other), name, owner⟩
  · exact fun row mem => filed.events row (List.mem_filter.mp mem).1

-- The events about an orchestrator, in the order in which they came.
def Recorded (t : Tables) (key : String) (events : List Event) : Prop :=
  (t.eventsAbout key).map EventRow.document = events.map Event.encode

theorem Recorded.congr {t u : Tables} {events : List Event} (recorded : t.Recorded key events)
    (same : u.eventsAbout key = t.eventsAbout key) : u.Recorded key events := by
  rwa [Recorded, same]

theorem rows_hold {rows : List EventRow} (each : ∀ row ∈ rows, ∃ e, row.Holds e) :
    ∃ events : List Event, rows.map EventRow.document = events.map Event.encode ∧
      ∀ e ∈ events, e.isWritable = true := by
  induction rows with
  | nil => exact ⟨[], rfl, fun _ mem => absurd mem List.not_mem_nil⟩
  | cons row rest ih =>
    obtain ⟨⟨e, holds⟩, others⟩ := List.forall_mem_cons.mp each
    obtain ⟨events, documents, writable⟩ := ih others
    refine ⟨e :: events, ?_, List.forall_mem_cons.mpr ⟨holds.writable, writable⟩⟩
    rw [List.map_cons, List.map_cons, holds.document, documents]

theorem Filed.recorded (filed : t.Filed) (key : String) :
    ∃ events, t.Recorded key events ∧ ∀ e ∈ events, e.isWritable = true :=
  rows_hold fun row mem => filed.events row (List.mem_filter.mp mem).1

theorem readAll?_events (events : List Event) (s : Supply) :
    readAll? (Event.decode .document) s (events.map Event.encode) = some (events, s) := by
  induction events with
  | nil => rfl
  | cons e rest ih =>
    have first : read? (Event.decode .document) e.encode s = some (e, s) := by
      rw [read?, if_pos e.within_encode, Event.decode_encode]
      rfl
    simp [readAll?, first, ih]

theorem Recorded.summary {t : Tables} {events : List Event} (recorded : t.Recorded key events) (s : Supply) :
    Service.summaryOf t key s = .ok (Event.summarize events) := by
  rw [Service.summaryOf, recorded, readAll?_events]
  rfl

theorem Filed.none_about (filed : t.Filed) (absent : key ∉ t.records.map RecordRow.id) : t.eventsAbout key = [] := by
  rw [eventsAbout, List.filter_eq_nil_iff]
  intro row mem same
  obtain ⟨x, among, _, owner⟩ := filed.placed row mem
  exact absent (eq_of_beq same ▸ owner ▸ filed.owned x among)

-- What was reported of the executions of an orchestrator.
def reported (t : Tables) (key : String) : List EventRow :=
  t.events.filter fun row => (t.executionsOf (some key)).any (·.id == row.executionId)

theorem Filed.eventsAbout_eq (filed : t.Filed) (key : String) : t.eventsAbout key = t.reported key := by
  refine List.filter_congr fun row mem => Bool.eq_iff_iff.mpr ?_
  obtain ⟨x, among, name, owner⟩ := filed.placed row mem
  have executions : ∀ y, y ∈ t.executionsOf (some key) ↔ y ∈ t.executions ∧ y.orchestratorId = key := by
    intro y
    simp [executionsOf, newestFirst]
  simp only [beq_iff_eq, List.any_eq_true, executions]
  constructor
  · intro same
    exact ⟨x, ⟨among, owner.trans same⟩, name⟩
  · rintro ⟨y, ⟨other, mine⟩, same⟩
    cases filed.execution_unique among other (same.trans name.symm)
    exact owner.symm.trans mine

end Tables

namespace Service

variable {c : Surroundings} {r : Request} {t v : Tables}

theorem findExecution_parts (filed : t.Filed) (found : findExecution t key s = .ok (e, w)) :
    ∃ row ∈ t.executions, row.id = key ∧ row.Holds e := by
  unfold findExecution at found
  split at found
  · cases found
  · rename_i row present
    have mem := List.mem_of_find?_eq_some present
    have same : row.id = key := by simpa using List.find?_some present
    obtain ⟨x, holds⟩ := filed.executions row mem
    have decoded := (read?_parts (ofStored_parts found)).2
    rw [holds.document, Execution.decode_encode] at decoded
    cases decoded
    exact ⟨row, mem, same, holds⟩

theorem advanced_same (e : Execution) (status : Option ExecutionStatus) (now : String) :
    (advanced e status now).id = e.id ∧ (advanced e status now).orchestratorId = e.orchestratorId := by
  unfold advanced
  split
  · exact ⟨rfl, rfl⟩
  · split <;> exact ⟨rfl, rfl⟩

theorem filed_of_logs (filed : t.Filed) (logs : Logs t e v) :
    v.Filed ∧ e.orchestratorId ∈ t.records.map RecordRow.id ∧
      ∀ key, key ≠ e.orchestratorId → v.eventsAbout key = t.eventsAbout key := by
  obtain ⟨events, found, added, status, now⟩ := logs
  obtain ⟨row, mem, rfl, holds⟩ := findExecution_parts filed found
  rw [← holds.owner] at added
  have grown := filed.addEvents mem added
  have others := fun key (other : key ≠ e.orchestratorId) =>
    Tables.eventsAbout_addEvents added (holds.owner ▸ other)
  obtain ⟨_, rfl⟩ := Tables.addEvents_parts added
  have owner := filed.owned row mem
  split
  · exact ⟨grown, holds.owner ▸ owner, others⟩
  · obtain ⟨name, same⟩ := advanced_same e status now
    refine ⟨grown.putExecution ?_ ?_, holds.owner ▸ owner, others⟩
    · intro x among again
      cases filed.execution_unique mem among ((again.trans name).trans holds.name.symm)
      exact holds.owner.trans same.symm
    · rw [same, ← holds.owner]
      exact owner

theorem filed_of_writes (filed : t.Filed) (writes : Writes c t v o) : v.Filed := by
  cases writes with
  | created | edited | moved => exact filed
  | published _ _ added =>
    rw [Tables.addVersion_eq added]
    exact filed.congr rfl rfl fun _ mem => mem
  | refreshed logs _ _ => exact (filed_of_logs filed logs).1

theorem filed_of_effect (inStep : t.InStep) (filed : t.Filed)
    (new : ∀ n, c.supply.name n ∉ t.executions.map ExecutionRow.id) (effect : Effect c r t u) : u.Filed := by
  cases effect with
  | none => exact filed
  | stored writes stored => exact (filed_of_writes filed writes).putRecord stored
  | issued found done added _ => exact filed_of_writes filed (.published found done added)
  | deleted => exact filed.drop _
  | triggered found _ n _ =>
    refine filed.putExecution (fun row mem same => ?_) ?_
    · exact absurd (List.mem_map.mpr ⟨row, mem, same⟩) (new n)
    · obtain ⟨present, rfl, _, _⟩ := inStep.loads (loads_of_find found)
      exact present
  | logged logs _ => exact (filed_of_logs filed logs).1

theorem executions_of_logs (filed : t.Filed) (logs : Logs t e v) :
    v.executions.map ExecutionRow.id ⊆ t.executions.map ExecutionRow.id := by
  obtain ⟨events, found, added, status, now⟩ := logs
  obtain ⟨row, mem, _, holds⟩ := findExecution_parts filed found
  obtain ⟨_, rfl⟩ := Tables.addEvents_parts added
  split
  · exact fun _ mem => mem
  · intro key among
    rcases Tables.mem_putExecution_ids.mp among with old | rfl
    · exact old
    · exact List.mem_map.mpr ⟨row, mem, holds.name.trans (advanced_same e status now).1.symm⟩

theorem executions_of_effect (filed : t.Filed) (effect : Effect c r t u)
    (mem : key ∈ u.executions.map ExecutionRow.id) :
    key ∈ t.executions.map ExecutionRow.id ∨ ∃ n, key = c.supply.name n := by
  cases effect with
  | none => exact .inl mem
  | stored writes stored =>
    obtain ⟨_, _, rfl⟩ := Tables.putRecord_copies stored
    cases writes with
    | created | edited | moved => exact .inl mem
    | published _ _ added =>
      rw [Tables.addVersion_eq added] at mem
      exact .inl mem
    | refreshed logs _ _ => exact .inl (executions_of_logs filed logs mem)
  | issued _ _ added _ =>
    rw [Tables.addVersion_eq added] at mem
    exact .inl mem
  | deleted => exact .inl ((List.filter_sublist.map _).subset mem)
  | triggered _ _ n _ => exact (Tables.mem_putExecution_ids.mp mem).imp_right fun same => ⟨n, same⟩
  | logged logs _ => exact .inl (executions_of_logs filed logs mem)

theorem reached_filed (reached : Reached past t) :
    t.Filed ∧ ∀ key ∈ t.executions.map ExecutionRow.id, Drawn past key := by
  induction reached with
  | start => exact ⟨Tables.filed_empty, fun _ mem => absurd mem List.not_mem_nil⟩
  | @step past t reached c r new ih =>
    obtain ⟨filed, named⟩ := ih
    have effect := handle_effect c r t
    refine ⟨filed_of_effect (reached_inStep reached).1 filed (not_new_of_drawn named new) effect, ?_⟩
    exact drawn_of_brought named fun key mem => executions_of_effect filed effect mem

end Service
end Orchestration
