import Mathlib.Data.List.Forall2
import Orchestration.Proofs.HealthCounters

namespace Orchestration

structure VersionRow.Holds (row : VersionRow) (v : Version) : Prop where
  owner : row.orchestratorId = v.orchestratorId
  number : row.number = v.number
  document : row.document = v.encode.finiteOnly

theorem ExecutionRow.Holds.unique {row : ExecutionRow} (first : row.Holds e) (second : row.Holds f) : e = f := by
  have same := Execution.decode_encode .document f ⟨fun _ => "", 0⟩
  rw [← second.document, first.document, Execution.decode_encode] at same
  cases same
  rfl

namespace Tables

variable {t u v : Tables}

def HasVersion (t : Tables) (key : String) (number : Int) : Prop :=
  ∃ row ∈ t.versions, row.orchestratorId = key ∧ row.number = number

theorem HasVersion.mono {t u : Tables} (has : t.HasVersion key number) (kept : t.versions ⊆ u.versions) :
    u.HasVersion key number := by
  obtain ⟨row, mem, owner, same⟩ := has
  exact ⟨row, kept mem, owner, same⟩

-- What stands in the documents: of a version what its row says, of an execution which version it runs, of an event
-- which execution it is about.
structure Referred (t : Tables) : Prop where
  versions : ∀ row ∈ t.versions, ∃ v, row.Holds v
  executions : ∀ row ∈ t.executions, ∃ e, row.Holds e ∧ t.HasVersion e.orchestratorId e.version
  events : ∀ row ∈ t.events, ∃ e, row.Holds e ∧ e.executionId = some row.executionId

theorem referred_empty : empty.Referred :=
  ⟨fun _ mem => absurd mem List.not_mem_nil, fun _ mem => absurd mem List.not_mem_nil,
    fun _ mem => absurd mem List.not_mem_nil⟩

theorem Referred.congr (referred : t.Referred) (versions : u.versions = t.versions)
    (executions : u.executions = t.executions) (events : u.events = t.events) : u.Referred := by
  refine ⟨versions ▸ referred.versions, fun row mem => ?_, events ▸ referred.events⟩
  obtain ⟨e, holds, has⟩ := referred.executions row (executions ▸ mem)
  exact ⟨e, holds, has.mono (versions ▸ List.Subset.refl _)⟩

theorem Referred.addVersion {v : Version} (referred : t.Referred) (added : t.addVersion v = some u) : u.Referred := by
  rw [addVersion_eq added]
  refine ⟨fun row mem => ?_, fun row mem => ?_, referred.events⟩
  · rcases List.mem_append.mp mem with old | new
    · exact referred.versions row old
    · rw [List.mem_singleton.mp new]
      exact ⟨v, rfl, rfl, rfl⟩
  · obtain ⟨e, holds, has⟩ := referred.executions row mem
    exact ⟨e, holds, has.mono (List.subset_append_left _ _)⟩

theorem Referred.putExecution (referred : t.Referred) (distinct : (t.executions.map ExecutionRow.id).Nodup)
    {e : Execution} (agrees : ∀ row ∈ t.executions, row.id = e.id → row.orchestratorId = e.orchestratorId)
    (has : t.HasVersion e.orchestratorId e.version) : (t.putExecution e).Referred := by
  obtain ⟨row, holds, same⟩ := putExecution_parts agrees
  rw [same]
  refine ⟨referred.versions, fun other mem => ?_, referred.events⟩
  rcases mem_put distinct mem with rfl | ⟨old, _⟩
  · exact ⟨e, holds, has⟩
  · exact referred.executions other old

theorem Referred.addEvents (referred : t.Referred) {events : List Event}
    (own : ∀ e ∈ events, e.executionId = some key) (added : t.addEvents key owner events = some u) : u.Referred := by
  obtain ⟨writable, rfl⟩ := addEvents_parts added
  refine ⟨referred.versions, referred.executions, fun row mem => ?_⟩
  rcases List.mem_append.mp mem with old | new
  · exact referred.events row old
  · obtain ⟨e, among, rfl⟩ := List.mem_map.mp new
    exact ⟨e, ⟨rfl, writable e among⟩, own e among⟩

-- The versions go with the orchestrator, and so do the executions that ran them.
theorem Referred.drop (referred : t.Referred) (key : String) :
    ((t.dropRecord key).dropExecutions key).Referred := by
  refine ⟨fun row mem => ?_, fun row mem => ?_, fun row mem => ?_⟩
  · exact referred.versions row (List.mem_filter.mp mem).1
  · obtain ⟨old, other⟩ := List.mem_filter.mp mem
    obtain ⟨e, holds, w, stored, owner, number⟩ := referred.executions row old
    refine ⟨e, holds, w, List.mem_filter.mpr ⟨stored, ?_⟩, owner, number⟩
    rwa [owner, ← holds.owner]
  · exact referred.events row (List.mem_filter.mp mem).1

-- Every row is about something that is stored, and says beside its document what the document says.
structure Intact (t : Tables) : Prop where
  records : ∀ row ∈ t.records, ∃ o, Copies row o
  versions : ∀ row ∈ t.versions, row.orchestratorId ∈ t.records.map RecordRow.id ∧ ∃ v, row.Holds v
  executions : ∀ row ∈ t.executions, row.orchestratorId ∈ t.records.map RecordRow.id ∧
    ∃ e, row.Holds e ∧ t.HasVersion row.orchestratorId e.version
  events : ∀ row ∈ t.events, row.orchestratorId ∈ t.records.map RecordRow.id ∧
    (∃ x ∈ t.executions, x.id = row.executionId ∧ x.orchestratorId = row.orchestratorId) ∧
    ∃ e, row.Holds e ∧ e.executionId = some row.executionId

-- No row is about the orchestrator with an id.
structure Without (t : Tables) (key : String) : Prop where
  records : key ∉ t.records.map RecordRow.id
  versions : key ∉ t.versions.map VersionRow.orchestratorId
  executions : key ∉ t.executions.map ExecutionRow.orchestratorId
  events : key ∉ t.events.map EventRow.orchestratorId

-- What is not among the records is nowhere else.
theorem Intact.without (intact : t.Intact) (absent : key ∉ t.records.map RecordRow.id) : t.Without key := by
  refine ⟨absent, fun mem => ?_, fun mem => ?_, fun mem => ?_⟩
  all_goals
    obtain ⟨row, among, rfl⟩ := List.mem_map.mp mem
    apply absent
  · exact (intact.versions row among).1
  · exact (intact.executions row among).1
  · exact (intact.events row among).1

section Listing

-- The list of the orchestrators with a status.
structure Lists (t : Tables) (status : Status) (os : List Orchestrator) : Prop where
  exact : ∀ l, l ∈ os ↔ ∃ row ∈ t.records, row.Reads l ∧ l.status = status
  once : (os.map Orchestrator.id).Nodup
  newestFirst : os.Pairwise fun a b => ∃ x y, a.updatedAt = some x ∧ b.updatedAt = some y ∧ y ≤ x

theorem mem_newestFirst {key : ρ → String} {rows : List ρ} : row ∈ newestFirst key rows ↔ row ∈ rows :=
  List.mem_mergeSort

theorem newestFirst_sorted (key : ρ → String) (rows : List ρ) :
    (newestFirst key rows).Pairwise fun a b => key b ≤ key a := by
  refine (List.pairwise_mergeSort ?_ ?_ rows).imp of_decide_eq_true
  · intro a b c first second
    exact decide_eq_true (String.le_trans (of_decide_eq_true second) (of_decide_eq_true first))
  · intro a b
    rcases String.le_total (key b) (key a) with less | more
    · simp [less]
    · simp [more]

theorem mem_recordsWith : row ∈ t.recordsWith (some status) ↔ row ∈ t.records ∧ row.status = status.tag := by
  rw [recordsWith, mem_newestFirst, List.mem_filter, beq_iff_eq]

theorem recordsWith_distinct (distinct : (t.records.map RecordRow.id).Nodup) (status : Status) :
    ((t.recordsWith (some status)).map RecordRow.id).Nodup :=
  (((List.mergeSort_perm _ _).map _).nodup_iff).mpr (distinct.sublist (List.filter_sublist.map _))

theorem Sound.reads (sound : t.Sound) (mem : row ∈ t.records) (reads : row.Reads l) :
    row.Gives l ∧ l.updatedAt = some row.updatedAt := by
  obtain ⟨o, copies, good⟩ := sound row mem
  have gives := copies.gives good (copies.readable (reads ⟨fun _ => "", 0⟩))
  cases reads.unique gives.reads
  exact ⟨gives, copies.updated⟩

-- Two lists that go together item by item.
section Paired

variable {xs : List α} {ys : List β} {R : α → β → Prop}

theorem paired_map (paired : List.Forall₂ R xs ys) {f : α → γ} {g : β → γ} (same : ∀ x y, R x y → f x = g y) :
    xs.map f = ys.map g := by
  rw [← List.forall₂_eq_eq_eq, List.forall₂_map_left_iff, List.forall₂_map_right_iff]
  exact paired.imp same

theorem paired_mem (paired : List.Forall₂ R xs ys) (mem : x ∈ xs) : ∃ y ∈ ys, R x y := by
  induction paired with
  | nil => cases mem
  | cons first _ ih =>
    rcases List.mem_cons.mp mem with rfl | later
    · exact ⟨_, List.mem_cons_self, first⟩
    · obtain ⟨y, among, same⟩ := ih later
      exact ⟨y, List.mem_cons_of_mem _ among, same⟩

end Paired

theorem lists_of_reads (inStep : t.InStep) (sound : t.Sound)
    (reads : List.Forall₂ RecordRow.Reads (t.recordsWith (some status)) os) : t.Lists status os := by
  have paired : List.Forall₂ (fun row l => row ∈ t.recordsWith (some status) ∧ row.Gives l ∧
      l.updatedAt = some row.updatedAt) (t.recordsWith (some status)) os := by
    have among := (List.forall₂_and_left _ _).mpr ⟨fun row mem => mem, reads⟩
    refine among.imp fun row l ⟨mem, read⟩ => ⟨mem, ?_⟩
    exact sound.reads (mem_recordsWith.mp mem).1 read
  refine ⟨fun l => ⟨fun mem => ?_, fun ⟨row, mem, read, same⟩ => ?_⟩, ?_, ?_⟩
  · obtain ⟨row, _, among, gives, _⟩ := paired_mem paired.flip mem
    obtain ⟨stored, tag⟩ := mem_recordsWith.mp among
    exact ⟨row, stored, gives.reads, Status.eq_of_tag (gives.status.symm.trans tag)⟩
  · have gives := (sound.reads mem read).1
    obtain ⟨k, listed, again⟩ := paired_mem reads (mem_recordsWith.mpr ⟨mem, same ▸ gives.status⟩)
    exact read.unique again ▸ listed
  · have ids := paired_map paired fun _ _ ⟨_, gives, _⟩ => gives.name
    exact ids ▸ recordsWith_distinct inStep.distinct status
  · have times : (t.recordsWith (some status)).map (fun row => some row.updatedAt) = os.map Orchestrator.updatedAt :=
      paired_map paired fun _ _ ⟨_, _, time⟩ => time.symm
    have sorted : (os.map Orchestrator.updatedAt).Pairwise fun a b => ∃ x y, a = some x ∧ b = some y ∧ y ≤ x := by
      rw [← times, List.pairwise_map]
      exact (newestFirst_sorted RecordRow.updatedAt _).imp fun le => ⟨_, _, rfl, rfl, le⟩
    exact List.pairwise_map.mp sorted

end Listing

end Tables

namespace Service

variable {c : Surroundings} {r : Request} {t u v : Tables}

theorem advanced_version (e : Execution) (status : Option ExecutionStatus) (now : String) :
    (advanced e status now).version = e.version := by
  unfold advanced
  split
  · rfl
  · split <;> rfl

-- An execution that comes to another status runs the version that it ran before.
theorem referred_of_logs (filed : t.Filed) (referred : t.Referred) (logs : Logs t e v) : v.Referred := by
  obtain ⟨events, found, added, status, now, own⟩ := logs
  obtain ⟨row, mem, rfl, holds⟩ := findExecution_parts filed found
  have logged := referred.addEvents own added
  obtain ⟨_, rfl⟩ := Tables.addEvents_parts added
  split
  · exact logged
  · obtain ⟨name, owner⟩ := advanced_same e status now
    refine logged.putExecution filed.distinct (fun other among again => ?_) ?_
    · cases filed.execution_unique mem among ((again.trans name).trans holds.name.symm)
      exact holds.owner.trans owner.symm
    · obtain ⟨f, same, has⟩ := referred.executions row mem
      cases holds.unique same
      rw [owner, advanced_version]
      exact has

theorem referred_of_writes (filed : t.Filed) (referred : t.Referred) (writes : Writes c t v o) : v.Referred := by
  cases writes with
  | created | edited | moved => exact referred
  | published _ _ added => exact referred.addVersion added
  | refreshed logs _ _ => exact referred_of_logs filed referred logs

-- A published orchestrator is triggered at the version that was issued last, and that is what its row says.
theorem hasVersion_of_latest {v : Version} (inStep : t.InStep) (found : find t key s = .ok (o, w))
    (published : o.status = .published) (latest : t.latestVersion? o.id = some row)
    (stored : Tables.read? (Version.decode .document) row.document x = some (v, y)) : t.HasVersion o.id v.number := by
  obtain ⟨_, rfl, _, step⟩ := inStep.loads (loads_of_find found)
  obtain ⟨plain, last, issue, final, document, number, issued⟩ := step.current published
  cases (((Tables.latestVersion?_eq step.numbered).trans final).symm.trans latest)
  have decoded := (read?_parts stored).2
  rw [document, issued.decode_encode plain] at decoded
  cases decoded
  obtain ⟨mem, owner⟩ := List.mem_filter.mp (List.mem_of_getLast? final)
  exact ⟨row, mem, eq_of_beq owner, number.symm⟩

theorem referred_of_effect (inStep : t.InStep) (filed : t.Filed) (referred : t.Referred)
    (new : ∀ n, c.supply.name n ∉ t.executions.map ExecutionRow.id) (effect : Effect c r t u) : u.Referred := by
  cases effect with
  | none => exact referred
  | stored writes stored =>
    obtain ⟨_, _, rfl⟩ := Tables.putRecord_copies stored
    exact (referred_of_writes filed referred writes).congr rfl rfl rfl
  | issued found done added _ => exact referred_of_writes filed referred (.published found done added)
  | deleted => exact referred.drop _
  | triggered found published n latest stored =>
    apply referred.putExecution filed.distinct
    · exact fun row mem same => absurd (List.mem_map.mpr ⟨row, mem, same⟩) (new n)
    · exact hasVersion_of_latest inStep found published latest stored
  | logged logs _ => exact referred_of_logs filed referred logs

theorem new_executions (reached : Reached past t) (new : ∀ before ∈ past, ∀ m n, c.supply.name m ≠ before.name n)
    (n : Nat) : c.supply.name n ∉ t.executions.map ExecutionRow.id :=
  not_new_of_drawn (reached_filed reached).2 new n

theorem reached_referred (reached : Reached past t) : t.Referred := by
  induction reached with
  | start => exact Tables.referred_empty
  | step reached c r new ih =>
    apply referred_of_effect (reached_inStep reached).1 (reached_filed reached).1 ih
    · exact new_executions reached new
    · exact handle_effect c r _

theorem reached_intact (reached : Reached past t) : t.Intact := by
  have inStep := (reached_inStep reached).1
  have filed := (reached_filed reached).1
  have referred := reached_referred reached
  refine ⟨fun row mem => ?_, fun row mem => ?_, fun row mem => ?_, fun row mem => ?_⟩
  · obtain ⟨o, copies, _⟩ := reached_sound reached row mem
    exact ⟨o, copies⟩
  · exact ⟨inStep.owned row mem, referred.versions row mem⟩
  · obtain ⟨e, holds, has⟩ := referred.executions row mem
    exact ⟨filed.owned row mem, e, holds, holds.owner ▸ has⟩
  · obtain ⟨x, among, name, owner⟩ := filed.placed row mem
    exact ⟨owner ▸ filed.owned x among, ⟨x, among, name, owner⟩, referred.events row mem⟩

section Asking

theorem handle_list_with (asks : Asks r .orchestrators) {status : Status}
    (named : r.query.find? "status" = some status.tag) (c : Surroundings) (t : Tables) :
    handle c r t = (list c (some status) t, t) := by
  have read : queryValue r "status" none (Decode.choice fun tag => (Status.ofTag? tag).map some) c.supply =
      .ok (some status, c.supply) := by
    simp only [queryValue, named]
    exact Decode.under_eq_ok.mpr (Decode.under_eq_ok.mpr (Decode.choice_ok (by rw [Status.ofTag?_tag]; rfl)))
  rw [handle_asks asks]
  simp only [serve, write?, read?, asks.1, listRequested, malformedOr, read]
  rfl

theorem list_with (inStep : t.InStep) (sound : t.Sound) (each : ∀ row ∈ t.recordsWith (some status), row.Readable)
    (c : Surroundings) : ∃ os, list c (some status) t = .ok (.arr (os.map Orchestrator.encode)) ∧ t.Lists status os := by
  obtain ⟨os, reads, done⟩ := readAll_gives each
  refine ⟨os, ?_, Tables.lists_of_reads inStep sound reads⟩
  simp only [list, done]
  rfl

-- An execution that is not known: nothing is told of it, and nothing can be reported.
structure Unknown (t : Tables) (id : String) : Prop where
  asked : ∀ c r, Asks r (.execution id) ∨ Asks r (.events id) → handle c r t = (.noExecution id, t)
  reported : ∀ c r request s, r.method = "POST" → endpoint? r.path = some (.events id) →
    readBody IngestBody.decode r.body c.supply = .ok (request, s) → handle c r t = (.noExecution id, t)

theorem findExecution_absent (absent : key ∉ t.executions.map ExecutionRow.id) (s : Supply) :
    findExecution t key s = .error (.noExecution key) := by
  have none : t.execution? key = none := by
    rw [Tables.execution?, List.find?_eq_none]
    exact fun row mem same => absent (List.mem_map.mpr ⟨row, mem, eq_of_beq same⟩)
  rw [findExecution, none]

theorem unknown_of_absent (absent : key ∉ t.executions.map ExecutionRow.id) : Unknown t key := by
  refine ⟨fun c r asked => ?_, fun c r request s method known body => ?_⟩
  · rcases asked with execution | events
    · rw [handle_asks execution]
      simp only [serve, write?, read?, execution.1, getExecution, findExecution_absent absent]
      rfl
    · rw [handle_asks events]
      simp only [serve, write?, read?, events.1, getEvents, findExecution_absent absent]
      rfl
  · rw [handle_known known]
    simp only [serve, write?, method]
    rw [ingest, answer_given_ok body, answer_read_error (findExecution_absent absent s)]

end Asking

section Deletion

theorem handle_deletes (deletes : Deletes r key) (done : (handle c r t).1.status = 200) :
    handle c r t = delete c key t := by
  obtain ⟨p, serves, method⟩ := deletes
  rcases handle_parts c r t with unknown | ⟨q, endpoint, other, same⟩
  · rw [unknown] at done
    cases done
  · obtain ⟨rfl, rfl⟩ := serves.unique other
    rw [same]
    simp only [serve, write?, method]

theorem deleted_of_done (done : (delete c key t).1.status = 200) :
    key ∈ t.records.map RecordRow.id ∧ (delete c key t).2 = (t.dropRecord key).dropExecutions key := by
  cases found : find t key c.supply with
  | ok read =>
    obtain ⟨row, mem, same, _⟩ := loads_of_find found
    refine ⟨List.mem_map.mpr ⟨row, mem, same⟩, ?_⟩
    rw [delete, answer_read_ok found]
    rfl
  | error reply =>
    have refused : (delete c key t).1 = reply := by rw [delete, answer_read_error found]
    rw [refused] at done
    rcases find_refused found with ⟨rfl, _⟩ | rfl
    · cases done
    · cases done

-- An id that is gone does not come back, since it was drawn once.
theorem Continues.absent (ids : Tables → List String)
    (drawn : ∀ {past t} (c r), Reached past t → ∀ key ∈ ids (handle c r t).2, key ∈ ids t ∨ ∃ n, key = c.supply.name n)
    (continues : Continues past t past' u) (reached : Reached past t) (once : Drawn past key)
    (gone : key ∉ ids t) : key ∉ ids u := by
  induction continues with
  | refl => exact gone
  | @step past' u before c r new ih =>
    intro present
    rcases drawn c r (before.reached reached) key present with old | ⟨n, again⟩
    · exact ih old
    · exact absurd again ((once.mono before.past_subset).not_new new n)

theorem Continues.records_absent (continues : Continues past t past' u) (reached : Reached past t)
    (once : Drawn past key) (gone : key ∉ t.records.map RecordRow.id) :
    key ∉ u.records.map RecordRow.id := by
  apply continues.absent (fun t => t.records.map RecordRow.id) _ reached once gone
  exact fun c r reached key => ids_of_effect (reached_inStep reached).1 (handle_effect c r _)

theorem Continues.executions_absent (continues : Continues past t past' u) (reached : Reached past t)
    (once : Drawn past key) (gone : key ∉ t.executions.map ExecutionRow.id) :
    key ∉ u.executions.map ExecutionRow.id := by
  apply continues.absent (fun t => t.executions.map ExecutionRow.id) _ reached once gone
  exact fun c r reached key => executions_of_effect (reached_filed reached).1 (handle_effect c r _)

theorem gone_after_deletion (reached : Reached past t) (new : ∀ before ∈ past, ∀ m n, c.supply.name m ≠ before.name n)
    (deletes : Deletes r key) (done : (handle c r t).1.status = 200)
    (continues : Continues (c.supply :: past) (handle c r t).2 past' u) :
    u.Without key ∧ ∀ x ∈ t.executions, x.orchestratorId = key → Unknown u x.id := by
  have next : Reached (c.supply :: past) (handle c r t).2 := .step reached c r new
  have served := handle_deletes deletes done
  rw [served] at done
  obtain ⟨present, after⟩ := deleted_of_done done
  rw [served, after] at next continues
  constructor
  · apply (reached_intact (continues.reached next)).without
    apply continues.records_absent next
    · exact ((reached_inStep reached).2 key present).mono (List.subset_cons_self _ _)
    · intro left
      obtain ⟨row, kept, same⟩ := List.mem_map.mp left
      exact absurd same (by simpa using (List.mem_filter.mp kept).2)
  · intro x mem owner
    apply unknown_of_absent
    apply continues.executions_absent next
    · exact ((reached_filed reached).2 x.id (List.mem_map_of_mem mem)).mono (List.subset_cons_self _ _)
    · intro left
      obtain ⟨row, kept, same⟩ := List.mem_map.mp left
      obtain ⟨old, other⟩ := List.mem_filter.mp kept
      cases (reached_filed reached).1.execution_unique mem old same
      exact absurd owner (by simpa using other)

end Deletion

-- Whatever requests came before, and after a deletion whatever requests follow.
theorem references_kept (reached : Reached past t) :
    t.Intact ∧
    (∀ c r status, Asks r .orchestrators → r.query.find? "status" = some (Status.tag status) →
      (∀ row ∈ t.records, row.Readable) →
        ∃ os, handle c r t = (.ok (.arr (os.map Orchestrator.encode)), t) ∧ t.Lists status os) ∧
    ∀ c r key, (∀ before ∈ past, ∀ m n, c.supply.name m ≠ before.name n) → Deletes r key →
      (handle c r t).1.status = 200 → ∀ past' u, Continues (c.supply :: past) (handle c r t).2 past' u →
        u.Without key ∧ ∀ x ∈ t.executions, x.orchestratorId = key → Unknown u x.id := by
  refine ⟨reached_intact reached, fun c r status asks named each => ?_, fun c r key new deletes done past' u continues => ?_⟩
  · obtain ⟨os, listed, lists⟩ := list_with (reached_inStep reached).1 (reached_sound reached)
      (fun row mem => each row (Tables.mem_recordsWith.mp mem).1) c
    exact ⟨os, (handle_list_with asks named c t).trans (by rw [listed]), lists⟩
  · exact gone_after_deletion reached new deletes done continues

def askingFor (status : Status) : Request :=
  let all := asking "/api/orchestrators"
  { all with address := { all.address with query := some ("status=" ++ status.tag).toList } }

def dismissing : Request := { sent "/api/orchestrators/ax" .null with method := "DELETE" }

-- The published orchestrator with the events of its execution is listed, and then it is deleted.
theorem tallied_references : tallied.Intact ∧ (∃ row ∈ tallied.events, row.executionId = "cx") ∧
    (∃ os, handle (visit 'e') (askingFor .published) tallied = (.ok (.arr (os.map Orchestrator.encode)), tallied) ∧
      tallied.Lists .published os ∧ "ax" ∈ os.map Orchestrator.id) ∧
    (handle (visit 'e') dismissing tallied).2.Without "ax" ∧
    Unknown (handle (visit 'e') dismissing tallied).2 "cx" := by
  -- All that is computed, at once.
  have facts : (∃ row ∈ tallied.records, row.id = "ax" ∧ row.status = Status.published.tag) ∧
      (∀ row ∈ tallied.records,
        (Tables.read? (Orchestrator.decode .document) row.document (visit 'e').supply).isSome = true) ∧
      (∃ row ∈ tallied.events, row.executionId = "cx") ∧
      (∃ x ∈ tallied.executions, x.id = "cx" ∧ x.orchestratorId = "ax") ∧
      (handle (visit 'e') dismissing tallied).1.status = 200 := by decide +kernel
  obtain ⟨⟨row, mem, key, tag⟩, read, event, ⟨x, run, name, owner⟩, done⟩ := facts
  obtain ⟨intact, listed, deleted⟩ := references_kept tallied_reached
  have sound := reached_sound tallied_reached
  have each : ∀ row ∈ tallied.records, row.Readable := by
    intro row mem
    obtain ⟨⟨l, w⟩, given⟩ := Option.isSome_iff_exists.mp (read row mem)
    exact ⟨l, (sound.gives mem given).1.reads⟩
  have new := visit_new 'e' ['d', 'c', 'b', 'a'] (by decide)
  obtain ⟨os, reply, lists⟩ := listed (visit 'e') (askingFor .published) .published ⟨rfl, by decide +kernel⟩
    (by decide +kernel) each
  obtain ⟨without, unknown⟩ := deleted (visit 'e') dismissing "ax" new
    ⟨dismissing, .known (by decide +kernel), rfl⟩ done _ _ .refl
  refine ⟨intact, event, ⟨os, reply, lists, ?_⟩, without, name ▸ unknown x run owner⟩
  obtain ⟨l, reads⟩ := each row mem
  obtain ⟨gives, _⟩ := sound.reads mem reads
  have status : l.status = .published := Status.eq_of_tag (gives.status.symm.trans tag)
  exact List.mem_map.mpr ⟨l, (lists.exact l).mpr ⟨row, mem, reads, status⟩, gives.name.symm.trans key⟩

end Service
end Orchestration
