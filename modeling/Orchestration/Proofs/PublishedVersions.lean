import Orchestration.Proofs.Requests

namespace Orchestration

-- A version with the graph and the chain of an orchestrator.
structure Orchestrator.Issued (o : Orchestrator) (v : Version) : Prop where
  graph : v.graph = o.graph
  chain : (o.toChain none).value = .ok v.chain

theorem Orchestrator.Issued.encode_finite {o : Orchestrator} (issued : o.Issued v) (plain : o.graph.Plain) :
    v.encode.finiteOnly = v.encode := by
  obtain ⟨_, chain⟩ := written_of_toChain issued.chain
  refine Version.encode_finite (issued.graph ▸ plain) ?_
  rw [chain]
  exact compiled_finite plain none

theorem Orchestrator.Issued.decode_encode {o : Orchestrator} (issued : o.Issued v) (plain : o.graph.Plain)
    (source : Source) (s : Supply) : Version.decode source v.encode s = .ok (v, s) := by
  obtain ⟨_, chain⟩ := written_of_toChain issued.chain
  refine Version.decode_encode (issued.graph ▸ plain) ?_ source s
  rw [chain]
  exact compiled_kept o none

-- The invariant of one orchestrator and its versions. Of an older version nothing is said but its number.
structure Orchestrator.InStep (o : Orchestrator) (history : List VersionRow) : Prop where
  numbered : Tables.Numbered history
  latest : o.publishedVersion = history.getLast?.map VersionRow.number
  current : o.status = .published → o.graph.Plain ∧ ∃ row v, history.getLast? = some row ∧
    row.document = v.encode ∧ v.number = row.number ∧ o.Issued v

theorem Orchestrator.InStep.loaded {o : Orchestrator} (inStep : o.InStep history) :
    o.loaded.InStep history where
  numbered := inStep.numbered
  latest := inStep.latest
  current := by
    intro published
    obtain ⟨plain, held⟩ := inStep.current published
    have same : o.loaded = o := by rw [Orchestrator.loaded, Graph.loaded_eq_self plain]
    rw [same]
    exact ⟨plain, held⟩

structure RecordRow.Holds (row : RecordRow) (o : Orchestrator) : Prop where
  name : row.id = o.id
  document : row.document = o.encode.finiteOnly
  valid : o.graph.Validated
  whole : o.encode.hasHalf = false
  created : o.createdAt.isSome = true

namespace Tables

structure InStep (t : Tables) : Prop where
  distinct : (t.records.map RecordRow.id).Nodup
  owned : ∀ row ∈ t.versions, row.orchestratorId ∈ t.records.map RecordRow.id
  each : ∀ row ∈ t.records, ∃ o, row.Holds o ∧ o.InStep (t.history row.id)

theorem inStep_empty : empty.InStep :=
  ⟨List.nodup_nil, fun _ mem => absurd mem List.not_mem_nil, fun _ mem => absurd mem List.not_mem_nil⟩

variable {t u v : Tables}

theorem InStep.loads (inStep : t.InStep) (loads : Service.Loads t key l) :
    key ∈ t.records.map RecordRow.id ∧ l.id = key ∧ l.graph.Plain ∧ l.InStep (t.history key) := by
  obtain ⟨row, mem, rfl, s, w, read⟩ := loads
  obtain ⟨o, holds, step⟩ := inStep.each row mem
  rw [holds.document] at read
  obtain ⟨rfl, _, plain⟩ := Orchestrator.loaded_of_decode holds.valid read
  exact ⟨List.mem_map_of_mem mem, holds.name.symm, plain, step.loaded⟩

theorem history_unowned (inStep : t.InStep) (new : key ∉ t.records.map RecordRow.id) : t.history key = [] := by
  rw [history, List.filter_eq_nil_iff]
  intro row mem same
  exact new (eq_of_beq same ▸ inStep.owned row mem)

-- Storing one orchestrator, after its versions were brought up to date.
theorem InStep.put (inStep : t.InStep) (records : v.records = t.records)
    (owned : ∀ row ∈ v.versions, row ∈ t.versions ∨ row.orchestratorId = o.id)
    (others : ∀ key, key ≠ o.id → v.history key = t.history key) (valid : o.graph.Validated)
    (step : o.InStep (v.history o.id)) (stored : v.putRecord o = .ok u) : u.InStep := by
  obtain ⟨row, copies, rfl⟩ := putRecord_copies stored
  have name := copies.name
  have rows : put (fun r => r.id == row.id) row v.records = put (fun r => r.id == row.id) row t.records := by
    rw [records]
  refine ⟨rows ▸ put_distinct inStep.distinct, ?_, ?_⟩
  · intro w mem
    show w.orchestratorId ∈ (put (fun r => r.id == row.id) row v.records).map RecordRow.id
    rw [rows, mem_put_ids, name]
    exact (owned w mem).imp_left (inStep.owned w)
  · intro r mem
    change r ∈ put (fun r => r.id == row.id) row v.records at mem
    rw [rows] at mem
    rcases mem_put inStep.distinct mem with rfl | ⟨old, other⟩
    · have whole := (Orchestrator.isWritable_iff.mp copies.writable).2
      refine ⟨o, ⟨name, copies.document, valid, whole, copies.created⟩, ?_⟩
      show o.InStep (v.history r.id)
      rwa [name]
    · obtain ⟨l, holds, before⟩ := inStep.each r old
      refine ⟨l, holds, ?_⟩
      show l.InStep (v.history r.id)
      rwa [others r.id (name ▸ other)]

theorem InStep.drop (inStep : t.InStep) (key : String) : (t.dropRecord key).InStep := by
  refine ⟨?_, ?_, ?_⟩
  · exact inStep.distinct.sublist (List.filter_sublist.map _)
  · intro row mem
    obtain ⟨present, other⟩ := List.mem_filter.mp mem
    obtain ⟨r, old, same⟩ := List.mem_map.mp (inStep.owned row present)
    refine List.mem_map.mpr ⟨r, List.mem_filter.mpr ⟨old, ?_⟩, same⟩
    rwa [same]
  · intro row mem
    obtain ⟨present, other⟩ := List.mem_filter.mp mem
    obtain ⟨o, holds, step⟩ := inStep.each row present
    refine ⟨o, holds, ?_⟩
    rwa [history_drop t (by simpa using other)]

theorem InStep.congr (inStep : t.InStep) (records : u.records = t.records) (versions : u.versions = t.versions) :
    u.InStep := by
  have history : ∀ key, u.history key = t.history key := fun key => by rw [Tables.history, versions, Tables.history]
  refine ⟨records ▸ inStep.distinct, records ▸ versions ▸ inStep.owned, ?_⟩
  intro row mem
  rw [history]
  exact inStep.each row (records ▸ mem)

-- The latest version is the new one, and it holds the labeled graph.
theorem InStep.publish (inStep : t.InStep) (loads : Service.Loads t key l)
    (done : (l.publish (t.nextVersion key) catalog now).value = .ok p) (added : t.addVersion p.version = some v)
    (stored : v.putRecord p.orchestrator = .ok u) : u.InStep := by
  obtain ⟨_, rfl, plain, step⟩ := inStep.loads loads
  obtain ⟨chain, made, published, version⟩ := Orchestrator.publish_parts done
  obtain ⟨records, versions⟩ := addVersion_parts added
  have relabeled : l.relabel.graph.Plain := Graph.plain_relabel plain
  have issued : p.orchestrator.Issued p.version := by
    rw [published, version]
    exact ⟨rfl, made⟩
  have graph : p.orchestrator.graph.Plain := by rwa [published]
  have name : p.orchestrator.id = l.id := by rw [published]; rfl
  have owner : p.version.orchestratorId = l.id := by rw [version]; rfl
  have number : p.version.number = (t.history l.id).length + 1 := by
    rw [version, ← nextVersion_eq step.numbered]
    rfl
  have history := history_add versions
  have mine : v.history p.orchestrator.id =
      t.history l.id ++ [⟨p.version.orchestratorId, p.version.number, p.version.encode.finiteOnly⟩] := by
    rw [name, history, if_pos owner]
  refine inStep.put records ?_ ?_ (Graph.validated_of_plain graph) ?_ stored
  · intro row mem
    rw [versions] at mem
    refine (List.mem_append.mp mem).imp_right fun new => ?_
    rw [List.mem_singleton.mp new, owner, name]
  · intro other different
    rw [history, if_neg, List.append_nil]
    exact fun same => different (same.symm.trans (owner.trans name.symm))
  · rw [mine]
    refine ⟨step.numbered.add number, ?_, fun _ => ⟨graph, _, p.version, List.getLast?_concat, ?_, rfl, issued⟩⟩
    · rw [List.getLast?_concat, Option.map_some, version, published]
      rfl
    · exact issued.encode_finite graph

-- Once its version was added, nothing keeps what was published from being stored.
theorem InStep.publish_stored (inStep : t.InStep) (loads : Service.Loads t key l)
    (done : (l.publish number catalog now).value = .ok p) (added : t.addVersion p.version = some v) :
    ∃ u, v.putRecord p.orchestrator = .ok u := by
  obtain ⟨row, mem, _, s, w, read⟩ := loads
  obtain ⟨o, holds, _⟩ := inStep.each row mem
  rw [holds.document] at read
  obtain ⟨rfl, _, _⟩ := Orchestrator.loaded_of_decode holds.valid read
  obtain ⟨_, id, name, description, last, created, _⟩ := Orchestrator.whole_encode.mp holds.whole
  obtain ⟨chain, _, published, version⟩ := Orchestrator.publish_parts done
  obtain ⟨fits, whole⟩ := Version.isWritable_parts (addVersion_writable added)
  obtain ⟨graph, now⟩ := Version.whole_parts whole
  rw [version] at fits graph now
  rw [published]
  refine putRecord_ok v (Orchestrator.isWritable_iff.mpr ⟨fits, ?_⟩) holds.created rfl
  exact Orchestrator.whole_encode.mpr ⟨graph, id, name, description, last, created, now⟩

-- Storing in place of an orchestrator that was read. A published one has kept its graph and its name.
theorem InStep.change (inStep : t.InStep) (loads : Service.Loads t key l) (records : v.records = t.records)
    (versions : v.versions = t.versions) (stored : v.putRecord o = .ok u) (name : o.id = l.id)
    (valid : l.graph.Validated → o.graph.Validated) (version : o.publishedVersion = l.publishedVersion)
    (still : o.status = .published → l.status = .published ∧ o.graph = l.graph ∧ o.name = l.name) : u.InStep := by
  obtain ⟨_, rfl, plain, step⟩ := inStep.loads loads
  have history : ∀ key, v.history key = t.history key := fun key => by rw [Tables.history, versions, Tables.history]
  refine inStep.put records (fun _ mem => .inl (versions ▸ mem)) (fun key _ => history key)
    (valid (Graph.validated_of_plain plain)) ?_ stored
  rw [history, name]
  refine ⟨step.numbered, version.trans step.latest, fun published => ?_⟩
  obtain ⟨before, graph, title⟩ := still published
  obtain ⟨_, row, w, last, document, number, issued⟩ := step.current before
  have chain : o.toChain none = l.toChain none := by rw [Orchestrator.toChain, graph, title, name]; rfl
  exact ⟨graph ▸ plain, row, w, last, document, number, issued.graph.trans graph.symm, chain ▸ issued.chain⟩

theorem InStep.create (inStep : t.InStep) (new : o.id ∉ t.records.map RecordRow.id) (valid : o.graph.Validated)
    (draft : o.status = .draft) (unpublished : o.publishedVersion = none) (stored : t.putRecord o = .ok u) :
    u.InStep := by
  refine inStep.put rfl (fun _ mem => .inl mem) (fun _ _ => rfl) valid ?_ stored
  rw [history_unowned inStep new]
  refine ⟨rfl, unpublished, fun published => ?_⟩
  cases draft.symm.trans published

theorem InStep.write (inStep : t.InStep) (new : ∀ n, c.supply.name n ∉ t.records.map RecordRow.id)
    (writes : Service.Writes c t v o) (stored : v.putRecord o = .ok u) : u.InStep := by
  cases writes with
  | created n request valid => exact inStep.create (new n) (Graph.validated_relabel valid) rfl rfl stored
  | edited found draft valid =>
    refine inStep.change (Service.loads_of_find found) rfl rfl stored rfl
      (fun _ => Graph.validated_relabel valid) rfl fun published => ?_
    cases draft.symm.trans published
  | moved found moves =>
    refine inStep.change (Service.loads_of_find found) rfl rfl stored rfl (fun valid => valid) rfl
      fun published => ?_
    exact absurd published moves.not_published
  | published found done added => exact inStep.publish (Service.loads_of_find found) done added stored
  | refreshed logs found summed =>
    rw [Service.find_congr logs.records.1] at found
    exact inStep.change (Service.loads_of_find found) logs.records.1 logs.records.2 stored rfl (fun valid => valid) rfl
      fun published => ⟨published, rfl, rfl⟩

theorem InStep.step (inStep : t.InStep) (new : ∀ n, c.supply.name n ∉ t.records.map RecordRow.id)
    (effect : Service.Effect c r t u) : u.InStep := by
  cases effect with
  | none => exact inStep
  | stored writes stored => exact inStep.write new writes stored
  | issued found done added stuck =>
    obtain ⟨u, stored⟩ := inStep.publish_stored (Service.loads_of_find found) done added
    exact absurd stored (stuck u)
  | deleted => exact (inStep.drop _).congr rfl rfl
  | triggered => exact inStep.congr rfl rfl
  | logged logs _ => exact inStep.congr logs.records.1 logs.records.2

end Tables

namespace Service

-- Requests are served one after the other, and the names that come with one are new.
inductive Reached : List Supply → Tables → Prop where
  | start : Reached [] Tables.empty
  | step (reached : Reached past t) (c : Surroundings) (r : Request)
    (new : ∀ before ∈ past, ∀ m n, c.supply.name m ≠ before.name n) :
    Reached (c.supply :: past) (handle c r t).2

-- A name that one of the requests so far came with.
def Drawn (past : List Supply) (key : String) : Prop := ∃ before ∈ past, ∃ n, key = before.name n

theorem Drawn.mono (drawn : Drawn past key) (kept : past ⊆ past') : Drawn past' key := by
  obtain ⟨before, mem, n, same⟩ := drawn
  exact ⟨before, kept mem, n, same⟩

theorem Drawn.not_new {s : Supply} (drawn : Drawn past key)
    (new : ∀ before ∈ past, ∀ m n, s.name m ≠ before.name n) (n : Nat) : key ≠ s.name n := by
  obtain ⟨before, mem, m, rfl⟩ := drawn
  exact (new before mem n m).symm

theorem not_new_of_drawn {s : Supply} {ids : List String} (drawn : ∀ key ∈ ids, Drawn past key)
    (new : ∀ before ∈ past, ∀ m n, s.name m ≠ before.name n) (n : Nat) : s.name n ∉ ids :=
  fun present => (drawn _ present).not_new new n rfl

-- Ids that a request brings are names that it came with.
theorem drawn_of_brought {s : Supply} {ids ids' : List String} (drawn : ∀ key ∈ ids, Drawn past key)
    (brought : ∀ key ∈ ids', key ∈ ids ∨ ∃ n, key = s.name n) : ∀ key ∈ ids', Drawn (s :: past) key := by
  intro key mem
  rcases brought key mem with old | ⟨n, rfl⟩
  · exact (drawn key old).mono (List.subset_cons_self _ _)
  · exact ⟨s, List.mem_cons_self, n, rfl⟩

theorem ids_of_put {t u : Tables} {o : Orchestrator} (stored : t.putRecord o = .ok u)
    (mem : key ∈ u.records.map RecordRow.id) : key ∈ t.records.map RecordRow.id ∨ key = o.id := by
  obtain ⟨row, name, _, rows, _⟩ := Tables.putRecord_parts stored
  rw [rows, Tables.mem_put_ids, name] at mem
  exact mem

theorem id_of_writes {t : Tables} (inStep : t.InStep) (writes : Writes c t v o) :
    v.records = t.records ∧ (o.id ∈ t.records.map RecordRow.id ∨ ∃ n, o.id = c.supply.name n) := by
  cases writes with
  | created n _ _ => exact ⟨rfl, .inr ⟨n, rfl⟩⟩
  | edited found _ _ =>
    obtain ⟨present, rfl, _, _⟩ := inStep.loads (loads_of_find found)
    exact ⟨rfl, .inl present⟩
  | moved found _ =>
    obtain ⟨present, rfl, _, _⟩ := inStep.loads (loads_of_find found)
    exact ⟨rfl, .inl present⟩
  | published found done added =>
    obtain ⟨present, rfl, _, _⟩ := inStep.loads (loads_of_find found)
    obtain ⟨_, _, published, _⟩ := Orchestrator.publish_parts done
    rw [published]
    exact ⟨(Tables.addVersion_parts added).1, .inl present⟩
  | refreshed logs found _ =>
    rw [find_congr logs.records.1] at found
    obtain ⟨present, name, _, _⟩ := inStep.loads (loads_of_find found)
    exact ⟨logs.records.1, .inl (by rwa [show (refreshed _ _).id = _ from name])⟩

theorem ids_of_effect {t u : Tables} (inStep : t.InStep) (effect : Effect c r t u)
    (mem : key ∈ u.records.map RecordRow.id) :
    key ∈ t.records.map RecordRow.id ∨ ∃ n, key = c.supply.name n := by
  cases effect with
  | none => exact .inl mem
  | stored writes stored =>
    obtain ⟨records, named⟩ := id_of_writes inStep writes
    rcases ids_of_put stored mem with old | rfl
    · exact .inl (records ▸ old)
    · exact named
  | issued _ _ added _ => exact .inl ((Tables.addVersion_parts added).1 ▸ mem)
  | deleted => exact .inl ((List.filter_sublist.map _).subset mem)
  | triggered => exact .inl mem
  | logged logs _ => exact .inl (logs.records.1 ▸ mem)

theorem reached_inStep (reached : Reached past t) :
    t.InStep ∧ ∀ key ∈ t.records.map RecordRow.id, Drawn past key := by
  induction reached with
  | start => exact ⟨Tables.inStep_empty, fun _ mem => absurd mem List.not_mem_nil⟩
  | @step past t _ c r new ih =>
    obtain ⟨inStep, named⟩ := ih
    have effect := handle_effect c r t
    refine ⟨inStep.step (not_new_of_drawn named new) effect, ?_⟩
    exact drawn_of_brought named fun key mem => ids_of_effect inStep effect mem

theorem find_of_read {t : Tables} (inStep : t.InStep) (present : row ∈ t.records)
    (read : Tables.read? (Orchestrator.decode .document) row.document s = some (o, u)) (w : Supply) :
    find t row.id w = .ok (o, w) := by
  obtain ⟨within, decoded⟩ := read?_parts read
  obtain ⟨l, holds, _⟩ := inStep.each row present
  rw [holds.document] at within decoded
  obtain ⟨placed, score⟩ := Orchestrator.finite_of_decode decoded
  rw [Orchestrator.decode_stored holds.valid placed score] at decoded
  cases decoded
  have again := Orchestrator.decode_stored holds.valid placed score .document w
  simp only [find, Tables.record?_of_mem inStep.distinct present, holds.document, Tables.read?, within, if_true, again]
  rfl

-- The versions and the published version of an orchestrator, with so many of them.
structure Versioned (t : Tables) (o : Orchestrator) (n : Nat) : Prop where
  numbers : (t.versionsOf o.id).map VersionRow.number = (List.range n).map fun (i : Nat) => (i : Int) + 1
  published : o.publishedVersion = if n = 0 then none else some (n : Int)
  current : o.status = .published → 1 ≤ n ∧ ∃ row v, t.latestVersion? o.id = some row ∧ row.number = n ∧
    (∀ s, Version.decode .document row.document s = .ok (v, s)) ∧ v.number = n ∧ v.graph = o.graph ∧
    (o.toChain none).value = .ok v.chain

theorem versioned_of_inStep {t : Tables} {o : Orchestrator} (step : o.InStep (t.history o.id)) :
    Versioned t o (t.history o.id).length := by
  refine ⟨Tables.versionsOf_eq step.numbered ▸ step.numbered, ?_, ?_⟩
  · rw [step.latest]
    cases last : (t.history o.id).getLast? with
    | none => simp [List.getLast?_eq_none_iff.mp last]
    | some row =>
      have some : (t.history o.id).length ≠ 0 := by
        intro none
        rw [List.length_eq_zero_iff.mp none] at last
        cases last
      rw [if_neg some, Option.map_some, step.numbered.last last]
  · intro published
    obtain ⟨plain, row, v, last, document, number, issued⟩ := step.current published
    have place := step.numbered.last last
    refine ⟨?_, row, v, (Tables.latestVersion?_eq step.numbered).trans last, place, ?_, number.trans place,
      issued.graph, issued.chain⟩
    · obtain ⟨before, same⟩ := List.getLast?_eq_some_iff.mp last
      simp [same]
    · intro s
      rw [document]
      exact issued.decode_encode plain .document s

-- A request to trigger the orchestrator with an id.
def Triggers (c : Surroundings) (r : Request) (key : String) : Prop :=
  r.method = "POST" ∧ endpoint? r.path = some .trigger ∧
    ∃ request s, readBody TriggerBody.decode r.body c.supply = .ok (request, s) ∧ request.orchestratorId = key

theorem handle_of_triggers (triggers : Triggers c r key) (t : Tables) : handle c r t = trigger c r.body t := by
  obtain ⟨method, known, _⟩ := triggers
  rw [handle_known known]
  simp only [serve, write?, method]

-- What comes of a trigger, with the tables after it. That there is no version is not among it.
inductive Triggered (now : String) (t : Tables) (o : Orchestrator) : Reply × Tables → Prop where
  | refused (unpublished : o.status ≠ .published) :
    Triggered now t o (.refused 409 (LifecycleFault.message (.notTriggerable o.id o.status)), t)
  | recorded (published : o.status = .published) (latest : t.latestVersion? o.id = some row)
    (readable : row.document.within Json.deepestStored = true) (key : String) (n : Int)
    (version : o.publishedVersion = some n) :
    Triggered now t o (.ok (Execution.encode ⟨key, o.id, n, .pending, now, none⟩),
      t.putExecution ⟨key, o.id, n, .pending, now, none⟩)
  -- The latest version lies deeper than stored documents are read.
  | unreadable (published : o.status = .published) (latest : t.latestVersion? o.id = some row)
    (deep : row.document.within Json.deepestStored = false) : Triggered now t o (.failure, t)

theorem triggered {t : Tables} (inStep : t.InStep) (present : row ∈ t.records)
    (read : Tables.read? (Orchestrator.decode .document) row.document s = some (o, u))
    (triggers : Triggers c r row.id) : Triggered c.now t o (handle c r t) := by
  obtain ⟨_, name, plain, step⟩ := inStep.loads ⟨row, present, rfl, s, u, (read?_parts read).2⟩
  rw [handle_of_triggers triggers]
  obtain ⟨_, _, request, w, body, key⟩ := triggers
  have found : find t request.orchestratorId w = .ok (o, w) := key ▸ find_of_read inStep present read w
  rw [← name] at step
  rw [trigger, answer_given_ok body, answer_read_ok found]
  by_cases published : o.status = .published
  · obtain ⟨_, row, v, last, document, number, issued⟩ := step.current published
    have latest := (Tables.latestVersion?_eq step.numbered).trans last
    have version : o.publishedVersion = some v.number := by rw [step.latest, last, Option.map_some, number]
    have decoded := issued.decode_encode plain .document w
    rw [← document] at decoded
    have allowed : o.ensureTriggerable.mapError Reply.ofLifecycle = .ok () := by
      rw [Orchestrator.ensureTriggerable, if_pos published]
      rfl
    rw [answer_given_ok allowed]
    cases within : row.document.within Json.deepestStored with
    | true =>
      have stored : Service.latest t o.id w = .ok (v, w) := by
        simp only [Service.latest, latest, Tables.read?, within, if_true, decoded]
        rfl
      rw [answer_read_ok stored]
      exact .recorded published latest within _ _ version
    | false =>
      have unread : Service.latest t o.id w = .error .failure := by
        simp only [Service.latest, latest, Tables.read?, within, Bool.false_eq_true, if_false]
        rfl
      rw [answer_read_error unread]
      exact .unreadable published latest within
  · have refused : o.ensureTriggerable.mapError Reply.ofLifecycle =
        .error (.refused 409 (LifecycleFault.message (.notTriggerable o.id o.status))) := by
      rw [Orchestrator.ensureTriggerable, if_neg published]
      rfl
    rw [answer_given_error refused]
    exact .refused published

-- Whatever requests came before, versions are numbered from one on, the published version is the latest one, and as
-- long as an orchestrator is published the latest one holds its graph and its chain.
theorem published_versions_in_step (reached : Reached past t) (present : row ∈ t.records)
    (read : Tables.read? (Orchestrator.decode .document) row.document s = some (o, u)) :
    o.id = row.id ∧ (∃ n, Versioned t o n) ∧
      ∀ c r, Triggers c r row.id → Triggered c.now t o (handle c r t) := by
  obtain ⟨inStep, _⟩ := reached_inStep reached
  obtain ⟨_, name, _, step⟩ := inStep.loads ⟨row, present, rfl, s, u, (read?_parts read).2⟩
  rw [← name] at step
  exact ⟨name, ⟨_, versioned_of_inStep step⟩, fun _ _ triggers => triggered inStep present read triggers⟩

-- A first request with names that start with a letter of its own, and what is sent to a path.
def visit (letter : Char) : Surroundings :=
  ⟨⟨fun n => String.ofList (letter :: List.replicate n 'x'), 0⟩, "2026-01-01", ⟨[]⟩⟩

def sent (path : String) (body : Json) : Request :=
  ⟨"POST", ⟨['h', 't', 't', 'p'], [], ['h'], none, path.toList, none, none⟩, body⟩

theorem visit_fresh (different : first ≠ second) (m n : Nat) :
    (visit first).supply.name m ≠ (visit second).supply.name n := by
  intro same
  have letters := congrArg String.toList same
  simp only [visit, String.toList_ofList, List.cons.injEq] at letters
  exact different letters.1

-- The tables that a request leaves.
def tablesAfter (c : Surroundings) (r : Request) (t : Tables) : Tables := (handle c r t).2

theorem Reached.next (reached : Reached past t) (new : ∀ before ∈ past, ∀ m n, c.supply.name m ≠ before.name n) :
    Reached (c.supply :: past) (tablesAfter c r t) :=
  .step reached c r new

theorem visit_new (first : Char) (letters : List Char) (lacks : first ∉ letters) :
    ∀ before ∈ letters.map fun letter => (visit letter).supply, ∀ m n, (visit first).supply.name m ≠ before.name n := by
  intro before mem
  obtain ⟨letter, among, rfl⟩ := List.mem_map.mp mem
  exact visit_fresh fun same => lacks (same ▸ among)

-- The tables after an orchestrator with one step was created and published. Its payload holds a value.
def issued (value : Json) : Tables :=
  let step : Json := .obj [("id", .str "start"), ("kind", .str "trigger"), ("data", .obj [("note", value)])]
  let draft : Json := .obj [("name", .str "Leave"), ("nodes", .arr [step])]
  let created := (handle (visit 'a') (sent "/api/orchestrators" draft) Tables.empty).2
  (handle (visit 'b') (sent "/api/orchestrators/ax/publish" .null) created).2

theorem issued_reached (value : Json) :
    Reached [(visit 'b').supply, (visit 'a').supply] (issued value) :=
  .step (.step .start (visit 'a') _ (visit_new 'a' [] (by decide))) (visit 'b') _ (visit_new 'b' ['a'] (by decide))

def triggering : Request := sent "/api/trigger" (.obj [("orchestrator_id", .str "ax")])

theorem triggering_triggers : Triggers (visit 'c') triggering "ax" :=
  ⟨rfl, by decide +kernel, ⟨"ax", []⟩, (visit 'c').supply, rfl, rfl⟩

-- Whether the orchestrator can be read and is published.
def stands (t : Tables) : Bool :=
  t.records.any fun row => row.id == "ax" &&
    (Tables.read? (Orchestrator.decode .document) row.document (visit 'c').supply).any (·.1.status == .published)

theorem stands_parts {t : Tables} (stays : stands t = true) : ∃ row ∈ t.records, row.id = "ax" ∧ ∃ o u,
    Tables.read? (Orchestrator.decode .document) row.document (visit 'c').supply = some (o, u) ∧
      o.status = .published := by
  obtain ⟨row, mem, found⟩ := List.any_eq_true.mp stays
  rw [Bool.and_eq_true, Option.any_eq_true_iff_get] at found
  obtain ⟨same, given, status⟩ := found
  exact ⟨row, mem, eq_of_beq same, _, _, Option.eq_some_of_isSome given, eq_of_beq status⟩

theorem issued_in_step : ∃ row ∈ (issued .null).records, ∃ o u,
    Tables.read? (Orchestrator.decode .document) row.document (visit 'c').supply = some (o, u) ∧
      o.status = .published ∧ o.id = row.id ∧ (∃ n, Versioned (issued .null) o n) ∧
      Triggered "2026-01-01" (issued .null) o (handle (visit 'c') triggering (issued .null)) := by
  obtain ⟨row, mem, key, o, u, read, status⟩ := stands_parts (t := issued .null) (by decide +kernel)
  obtain ⟨name, versioned, triggered⟩ := published_versions_in_step (issued_reached .null) mem read
  exact ⟨row, mem, o, u, read, status, name, versioned, triggered _ _ (key ▸ triggering_triggers)⟩

-- An orchestrator just shallow enough to be read. Its version, which holds the value one level further
-- down, is not.
theorem deep_version_not_triggered : ¬ ∀ past t row s o u, Reached past t → row ∈ t.records →
    Tables.read? (Orchestrator.decode .document) row.document s = some (o, u) →
    ∀ c r, Triggers c r row.id → (o.status = .published ↔ (handle c r t).1.status = 200) := by
  intro always
  obtain ⟨row, mem, key, o, u, read, status⟩ := stands_parts (t := issued (.nested 196)) (by decide +kernel)
  have answered := (always _ _ row _ o u (issued_reached _) mem read _ _ (key ▸ triggering_triggers)).mp status
  have failed : (handle (visit 'c') triggering (issued (.nested 196))).1.status = 500 := by decide +kernel
  rw [failed] at answered
  cases answered

end Service
end Orchestration
