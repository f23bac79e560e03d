import Orchestration.Proofs.StoredRecords

namespace Orchestration

-- Two rows of one orchestrator, and what is read of them.
structure RecordRow.Keeps (row after : RecordRow) (l k : Orchestrator) : Prop where
  before : row.Reads l
  status : row.status = l.status.tag
  reads : after.Reads k
  later : after.status = k.status.tag
  graph : k.graph = l.graph
  name : k.name = l.name
  description : k.description = l.description
  archived : l.status = .archived → k.status = .archived

theorem RecordRow.Gives.keeps {row : RecordRow} (gives : row.Gives l) : row.Keeps row l l :=
  ⟨gives.reads, gives.status, gives.reads, gives.status, rfl, rfl, rfl, fun archived => archived⟩

theorem RecordRow.Keeps.trans {first second third : RecordRow} (left : first.Keeps second l k)
    (right : second.Keeps third k' m) : first.Keeps third l m := by
  cases left.reads.unique right.before
  exact ⟨left.before, left.status, right.reads, right.later, right.graph.trans left.graph,
    right.name.trans left.name, right.description.trans left.description, fun archived =>
    right.archived (left.archived archived)⟩

theorem Tables.InStep.row_unique {t : Tables} (inStep : t.InStep) (mem : row ∈ t.records)
    (other : row' ∈ t.records) (same : row'.id = row.id) : row' = row := by
  have first := record?_of_mem inStep.distinct mem
  rw [← same, record?_of_mem inStep.distinct other] at first
  exact Option.some.inj first

theorem Service.Moves.stays_archived {before after : Status} (moves : Moves before after) (archived : before = .archived) :
    after = .archived := by
  cases moves with
  | withdrawn => cases archived
  | archived active => rfl

namespace Service

variable {c : Surroundings} {r : Request} {t : Tables}

-- What a request leaves of a history: its end may have grown.
theorem history_of_writes (writes : Writes c t v o) (key : String) : t.history key <+: v.history key := by
  cases writes with
  | created | edited | moved => exact List.prefix_rfl
  | published _ _ added =>
    rw [Tables.history_add (Tables.addVersion_parts added).2]
    exact List.prefix_append _ _
  | refreshed logs _ _ =>
    rw [Tables.history, Tables.history, logs.records.2]

theorem history_of_effect (effect : Effect c r t u) (key : String) :
    Deletes r key ∨ t.history key <+: u.history key := by
  cases effect with
  | none | triggered => exact .inr List.prefix_rfl
  | stored writes stored =>
    obtain ⟨_, _, rfl⟩ := Tables.putRecord_copies stored
    exact .inr (history_of_writes writes key)
  | issued found done added _ => exact .inr (history_of_writes (.published found done added) key)
  | @deleted gone asked =>
    by_cases same : key = gone
    · exact .inl (same ▸ asked)
    · have rest : ((t.dropRecord gone).dropExecutions gone).history key = t.history key := Tables.history_drop t same
      exact .inr (rest ▸ List.prefix_rfl)
  | logged logs _ =>
    have rest : u.history key = t.history key := by rw [Tables.history, Tables.history, logs.records.2]
    exact .inr (rest ▸ List.prefix_rfl)

theorem found_given (inStep : t.InStep) (sound : t.Sound) (mem : row ∈ t.records) (gives : row.Gives l)
    (found : find t key s = .ok (k, w)) (same : k.id = row.id) : k = l := by
  obtain ⟨row', other, _, given⟩ := sound.found found
  cases inStep.row_unique mem other (given.name.trans same)
  exact given.reads.unique gives.reads

theorem content_of_writes (inStep : t.InStep) (sound : t.Sound)
    (new : ∀ n, c.supply.name n ∉ t.records.map RecordRow.id) (mem : row ∈ t.records) (gives : row.Gives l)
    (fixed : l.status ≠ .draft) (writes : Writes c t v o) (same : o.id = row.id) :
    o.graph = l.graph ∧ o.name = l.name ∧ o.description = l.description ∧
      (l.status = .archived → o.status = .archived) := by
  cases writes with
  | created n _ _ => exact absurd (List.mem_map.mpr ⟨row, mem, same.symm⟩) (new n)
  | edited found draft _ =>
    cases found_given inStep sound mem gives found same
    exact absurd draft fixed
  | moved found moves =>
    cases found_given inStep sound mem gives found same
    exact ⟨rfl, rfl, rfl, moves.stays_archived⟩
  | published found done _ =>
    obtain ⟨_, _, published, _⟩ := Orchestrator.publish_parts done
    rw [published] at same ⊢
    cases found_given inStep sound mem gives found same
    have active := (Orchestrator.publishable_of_publish done).active
    exact ⟨gives.sound.labeled.relabel, rfl, rfl, fun archived => absurd archived active⟩
  | refreshed logs found _ =>
    rw [find_congr logs.records.1] at found
    cases found_given inStep sound mem gives found same
    exact ⟨rfl, rfl, rfl, fun archived => archived⟩

theorem keeps_of_effect (inStep : t.InStep) (sound : t.Sound)
    (new : ∀ n, c.supply.name n ∉ t.records.map RecordRow.id) (effect : Effect c r t u) (mem : row ∈ t.records)
    (fixed : row.status ≠ Status.draft.tag) (later : after ∈ u.records) (same : after.id = row.id) :
    ∃ l k, row.Keeps after l k := by
  obtain ⟨o, copies, good⟩ := sound row mem
  have settled : o.status ≠ .draft := fun draft => fixed (copies.status.trans (congrArg Status.tag draft))
  have gives := copies.gives good (good.readable settled)
  rcases row_of_effect inStep effect later with old | ⟨v, p, writes, written⟩
  · cases inStep.row_unique mem old same
    exact ⟨_, _, gives.keeps⟩
  · obtain ⟨graph, name, description, archived⟩ :=
      content_of_writes inStep sound new mem gives settled writes (written.name.symm.trans same)
    have readable : p.Readable := ⟨Graph.placed_of_plain (graph ▸ gives.plain), graph ▸ gives.shallow⟩
    have given := written.gives (sound_of_writes sound writes) readable
    have kept : p.loaded.graph = p.graph := Graph.loaded_eq_self (graph ▸ gives.plain)
    exact ⟨_, _, gives.reads, gives.status, given.reads, given.status, kept.trans graph, name, description, archived⟩

-- What one request leaves as it is.
structure Kept (r : Request) (t u : Tables) : Prop where
  versions : ∀ key, Deletes r key ∨ t.history key <+: u.history key
  contents : ∀ row ∈ t.records, row.status ≠ Status.draft.tag → ∀ after ∈ u.records, after.id = row.id →
    ∃ l k, row.Keeps after l k

-- More requests are served, with names that are new again.
inductive Continues (past : List Supply) (t : Tables) : List Supply → Tables → Prop where
  | refl : Continues past t past t
  | step (before : Continues past t past' u) (c : Surroundings) (r : Request)
    (new : ∀ before ∈ past', ∀ m n, c.supply.name m ≠ before.name n) :
    Continues past t (c.supply :: past') (handle c r u).2

theorem Continues.reached (continues : Continues past t past' u) (reached : Reached past t) : Reached past' u := by
  induction continues with
  | refl => exact reached
  | step _ c r new ih => exact .step ih c r new

theorem Continues.past_subset (continues : Continues past t past' u) : past ⊆ past' := by
  induction continues with
  | refl => exact fun _ mem => mem
  | step _ _ _ _ ih => exact fun _ mem => List.mem_cons_of_mem _ (ih mem)

theorem new_ids (reached : Reached past t) (new : ∀ before ∈ past, ∀ m n, c.supply.name m ≠ before.name n)
    (n : Nat) : c.supply.name n ∉ t.records.map RecordRow.id :=
  not_new_of_drawn (reached_inStep reached).2 new n

theorem kept (reached : Reached past t) (new : ∀ before ∈ past, ∀ m n, c.supply.name m ≠ before.name n)
    (r : Request) : Kept r t (handle c r t).2 where
  versions := history_of_effect (handle_effect c r t)
  contents := fun _ mem fixed _ later same =>
    keeps_of_effect (reached_inStep reached).1 (reached_sound reached) (new_ids reached new) (handle_effect c r t)
      mem fixed later same

-- An id that is gone does not come back, so an archived orchestrator was there all the time.
theorem Continues.archived (continues : Continues past t past' u) (reached : Reached past t) (mem : row ∈ t.records)
    (archived : row.status = Status.archived.tag) (later : after ∈ u.records) (same : after.id = row.id) :
    ∃ l k, row.Keeps after l k ∧ l.status = .archived := by
  induction continues generalizing after with
  | refl =>
    cases (reached_inStep reached).1.row_unique mem later same
    obtain ⟨o, copies, good⟩ := reached_sound reached row mem
    have status : o.status = .archived := Status.eq_of_tag (copies.status.symm.trans archived)
    have gives := copies.gives good (good.readable (by simp [status]))
    exact ⟨_, _, gives.keeps, status⟩
  | @step past' u before c r new ih =>
    have reached' := before.reached reached
    have effect := handle_effect c r u
    have known : row.id ∈ (handle c r u).2.records.map RecordRow.id := List.mem_map.mpr ⟨after, later, same⟩
    have present : row.id ∈ u.records.map RecordRow.id := by
      rcases ids_of_effect (reached_inStep reached').1 effect known with old | ⟨n, drawn⟩
      · exact old
      · have once := (reached_inStep reached).2 row.id (List.mem_map_of_mem mem)
        exact absurd drawn ((once.mono before.past_subset).not_new new n)
    obtain ⟨middle, between, name⟩ := List.mem_map.mp present
    obtain ⟨l, k, keeps, status⟩ := ih between name
    have fixed : middle.status ≠ Status.draft.tag := by
      rw [keeps.later, keeps.archived status]
      decide
    obtain ⟨k', m, next⟩ := (kept reached' new r).contents middle between fixed after later (same.trans name.symm)
    exact ⟨l, m, keeps.trans next, status⟩

-- Whatever requests came before, and whatever requests follow.
theorem published_history_kept (reached : Reached past t) :
    (∀ c r, (∀ before ∈ past, ∀ m n, c.supply.name m ≠ before.name n) → Kept r t (handle c r t).2) ∧
    ∀ past' u, Continues past t past' u → ∀ row ∈ t.records, row.status = Status.archived.tag →
      ∀ after ∈ u.records, after.id = row.id →
        after.status = Status.archived.tag ∧ ∃ l k, row.Keeps after l k := by
  refine ⟨fun c r new => kept reached new r, fun past' u continues row mem archived after later same => ?_⟩
  obtain ⟨l, k, keeps, status⟩ := continues.archived reached mem archived later same
  exact ⟨keeps.later.trans (congrArg Status.tag (keeps.archived status)), l, k, keeps⟩

-- Publishing a second time.
theorem issued_kept : ∃ row ∈ (issued .null).records, row.status = Status.published.tag ∧
    ∃ after ∈ (handle (visit 'c') (sent "/api/orchestrators/ax/publish" .null) (issued .null)).2.records,
      after.id = row.id ∧ ∃ l k, row.Keeps after l k := by
  have rows : ∃ row ∈ (issued .null).records, row.status = Status.published.tag ∧
      ∃ after ∈ (handle (visit 'c') (sent "/api/orchestrators/ax/publish" .null) (issued .null)).2.records,
        after.id = row.id := by decide +kernel
  obtain ⟨row, mem, status, after, later, same⟩ := rows
  have kept := (published_history_kept (issued_reached .null)).1 (visit 'c')
    (sent "/api/orchestrators/ax/publish" .null) (visit_new 'c' ['b', 'a'] (by decide))
  exact ⟨row, mem, status, after, later, same, kept.contents row mem (by rw [status]; decide) after later same⟩

end Service
end Orchestration
