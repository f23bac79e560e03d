import Orchestration.Proofs.StoredReferences

namespace Orchestration

theorem ExecutionRow.Holds.read {row : ExecutionRow} (holds : row.Holds e) (s : Supply) :
    Tables.read? (Execution.decode .document) row.document s = some (e, s) := by
  rw [Tables.read?, holds.document, if_pos e.within_encode, Execution.decode_encode]
  rfl

def Execution.Marked (e : Execution) : Prop := e.finishedAt.isSome = true

def Execution.Finished (e : Execution) : Prop := e.status.isFinished = true

namespace Service

variable {c : Surroundings} {r : Request} {t u v : Tables}

-- A report sets a mark, or it leaves it as it is and does not finish the execution.
theorem advanced_cases (e : Execution) (status : Option ExecutionStatus) (now : String) :
    advanced e status now = e ∨
      ((advanced e status now).Finished ∧ (advanced e status now).finishedAt = some now) ∨
      (¬ (advanced e status now).Finished ∧ (advanced e status now).finishedAt = e.finishedAt) := by
  unfold advanced
  split
  · exact .inl rfl
  · rename_i new
    split
    · exact .inl rfl
    · right
      cases finished : new.isFinished with
      | true => exact .inl ⟨finished, rfl⟩
      | false => exact .inr ⟨by simp [Execution.Finished, finished], rfl⟩

-- Where an execution comes from, after one request: it was there, it is new, or it was reported on.
inductive Comes (c : Surroundings) (t : Tables) (row : ExecutionRow) : Execution → Prop where
  | stays (mem : row ∈ t.executions) (holds : row.Holds e) : Comes c t row e
  | begins (n : Nat) (drawn : e.id = c.supply.name n) (pending : e.status = .pending) (unmarked : e.finishedAt = none) :
    Comes c t row e
  | reported (mem : old ∈ t.executions) (name : row.id = old.id) (holds : old.Holds e)
    (status : Option ExecutionStatus) (now : String) : Comes c t row (advanced e status now)

theorem comes_of_mem (filed : t.Filed) (mem : row ∈ t.executions) : ∃ f, row.Holds f ∧ Comes c t row f := by
  obtain ⟨f, holds⟩ := filed.executions row mem
  exact ⟨f, holds, .stays mem holds⟩

theorem comes_of_logs (filed : t.Filed) (logs : Logs t e v) (mem : row ∈ v.executions) :
    ∃ f, row.Holds f ∧ Comes c t row f := by
  obtain ⟨_, found, added, status, now, _⟩ := logs
  obtain ⟨old, present, rfl, before⟩ := findExecution_parts filed found
  obtain ⟨_, logged⟩ := Tables.addEvents_parts added
  have executions := congrArg Tables.executions logged
  dsimp only at executions
  split at mem
  · exact comes_of_mem filed (executions ▸ mem)
  · obtain ⟨name, owner⟩ := advanced_same e status now
    have agrees : ∀ other ∈ t.executions, other.id = (advanced e status now).id →
        other.orchestratorId = (advanced e status now).orchestratorId := by
      intro other among again
      cases filed.execution_unique present among ((again.trans name).trans before.name.symm)
      exact before.owner.trans owner.symm
    obtain ⟨written, holds, same⟩ := Tables.putExecution_parts (executions.symm ▸ agrees)
    rw [same, executions] at mem
    rcases Tables.mem_put filed.distinct mem with rfl | ⟨kept, _⟩
    · exact ⟨_, holds, .reported present (holds.name.trans (name.trans before.name.symm)) before status now⟩
    · exact comes_of_mem filed kept

theorem comes_of_effect (filed : t.Filed) (new : ∀ n, c.supply.name n ∉ t.executions.map ExecutionRow.id)
    (effect : Effect c r t u) (mem : row ∈ u.executions) : ∃ f, row.Holds f ∧ Comes c t row f := by
  cases effect with
  | none => exact comes_of_mem filed mem
  | stored writes stored =>
    obtain ⟨_, _, rfl⟩ := Tables.putRecord_copies stored
    cases writes with
    | created | edited | moved => exact comes_of_mem filed mem
    | published _ _ added =>
      rw [Tables.addVersion_eq added] at mem
      exact comes_of_mem filed mem
    | refreshed logs _ _ => exact comes_of_logs filed logs mem
  | issued _ _ added _ =>
    rw [Tables.addVersion_eq added] at mem
    exact comes_of_mem filed mem
  | deleted => exact comes_of_mem filed (List.mem_filter.mp mem).1
  | @triggered _ _ o _ _ _ version _ _ _ n _ _ =>
    have fresh : ∀ row ∈ t.executions, row.id = c.supply.name n → row.orchestratorId = o.id :=
      fun row mem same => absurd (List.mem_map.mpr ⟨row, mem, same⟩) (new n)
    obtain ⟨written, holds, same⟩ := Tables.putExecution_parts (t := t)
      (e := ⟨c.supply.name n, o.id, version.number, .pending, c.now, none⟩) fresh
    rw [same] at mem
    rcases Tables.mem_put filed.distinct mem with rfl | ⟨kept, _⟩
    · exact ⟨_, holds, .begins n rfl rfl rfl⟩
    · exact comes_of_mem filed kept
  | logged logs _ => exact comes_of_logs filed logs mem

theorem comes (reached : Reached past t) (new : ∀ before ∈ past, ∀ m n, c.supply.name m ≠ before.name n)
    (mem : row ∈ (handle c r t).2.executions) (holds : row.Holds e) : Comes c t row e := by
  obtain ⟨f, same, comes⟩ := comes_of_effect (reached_filed reached).1 (new_executions reached new) (handle_effect c r t) mem
  exact holds.unique same ▸ comes

theorem marked_of_finished (reached : Reached past t) (mem : row ∈ t.executions) (holds : row.Holds e)
    (finished : e.Finished) : e.Marked := by
  induction reached generalizing row e with
  | start => cases mem
  | step reached c r new ih =>
    cases comes reached new mem holds with
    | stays mem holds => exact ih mem holds finished
    | begins n _ pending _ =>
      rw [Execution.Finished, pending] at finished
      cases finished
    | reported mem _ before status now =>
      rcases advanced_cases _ status now with same | ⟨_, marked⟩ | ⟨unfinished, _⟩
      · rw [same] at finished ⊢
        exact ih mem before finished
      · exact congrArg Option.isSome marked
      · exact absurd finished unfinished

theorem Continues.marked (continues : Continues past t past' u) (reached : Reached past t) (mem : old ∈ t.executions)
    (before : old.Holds e) (marked : e.Marked) (later : row ∈ u.executions) (same : row.id = old.id)
    (holds : row.Holds f) : f.Marked := by
  induction continues generalizing row f with
  | refl =>
    cases (reached_filed reached).1.execution_unique mem later same
    exact before.unique holds ▸ marked
  | step earlier c r new ih =>
    cases comes (earlier.reached reached) new later holds with
    | stays mem holds => exact ih mem same holds
    | begins n drawn _ _ =>
      have once := ((reached_filed reached).2 old.id (List.mem_map_of_mem mem)).mono earlier.past_subset
      exact absurd ((same.symm.trans holds.name).trans drawn) (once.not_new new n)
    | reported mem' name before' status now =>
      have marked := ih mem' (name.symm.trans same) before'
      rcases advanced_cases _ status now with same | ⟨_, marked⟩ | ⟨_, kept⟩
      · exact same ▸ marked
      · exact congrArg Option.isSome marked
      · exact (congrArg Option.isSome kept).trans marked

-- An execution with an id was finished, in a state from which requests led to this one.
def WasFinished (past : List Supply) (t : Tables) (id : String) : Prop :=
  ∃ earlier s, Reached earlier s ∧ Continues earlier s past t ∧
    ∃ row ∈ s.executions, row.id = id ∧ ∃ e, row.Holds e ∧ e.Finished

theorem wasFinished_of_marked (reached : Reached past t) (mem : row ∈ t.executions) (holds : row.Holds e)
    (marked : e.Marked) : WasFinished past t row.id := by
  induction reached generalizing row e with
  | start => cases mem
  | @step past t reached c r new ih =>
    have later : ∀ {id}, WasFinished past t id → WasFinished (c.supply :: past) (handle c r t).2 id := by
      rintro id ⟨earlier, s, first, continues, finished⟩
      exact ⟨earlier, s, first, continues.step c r new, finished⟩
    have here : e.Finished → WasFinished (c.supply :: past) (handle c r t).2 row.id := fun finished =>
      ⟨_, _, .step reached c r new, .refl, row, mem, rfl, e, holds, finished⟩
    cases comes reached new mem holds with
    | stays mem holds => exact later (ih mem holds marked)
    | begins n _ _ unmarked =>
      rw [Execution.Marked, unmarked] at marked
      cases marked
    | reported mem' name before status now =>
      rcases advanced_cases _ status now with same | ⟨finished, _⟩ | ⟨_, kept⟩
      · rw [same] at marked
        exact name ▸ later (ih mem' before marked)
      · exact here finished
      · exact name ▸ later (ih mem' before ((congrArg Option.isSome kept).symm.trans marked))

-- Whatever requests came before, and in whatever order the statuses were reported. No report takes a mark away.
theorem marked_since_finished (reached : Reached past t) (mem : row ∈ t.executions) :
    ∃ e, row.Holds e ∧ (e.Finished → e.Marked) ∧ (e.Marked ↔ WasFinished past t row.id) := by
  obtain ⟨e, holds⟩ := (reached_filed reached).1.executions row mem
  refine ⟨e, holds, marked_of_finished reached mem holds, wasFinished_of_marked reached mem holds, ?_⟩
  rintro ⟨earlier, s, first, continues, old, there, same, f, before, finished⟩
  exact continues.marked first there before (marked_of_finished first there before finished) mem same.symm holds

def declaring (status : ExecutionStatus) : Request :=
  sent "/api/executions/cx/events" (.obj [("events", .arr []), ("status", .str status.tag)])

-- The execution is reported to be completed, and then to run again.
def completed : Tables :=
  tablesAfter (visit 'd') (declaring .completed) (tablesAfter (visit 'c') triggering (issued .null))

def resumed : Tables := tablesAfter (visit 'e') (declaring .running) completed

theorem completed_reached :
    Reached [(visit 'd').supply, (visit 'c').supply, (visit 'b').supply, (visit 'a').supply] completed :=
  ((issued_reached .null).next (visit_new 'c' ['b', 'a'] (by decide))).next (visit_new 'd' ['c', 'b', 'a'] (by decide))

theorem resumed_reached : Reached [(visit 'e').supply, (visit 'd').supply, (visit 'c').supply, (visit 'b').supply,
    (visit 'a').supply] resumed :=
  completed_reached.next (visit_new 'e' ['d', 'c', 'b', 'a'] (by decide))

theorem resumed_holds : ∃ row ∈ resumed.executions,
    row.Holds ⟨"cx", "ax", 1, .running, "2026-01-01", some "2026-01-01"⟩ := by
  have stored : ∃ row ∈ resumed.executions,
      (Tables.read? (Execution.decode .document) row.document (visit 'e').supply).map Prod.fst =
        some ⟨"cx", "ax", 1, .running, "2026-01-01", some "2026-01-01"⟩ := by decide +kernel
  obtain ⟨row, mem, read⟩ := stored
  obtain ⟨e, holds⟩ := (reached_filed resumed_reached).1.executions row mem
  rw [holds.read] at read
  exact ⟨row, mem, Option.some.inj read ▸ holds⟩

theorem resumed_was_finished : ∃ row ∈ resumed.executions,
    row.Holds ⟨"cx", "ax", 1, .running, "2026-01-01", some "2026-01-01"⟩ ∧
    WasFinished [(visit 'e').supply, (visit 'd').supply, (visit 'c').supply, (visit 'b').supply, (visit 'a').supply]
      resumed row.id := by
  obtain ⟨row, mem, holds⟩ := resumed_holds
  obtain ⟨e, same, _, marked⟩ := marked_since_finished resumed_reached mem
  cases same.unique holds
  exact ⟨row, mem, holds, marked.mp rfl⟩

-- It runs, and it has the time at which it was completed.
theorem mark_outlives_finish : ¬ ∀ past t, Reached past t → ∀ row ∈ t.executions, ∀ e, row.Holds e →
    (e.finishedAt ≠ none ↔ e.status = .completed ∨ e.status = .failed) := by
  intro claimed
  obtain ⟨row, mem, holds⟩ := resumed_holds
  have finished := (claimed _ _ resumed_reached row mem _ holds).mp (Option.some_ne_none _)
  simp at finished

end Service
end Orchestration
