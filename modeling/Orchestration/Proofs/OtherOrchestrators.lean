import Orchestration.Proofs.StoredReferences

namespace Orchestration

namespace Tables

variable {t u v : Tables}

-- The rows about an orchestrator.
def about (t : Tables) (key : String) : Tables :=
  ⟨t.records.filter (·.id == key), t.history key, t.executions.filter (·.orchestratorId == key), t.eventsAbout key⟩

-- Whatever has changed is about one orchestrator.
def Spares (key : String) (t u : Tables) : Prop := ∀ other, other ≠ key → u.about other = t.about other

theorem Spares.refl (key : String) (t : Tables) : Spares key t t := fun _ _ => rfl

theorem Spares.trans (first : Spares key t u) (second : Spares key u v) : Spares key t v :=
  fun other different => (second other different).trans (first other different)

-- Rows that are left out do not see what takes their place.
theorem filter_put {same kept : ρ → Bool} {row : ρ} {rows : List ρ} (out : kept row = false)
    (replaced : ∀ r ∈ rows, same r = true → kept r = false) : (put same row rows).filter kept = rows.filter kept := by
  induction rows with
  | nil => simp [put, out]
  | cons first rest ih =>
    obtain ⟨here, later⟩ := List.forall_mem_cons.mp replaced
    unfold put
    split
    · rename_i found
      simp [out, here found]
    · simp only [List.filter_cons, ih later]

theorem spares_putRecord (stored : t.putRecord o = .ok u) : Spares o.id t u := by
  obtain ⟨row, copies, rfl⟩ := putRecord_copies stored
  intro other different
  have records : (put (fun r => r.id == row.id) row t.records).filter (·.id == other) =
      t.records.filter (·.id == other) := by
    apply filter_put
    · simpa [copies.name] using different.symm
    · intro r _ same
      simpa [eq_of_beq same, copies.name] using different.symm
  simp only [about, records]
  rfl

theorem spares_addVersion {v : Version} (added : t.addVersion v = some u) : Spares v.orchestratorId t u := by
  intro other different
  have history := history_add (addVersion_parts added).2 other
  rw [if_neg different.symm, List.append_nil] at history
  simp only [about, history]
  rw [addVersion_eq added]
  rfl

theorem spares_putExecution {e : Execution} (owner : e.orchestratorId = key)
    (agrees : ∀ row ∈ t.executions, row.id = e.id → row.orchestratorId = e.orchestratorId) :
    Spares key t (t.putExecution e) := by
  obtain ⟨row, holds, same⟩ := putExecution_parts agrees
  subst owner
  intro other different
  have executions : (put (fun r => r.id == row.id) row t.executions).filter (·.orchestratorId == other) =
      t.executions.filter (·.orchestratorId == other) := by
    apply filter_put
    · simpa [holds.owner] using different.symm
    · intro r mem again
      simpa [agrees r mem ((eq_of_beq again).trans holds.name)] using different.symm
  rw [same]
  simp only [about, executions]
  rfl

theorem spares_addEvents {events : List Event} (added : t.addEvents key owner events = some u) :
    Spares owner t u := by
  intro other different
  have log := eventsAbout_addEvents added different
  simp only [about, log]
  obtain ⟨_, rfl⟩ := addEvents_parts added
  rfl

theorem spares_drop (t : Tables) (key : String) : Spares key t ((t.dropRecord key).dropExecutions key) := by
  intro other different
  simp only [about, history, eventsAbout, dropRecord, dropExecutions, filter_drop different]

end Tables

namespace Service

variable {c : Surroundings} {r : Request} {t u v : Tables}

section Handlers

-- What a request about one orchestrator leaves if it is answered like this.
def SparesOthers (key : String) (t : Tables) (result : Reply × Tables) : Prop := Tables.Spares key t result.2

-- What is stored in place of an orchestrator that was found.
theorem store_spares (inStep : t.InStep) (found : find t key s = .ok (l, w)) (stored : t.putRecord o = .ok u)
    (name : o.id = l.id) : Tables.Spares key t u := by
  obtain ⟨_, same, _, _⟩ := inStep.loads (loads_of_find found)
  exact same ▸ name ▸ Tables.spares_putRecord stored

theorem create_spares (read : readBody CreateBody.decode body c.supply = .ok (request, s)) :
    SparesOthers s.draw.1 t (create c body t) := by
  refine answer_given (fun _ _ => .refl _ t) fun _ again => ?_
  cases read.symm.trans again
  exact answer_storeAndReply (fun _ => .refl _ t) fun _ stored => Tables.spares_putRecord stored

theorem save_spares (inStep : t.InStep) (key : String) (body : Json) : SparesOthers key t (save c key body t) := by
  refine answer_given (fun _ _ => .refl key t) fun _ _ => ?_
  refine answer_read (fun _ _ => .refl key t) fun _ found => ?_
  have found := (findEditable_parts found).1
  exact answer_storeAndReply (fun _ => .refl key t) fun _ stored => store_spares inStep found stored rfl

theorem importChain_spares (inStep : t.InStep) (key : String) (body : Json) :
    SparesOthers key t (importChain c key body t) := by
  refine answer_given (fun _ _ => .refl key t) fun _ _ => ?_
  refine answer_read (fun _ _ => .refl key t) fun _ found => ?_
  refine answer_given (fun _ _ => .refl key t) fun _ _ => ?_
  have found := (findEditable_parts found).1
  exact answer_storeAndReply (fun _ => .refl key t) fun _ stored => store_spares inStep found stored rfl

-- The version is about the orchestrator already, whether or not that is stored in the end.
theorem publish_spares (inStep : t.InStep) (key : String) : SparesOthers key t (publish c key t) := by
  refine answer_read (fun _ _ => .refl key t) fun (o, s) found => ?_
  refine answer_read (fun _ _ => .refl key t) fun _ _ => ?_
  refine answer_given (fun _ _ => .refl key t) fun p made => ?_
  obtain ⟨_, name, _, _⟩ := inStep.loads (loads_of_find found)
  obtain ⟨_, _, published, version⟩ := Orchestrator.publish_parts (mapError_parts made)
  have owner : p.version.orchestratorId = key := by rw [version]; exact name
  have title : p.orchestrator.id = key := by rw [published]; exact name
  refine answer_storeVersion (.refl key t) fun v added => ?_
  have issued : Tables.Spares key t v := owner ▸ Tables.spares_addVersion added
  exact answer_store (fun _ => issued) fun _ stored => issued.trans (title ▸ Tables.spares_putRecord stored)

theorem unpublish_spares (inStep : t.InStep) (key : String) : SparesOthers key t (unpublish c key t) := by
  refine answer_read (fun _ _ => .refl key t) fun _ found => ?_
  refine answer_given (fun _ _ => .refl key t) fun _ made => ?_
  have made := mapError_parts made
  unfold Orchestrator.unpublish at made
  split at made
  · cases made
    exact answer_storeAndReply (fun _ => .refl key t) fun _ stored => store_spares inStep found stored rfl
  · cases made

theorem archive_spares (inStep : t.InStep) (key : String) : SparesOthers key t (archive c key t) := by
  refine answer_read (fun _ _ => .refl key t) fun _ found => ?_
  refine answer_given (fun _ _ => .refl key t) fun _ made => ?_
  have made := mapError_parts made
  unfold Orchestrator.archive at made
  split at made
  · cases made
  · cases made
    exact answer_storeAndReply (fun _ => .refl key t) fun _ stored => store_spares inStep found stored rfl

theorem delete_spares (key : String) : SparesOthers key t (delete c key t) :=
  answer_read (fun _ _ => .refl key t) fun _ _ => Tables.spares_drop t key

-- The execution is a new one, and takes the place of no other.
theorem trigger_spares (inStep : t.InStep) (new : ∀ n, c.supply.name n ∉ t.executions.map ExecutionRow.id)
    (read : readBody TriggerBody.decode body c.supply = .ok (request, s)) :
    SparesOthers request.orchestratorId t (trigger c body t) := by
  have starts := trigger_starts c body t
  unfold SparesOthers
  generalize (trigger c body t).2 = u at starts ⊢
  cases starts with
  | none => exact .refl _ t
  | execution again found _ n _ _ =>
    cases read.symm.trans again
    obtain ⟨_, owner, _, _⟩ := inStep.loads (loads_of_find found)
    apply Tables.spares_putExecution owner
    intro row mem taken
    exact absurd (List.mem_map.mpr ⟨row, mem, taken⟩) (new n)

theorem spares_of_logs (filed : t.Filed) (logs : Logs t e v) : Tables.Spares e.orchestratorId t v := by
  obtain ⟨events, found, added, status, now⟩ := logs
  obtain ⟨row, mem, rfl, holds⟩ := findExecution_parts filed found
  have logged := Tables.spares_addEvents added
  split
  · exact logged
  · obtain ⟨name, owner⟩ := advanced_same e status now
    apply logged.trans
    apply Tables.spares_putExecution owner
    obtain ⟨_, rfl⟩ := Tables.addEvents_parts added
    intro x among again
    cases filed.execution_unique mem among ((again.trans name).trans holds.name.symm)
    exact holds.owner.trans owner.symm

theorem refreshHealth_spares (inStep : v.InStep) (logged : Tables.Spares key t v) (executionId : String)
    (inserted : Nat) (s : Supply) : SparesOthers key t (answer (refreshHealth executionId key inserted s) v) := by
  refine answer_read (fun _ _ => logged) fun _ _ => ?_
  split
  · exact logged
  · refine answer_read (fun _ _ => logged) fun _ found => ?_
    refine answer_read (fun _ _ => logged) fun _ _ => ?_
    exact answer_store (fun _ => logged) fun _ stored => logged.trans (store_spares inStep found stored rfl)

theorem ingest_spares (inStep : t.InStep) (filed : t.Filed) (stored : t.execution? key = some row) (body : Json) :
    SparesOthers row.orchestratorId t (ingest c key body t) := by
  refine answer_given (fun _ _ => .refl _ t) fun (request, _) _ => ?_
  refine answer_read (fun _ _ => .refl _ t) fun (e, _) found => ?_
  refine answer_given (fun _ _ => .refl _ t) fun (events, s) read => ?_
  refine answer_logEvents (.refl _ t) fun logged added => ?_
  have logs := Logs.filed events found added request.status c.now (readEvents_own read)
  obtain ⟨x, among, name, holds⟩ := findExecution_parts filed found
  have known : row.id = key := by simpa using List.find?_some stored
  cases filed.execution_unique (List.mem_of_find?_eq_some stored) among (name.trans known.symm)
  have spares := spares_of_logs filed logs
  have grown := inStep.congr logs.records.1 logs.records.2
  rw [holds.owner]
  exact answer_advance (refreshHealth_spares grown spares key events.length s)

theorem ingest_absent (absent : t.execution? key = none) (body : Json) : (ingest c key body t).2 = t := by
  refine answer_given (P := fun result => result.2 = t) (fun _ _ => rfl) fun _ _ => ?_
  refine answer_read (P := fun result => result.2 = t) (fun _ _ => rfl) fun _ found => ?_
  simp only [findExecution, absent] at found
  cases found

end Handlers

-- The orchestrator that a served request is about: one that it names, one that was run in an execution that it
-- names, or the new one, under the id that is drawn after the body was read.
def subject? (c : Surroundings) (t : Tables) (r : Request) : Endpoint → Option String
  | .orchestrator key | .validation key | .labels key | .chain key | .publish key | .unpublish key | .archive key
  | .versions key | .summary key => some key
  | .execution key | .events key => (t.execution? key).map ExecutionRow.orchestratorId
  | .trigger => (readBody TriggerBody.decode r.body c.supply).toOption.map fun (request, _) => request.orchestratorId
  | .orchestrators =>
      if r.method = "POST" then (readBody CreateBody.decode r.body c.supply).toOption.map fun (_, s) => s.draw.1
      else none
  | .home | .executions | .journeys | .description => none

def IsAbout (c : Surroundings) (t : Tables) (r : Request) (key : String) : Prop :=
  ∃ p endpoint, Serves r p endpoint ∧ subject? c t p endpoint = some key

theorem serve_spares (inStep : t.InStep) (filed : t.Filed)
    (new : ∀ n, c.supply.name n ∉ t.executions.map ExecutionRow.id) (p : Request) (endpoint : Endpoint) :
    (∃ key, subject? c t p endpoint = some key ∧ Tables.Spares key t (serve c p endpoint t).2) ∨
      (serve c p endpoint t).2 = t := by
  unfold serve write?
  split
  · rename_i done served
    split at served
    all_goals cases served
    case h_1 posted =>
      cases read : readBody CreateBody.decode p.body c.supply with
      | ok made => exact .inl ⟨_, by simp [subject?, posted, read, Except.toOption], create_spares read⟩
      | error reply =>
        refine .inr ?_
        simp only [create, read]
        rfl
    case h_8 =>
      cases read : readBody TriggerBody.decode p.body c.supply with
      | ok made => exact .inl ⟨_, by simp [subject?, read, Except.toOption], trigger_spares inStep new read⟩
      | error reply =>
        refine .inr ?_
        simp only [trigger, read]
        rfl
    case h_9 key _ =>
      cases stored : t.execution? key with
      | some row => exact .inl ⟨_, by simp [subject?, stored], ingest_spares inStep filed stored p.body⟩
      | none => exact .inr (ingest_absent stored p.body)
    · exact .inl ⟨_, rfl, save_spares inStep _ _⟩
    · exact .inl ⟨_, rfl, delete_spares _⟩
    · exact .inl ⟨_, rfl, importChain_spares inStep _ _⟩
    · exact .inl ⟨_, rfl, publish_spares inStep _⟩
    · exact .inl ⟨_, rfl, unpublish_spares inStep _⟩
    · exact .inl ⟨_, rfl, archive_spares inStep _⟩
  · split
    · exact .inr rfl
    · exact .inr rfl

theorem handle_spares (inStep : t.InStep) (filed : t.Filed)
    (new : ∀ n, c.supply.name n ∉ t.executions.map ExecutionRow.id) (r : Request) :
    (∃ key, IsAbout c t r key ∧ Tables.Spares key t (handle c r t).2) ∨ (handle c r t).2 = t := by
  rcases handle_parts c r t with unknown | ⟨p, endpoint, serves, same⟩
  · exact .inr (congrArg Prod.snd unknown)
  · rw [same]
    refine (serve_spares inStep filed new p endpoint).imp_left fun ⟨key, about, spares⟩ => ?_
    exact ⟨key, ⟨p, endpoint, serves, about⟩, spares⟩

theorem IsAbout.unique (first : IsAbout c t r key) (second : IsAbout c t r other) : key = other := by
  obtain ⟨p, endpoint, serves, about⟩ := first
  obtain ⟨q, endpoint', again, about'⟩ := second
  obtain ⟨rfl, rfl⟩ := serves.unique again
  exact Option.some.inj (about.symm.trans about')

-- The events of an execution are among those about the orchestrator that was run.
theorem eventsOf_eq (filed : t.Filed) (mem : x ∈ t.executions) :
    t.eventsOf x.id = (t.about x.orchestratorId).eventsOf x.id := by
  simp only [Tables.eventsOf, Tables.about, Tables.eventsAbout, List.filter_filter]
  refine List.filter_congr fun row among => ?_
  obtain ⟨y, present, name, owner⟩ := filed.placed row among
  by_cases same : row.executionId = x.id
  · cases filed.execution_unique mem present (name.trans same)
    simp [owner]
  · simp [same]

-- Whatever requests came before: what is stored about any other orchestrator, and the log of each of its executions.
theorem others_untouched (reached : Reached past t) (c : Surroundings) (r : Request)
    (new : ∀ before ∈ past, ∀ m n, c.supply.name m ≠ before.name n) :
    (∀ key, IsAbout c t r key → ∀ other, other ≠ key →
      (handle c r t).2.about other = t.about other ∧
      ∀ x ∈ t.executions, x.orchestratorId = other → (handle c r t).2.eventsOf x.id = t.eventsOf x.id) ∧
    ((∀ key, ¬ IsAbout c t r key) → (handle c r t).2 = t) := by
  have filed := (reached_filed reached).1
  have after := (reached_filed (reached.step c r new)).1
  have spares := handle_spares (reached_inStep reached).1 filed (new_executions reached new) r
  constructor
  · rintro key about other different
    have same : (handle c r t).2.about other = t.about other := by
      rcases spares with ⟨_, about', spares⟩ | unchanged
      · exact spares other (about.unique about' ▸ different)
      · rw [unchanged]
    refine ⟨same, ?_⟩
    rintro x mem rfl
    have kept : x ∈ (t.about x.orchestratorId).executions := List.mem_filter.mpr ⟨mem, beq_self_eq_true _⟩
    rw [← same] at kept
    rw [eventsOf_eq filed mem, ← same, ← eventsOf_eq after (List.mem_filter.mp kept).1]
  · intro none
    rcases spares with ⟨key, about, _⟩ | unchanged
    · exact absurd about (none key)
    · exact unchanged

-- Beside the orchestrator with an execution and its events there is another one, which is then deleted.
def accompanied : Tables :=
  (handle (visit 'e') (sent "/api/orchestrators" (.obj [("name", .str "Absence")])) tallied).2

def parting : Request := { sent "/api/orchestrators/ex" .null with method := "DELETE" }

theorem accompanied_reached : Reached [(visit 'e').supply, (visit 'd').supply, (visit 'c').supply, (visit 'b').supply,
    (visit 'a').supply] accompanied :=
  .step tallied_reached (visit 'e') _ (visit_new 'e' ['d', 'c', 'b', 'a'] (by decide))

theorem accompanied_untouched : (handle (visit 'f') parting accompanied).1.status = 200 ∧
    (handle (visit 'f') parting accompanied).2.about "ax" = accompanied.about "ax" ∧
    accompanied.eventsOf "cx" ≠ [] ∧
    (handle (visit 'f') parting accompanied).2.eventsOf "cx" = accompanied.eventsOf "cx" := by
  have facts : (handle (visit 'f') parting accompanied).1.status = 200 ∧ (accompanied.eventsOf "cx").length = 2 ∧
      ∃ x ∈ accompanied.executions, x.id = "cx" ∧ x.orchestratorId = "ax" := by decide +kernel
  obtain ⟨done, count, x, mem, name, owner⟩ := facts
  have new := visit_new 'f' ['e', 'd', 'c', 'b', 'a'] (by decide)
  have about : IsAbout (visit 'f') accompanied parting "ex" :=
    ⟨parting, .orchestrator "ex", .known (by decide +kernel), rfl⟩
  obtain ⟨same, logs⟩ := (others_untouched accompanied_reached (visit 'f') parting new).1 "ex" about "ax" (by decide)
  refine ⟨done, same, fun none => ?_, name ▸ logs x mem owner⟩
  rw [none] at count
  cases count

end Service
end Orchestration
