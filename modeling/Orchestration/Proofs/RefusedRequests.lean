import Orchestration.Proofs.ReportedEvents
import Orchestration.Proofs.StoredReferences

namespace Orchestration

-- Whatever a request is refused for is found out before anything is written: once something was written, the
-- request is served, or the service has failed.

-- A reply that finds fault with the request.
def Reply.Refuses (reply : Reply) : Prop := 400 ≤ reply.status ∧ reply.status < 500

instance (reply : Reply) : Decidable reply.Refuses := inferInstanceAs (Decidable (_ ∧ _))

theorem Reply.ok_serves (body : Json) : ¬ (ok body).Refuses := by
  rintro ⟨least, _⟩
  exact absurd least (by decide : ¬ 400 ≤ 200)

theorem Reply.failure_serves : ¬ failure.Refuses := by
  rintro ⟨_, most⟩
  exact absurd most (by decide : ¬ 500 < 500)

namespace Service

variable {c : Surroundings} {r : Request} {t u v : Tables}

-- Refused or not, the tables tell.
def Stays (t : Tables) (result : Reply × Tables) : Prop := result.1.Refuses → result.2 = t

section Handlers

theorem storeAndReply_stays (t : Tables) (o : Orchestrator) : Stays t (answer (storeAndReply o) t) :=
  answer_storeAndReply (fun _ _ => rfl) fun _ _ refused => absurd refused (Reply.ok_serves _)

theorem create_stays (body : Json) : Stays t (create c body t) :=
  answer_given (fun _ _ _ => rfl) fun _ _ => storeAndReply_stays t _

theorem save_stays (key : String) (body : Json) : Stays t (save c key body t) := by
  refine answer_given (fun _ _ _ => rfl) fun _ _ => ?_
  exact answer_read (fun _ _ _ => rfl) fun _ _ => storeAndReply_stays t _

theorem importChain_stays (key : String) (body : Json) : Stays t (importChain c key body t) := by
  refine answer_given (fun _ _ _ => rfl) fun _ _ => ?_
  refine answer_read (fun _ _ _ => rfl) fun _ _ => ?_
  exact answer_given (fun _ _ _ => rfl) fun _ _ => storeAndReply_stays t _

-- A version is added only of an orchestrator that was found fit to be published. What can go wrong after that is
-- no fault of the request.
theorem publish_stays (key : String) : Stays t (publish c key t) := by
  refine answer_read (fun _ _ _ => rfl) fun _ _ => ?_
  refine answer_read (fun _ _ _ => rfl) fun _ _ => ?_
  refine answer_given (fun _ _ _ => rfl) fun _ _ => ?_
  refine answer_storeVersion (fun _ => rfl) fun _ _ => ?_
  exact answer_store (fun _ refused => absurd refused Reply.failure_serves) fun _ _ refused =>
    absurd refused (Reply.ok_serves _)

theorem unpublish_stays (key : String) : Stays t (unpublish c key t) := by
  refine answer_read (fun _ _ _ => rfl) fun _ _ => ?_
  exact answer_given (fun _ _ _ => rfl) fun _ _ => storeAndReply_stays t _

theorem archive_stays (key : String) : Stays t (archive c key t) := by
  refine answer_read (fun _ _ _ => rfl) fun _ _ => ?_
  exact answer_given (fun _ _ _ => rfl) fun _ _ => storeAndReply_stays t _

theorem delete_stays (key : String) : Stays t (delete c key t) :=
  answer_read (fun _ _ _ => rfl) fun _ _ refused => absurd refused (Reply.ok_serves _)

theorem trigger_stays (body : Json) : Stays t (trigger c body t) := by
  refine answer_given (fun _ _ _ => rfl) fun _ _ => ?_
  refine answer_read (fun _ _ _ => rfl) fun _ _ => ?_
  refine answer_given (fun _ _ _ => rfl) fun _ _ => ?_
  exact answer_read (fun _ _ _ => rfl) fun _ _ refused => absurd refused (Reply.ok_serves _)

theorem summaryOf_fails (failed : summaryOf t key s = .error reply) : reply = .failure := by
  rcases bind_fails failed with lost | ⟨_, _, rest⟩
  · exact ofStored_fails lost
  · cases rest

-- A reply that finds no fault with the request, whatever the tables are.
def Serving (result : Reply × Tables) : Prop := ¬ result.1.Refuses

theorem serving_failure (t : Tables) : Serving (.failure, t) := Reply.failure_serves

-- By then the events are stored, and whatever goes wrong is no fault of the request.
theorem refreshHealth_serves (executionId key : String) (inserted : Nat) (s : Supply) (t : Tables) :
    Serving (answer (refreshHealth executionId key inserted s) t) := by
  refine answer_read (fun _ failed => nomatch failed) fun row? seen => ?_
  cases seen
  split
  · exact Reply.ok_serves _
  · rename_i row present
    refine answer_read (fun reply lost => ?_) fun _ _ => ?_
    · rcases find_refused lost with ⟨_, absent⟩ | rfl
      · cases absent.symm.trans present
      · exact serving_failure t
    refine answer_read (fun reply failed => ?_) fun _ _ => ?_
    · cases summaryOf_fails failed
      exact serving_failure t
    exact answer_store (fun _ => serving_failure t) fun _ _ => Reply.ok_serves _

theorem ingest_stays (key : String) (body : Json) : Stays t (ingest c key body t) := by
  refine answer_given (fun _ _ _ => rfl) fun _ _ => ?_
  refine answer_read (fun _ _ _ => rfl) fun _ _ => ?_
  refine answer_given (fun _ _ _ => rfl) fun _ _ => ?_
  refine answer_logEvents (fun _ => rfl) fun _ _ => ?_
  exact answer_advance fun refused => absurd refused (refreshHealth_serves _ _ _ _ _)

theorem serve_stays (c : Surroundings) (r : Request) (endpoint : Endpoint) (t : Tables) : Stays t (serve c r endpoint t) := by
  unfold serve write?
  split
  · rename_i done served
    split at served
    all_goals cases served
    · exact create_stays _
    · exact save_stays _ _
    · exact delete_stays _
    · exact importChain_stays _ _
    · exact publish_stays _
    · exact unpublish_stays _
    · exact archive_stays _
    · exact trigger_stays _
    · exact ingest_stays _ _
  · split
    · exact fun _ => rfl
    · exact fun _ => rfl

theorem handle_stays (c : Surroundings) (r : Request) (t : Tables) : Stays t (handle c r t) := by
  rcases handle_parts c r t with unknown | ⟨p, endpoint, _, same⟩
  · rw [unknown]
    exact fun _ => rfl
  · rw [same]
    exact serve_stays c p endpoint t

end Handlers

section Reports

theorem noExecution_refuses (key : String) : (Reply.noExecution key).Refuses :=
  (by decide : 400 ≤ 404 ∧ 404 < 500)

theorem Objects.refuses {m : Members} (objects : Objects key m reply) : reply.Refuses := by
  cases objects with
  | foreign => exact (by decide : 400 ≤ 400 ∧ 400 < 500)
  | illegible => exact (by decide : 400 ≤ 422 ∧ 422 < 500)

theorem Objects.unfit {m : Members} (objects : Objects key m reply) : ¬ Fits key m := by
  rintro ⟨about, legible⟩
  cases objects with
  | foreign other => cases about.symm.trans other
  | illegible _ unlike _ => exact unlike legible

-- A report of events about an execution, with a body that can be read.
def Reports (c : Surroundings) (r : Request) (key : String) (events : List Members) : Prop :=
  r.method = "POST" ∧ endpoint? r.path = some (.events key) ∧
    ∃ request s, readBody IngestBody.decode r.body c.supply = .ok (request, s) ∧ request.events = events

-- What comes of it, with the tables after it.
inductive Reported (t : Tables) (key : String) (events : List Members) : Reply × Tables → Prop where
  | unknown (absent : key ∉ t.executions.map ExecutionRow.id) : Reported t key events (.noExecution key, t)
  | objected (before : List Members) {m : Members} (parts : events = before ++ m :: after)
    (each : ∀ b ∈ before, Fits key b) (objects : Objects key m reply) : Reported t key events (reply, t)
  | taken (present : key ∈ t.executions.map ExecutionRow.id) (each : ∀ m ∈ events, Fits key m)
    (served : ¬ result.1.Refuses) : Reported t key events result

theorem findExecution_present (filed : t.Filed) (present : key ∈ t.executions.map ExecutionRow.id) (s : Supply) :
    ∃ e, findExecution t key s = .ok (e, s) := by
  obtain ⟨row, mem, same⟩ := List.mem_map.mp present
  cases found : t.execution? key with
  | none => exact absurd same (by simpa using List.find?_eq_none.mp found row mem)
  | some x =>
    obtain ⟨e, holds⟩ := filed.executions x (List.mem_of_find?_eq_some found)
    refine ⟨e, ?_⟩
    rw [findExecution, found]
    simp only [Tables.read?, holds.document, Execution.within_encode, if_true, Execution.decode_encode]
    rfl

theorem reported (filed : t.Filed) (reports : Reports c r key events) : Reported t key events (handle c r t) := by
  obtain ⟨method, known, request, w, body, rfl⟩ := reports
  have served : handle c r t = ingest c key r.body t := by
    rw [handle_known known]
    simp only [serve, write?, method]
  rw [served, ingest, answer_given_ok body]
  by_cases present : key ∈ t.executions.map ExecutionRow.id
  · obtain ⟨e, found⟩ := findExecution_present filed present w
    rw [answer_read_ok found]
    have batch := readEvents_batch key c.now w request.events
    refine answer_given (fun reply refused => ?_) fun read taken => ?_
    · rw [refused] at batch
      cases batch with
      | ended before parts each objects => exact .objected before parts each objects
    · rw [taken] at batch
      cases batch with
      | taken each =>
        refine answer_logEvents (.taken present each Reply.failure_serves) fun logged _ => ?_
        exact answer_advance (.taken present each (refreshHealth_serves _ _ _ _ _))
  · rw [answer_read_error (findExecution_absent present w)]
    exact .unknown present

theorem Reported.refuses_iff (reported : Reported t key events result) :
    result.1.Refuses ↔ key ∉ t.executions.map ExecutionRow.id ∨ ∃ m ∈ events, ¬ Fits key m := by
  cases reported with
  | unknown absent => exact ⟨fun _ => .inl absent, fun _ => noExecution_refuses key⟩
  | objected before parts each objects =>
    have among : _ ∈ events := parts ▸ List.mem_append_right before List.mem_cons_self
    exact ⟨fun _ => .inr ⟨_, among, objects.unfit⟩, fun _ => objects.refuses⟩
  | taken present each served =>
    refine ⟨fun refused => absurd refused served, ?_⟩
    rintro (absent | ⟨m, mem, unfit⟩)
    · exact absurd present absent
    · exact absurd (each m mem) unfit

end Reports

-- Whatever requests came before.
theorem refused_unchanged (reached : Reached past t) (c : Surroundings) (r : Request) :
    ((handle c r t).1.Refuses → (handle c r t).2 = t) ∧
    ∀ key events, Reports c r key events → Reported t key events (handle c r t) ∧
      ((∃ m ∈ events, ¬ Fits key m) → (handle c r t).1.Refuses ∧ (handle c r t).2 = t) := by
  refine ⟨handle_stays c r t, fun key events reports => ?_⟩
  have outcome := reported (reached_filed reached).1 reports
  refine ⟨outcome, fun bad => ?_⟩
  have refused := outcome.refuses_iff.mpr (.inr bad)
  exact ⟨refused, handle_stays c r t refused⟩

-- A batch whose second event is about another execution.
def straying : List Members :=
  [[("nodeId", .str "start"), ("status", .str "success")],
    [("nodeId", .str "start"), ("status", .str "error"), ("execution_id", .str "dx")]]

def reporting (events : List Members) : Request :=
  sent "/api/executions/cx/events" (.obj [("events", .arr (events.map .obj)), ("status", .str "failed")])

theorem straying_refused : (handle (visit 'e') (reporting straying) tallied).1.status = 400 ∧
    Reported tallied "cx" straying (handle (visit 'e') (reporting straying) tallied) ∧
    (handle (visit 'e') (reporting straying) tallied).2 = tallied := by
  obtain ⟨unchanged, batches⟩ := refused_unchanged tallied_reached (visit 'e') (reporting straying)
  have reports : Reports (visit 'e') (reporting straying) "cx" straying :=
    ⟨rfl, by decide +kernel, ⟨straying, some .failed⟩, (visit 'e').supply, rfl, rfl⟩
  obtain ⟨outcome, stays⟩ := batches "cx" straying reports
  have stray : ∃ m ∈ straying, ¬ Fits "cx" m := by
    refine ⟨_, List.mem_cons_of_mem _ List.mem_cons_self, fun fits => ?_⟩
    exact absurd fits.about (by decide)
  obtain ⟨refused, _⟩ := stays stray
  exact ⟨by decide +kernel, outcome, unchanged refused⟩

end Service
end Orchestration
