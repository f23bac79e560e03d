import Orchestration.Proofs.HealthCounters
import Orchestration.Proofs.MalformedDocuments
import Orchestration.Proofs.RefusedRequests

namespace Orchestration

theorem FieldName.holds_same {m : Members} {A : Prop} {P : Json → Prop} :
    (FieldName.same name).Holds m A P ↔ match m.find? name with | some v => P v | none => A := by
  cases sent : m.find? name <;> simp [FieldName.Holds, FieldName.given?, FieldName.same, sent]

theorem FieldName.Holds.weaken {f : FieldName} {m : Members} {A B : Prop} {P : Json → Prop} (holds : f.Holds m A P)
    (weaker : A → B) : f.Holds m B P := by
  unfold FieldName.Holds at holds ⊢
  split
  · rename_i given
    rwa [given] at holds
  · rename_i absent
    rw [absent] at holds
    exact weaker holds

namespace Decode

-- Whatever is read has a property.
def Yields (d : Decode α) (P : α → Prop) : Prop := ∀ s a t, d s = .ok (a, t) → P a

theorem yields_pure (a : α) : Yields (Pure.pure a : Decode α) fun b => b = a := by
  intro s b t decoded
  exact (pure_parts decoded).1.symm

theorem yields_field {m : Members} {f : FieldName} {absent : Decode α} {read : Json → Decode α} {A : α → Prop}
    {R : Json → α → Prop} (missing : Yields absent A) (given : ∀ v, Yields (read v) (R v)) :
    Yields (field m f absent read) fun a => f.Holds m (A a) fun v => R v a := by
  intro s a t decoded
  unfold FieldName.Holds
  unfold field at decoded
  cases stands : f.given? m with
  | some kv =>
    rw [stands] at decoded
    exact given kv.2 s a t (under_eq_ok.mp decoded)
  | none =>
    rw [stands] at decoded
    exact missing s a t decoded

theorem yields_required {m : Members} {f : FieldName} {read : Json → Decode α} {R : Json → α → Prop}
    (given : ∀ v, Yields (read v) (R v)) : Yields (required m f read) fun a => f.Holds m False fun v => R v a :=
  yields_field (fun _ _ _ decoded => absurd (under_eq_ok.mp decoded) complain_fails) given

theorem yields_text (v : Json) : Yields (text v) fun s => v = .str s := by
  intro s a t decoded
  cases v with
  | str _ =>
    cases decoded
    rfl
  | null | bool _ | int _ | float _ | arr _ | obj _ => cases decoded

theorem yields_optional (v : Json) : Yields (optional text v) fun o => v = .ofText? o := by
  intro s a t decoded
  cases v with
  | null =>
    cases decoded
    rfl
  | str _ =>
    cases decoded
    rfl
  | bool _ | int _ | float _ | arr _ | obj _ => cases decoded

theorem yields_choice (of : String → Option α) (v : Json) :
    Yields (choice of v) fun a => ∃ s, v = .str s ∧ of s = some a := by
  intro s a t decoded
  cases v with
  | str text =>
    cases known : of text with
    | some b =>
      simp only [choice, known] at decoded
      cases decoded
      exact ⟨text, rfl, known⟩
    | none =>
      simp only [choice, known] at decoded
      cases decoded
  | null | bool _ | int _ | float _ | arr _ | obj _ => cases decoded

theorem yields_object (v : Json) : Yields (object v) fun m => v = .obj m := by
  intro s a t decoded
  cases v with
  | obj _ =>
    cases decoded
    rfl
  | null | bool _ | int _ | float _ | str _ | arr _ => cases decoded

theorem yields_items {read : Json → Decode α} {shape : α → Json} (given : ∀ v, Yields (read v) fun a => v = shape a)
    (start : Nat) (vs : List Json) : Yields (items read start vs) fun as => vs = as.map shape := by
  induction vs generalizing start with
  | nil =>
    intro s as t decoded
    cases decoded
    rfl
  | cons v rest ih =>
    intro s as t decoded
    obtain ⟨_, u, more, first, others, rfl⟩ := seq_parts decoded
    obtain ⟨a, one, rfl⟩ := map_parts first
    rw [ih (start + 1) u more t others, given v s a u (under_eq_ok.mp one)]
    rfl

theorem yields_list {read : Json → Decode α} {shape : α → Json} (given : ∀ v, Yields (read v) fun a => v = shape a)
    (v : Json) : Yields (list read v) fun as => v = .arr (as.map shape) := by
  intro s as t decoded
  cases v with
  | arr vs => exact congrArg Json.arr (yields_items given 0 vs s as t decoded)
  | null | bool _ | int _ | float _ | str _ | obj _ => cases decoded

end Decode

namespace Event

-- What the members of an object say of an event that is read of them.
structure Told (m : Members) (e : Event) : Prop where
  id : (FieldName.same "id").Holds m False (· = .str e.id)
  execution : FieldName.Holds ⟨"executionId", "execution_id"⟩ m (e.executionId = none) (· = .ofText? e.executionId)
  node : FieldName.Holds ⟨"nodeId", "node_id"⟩ m False (· = .str e.nodeId)
  label : FieldName.Holds ⟨"nodeLabel", "node_label"⟩ m (e.nodeLabel = "") (· = .str e.nodeLabel)
  timestamp : (FieldName.same "timestamp").Holds m False (· = .str e.timestamp)
  status : (FieldName.same "status").Holds m False (· = .str e.status.tag)
  message : (FieldName.same "message").Holds m (e.message = "") (· = .str e.message)
  latency : (FieldName.same "latency").Holds m (e.latency = none) (· = .ofText? e.latency)

theorem yields_status (v : Json) :
    Decode.Yields (Decode.choice EventStatus.ofTag? v) fun status => v = .str status.tag := by
  intro s status t decoded
  obtain ⟨tag, rfl, known⟩ := Decode.yields_choice EventStatus.ofTag? v s status t decoded
  have same : status.tag = tag := by simpa using List.find?_some known
  rw [same]

section
open Decode

theorem told_of_decode {m : Members} (decoded : decode source (.obj m) s = .ok (e, u)) : e.Told m := by
  obtain ⟨_, same, all⟩ := record_parts decoded
  cases same
  obtain ⟨_, _, _, seven, latency, rfl⟩ := seq_parts all
  obtain ⟨_, _, _, six, message, rfl⟩ := seq_parts seven
  obtain ⟨_, _, _, five, status, rfl⟩ := seq_parts six
  obtain ⟨_, _, _, four, timestamp, rfl⟩ := seq_parts five
  obtain ⟨_, _, _, three, label, rfl⟩ := seq_parts four
  obtain ⟨_, _, _, two, node, rfl⟩ := seq_parts three
  obtain ⟨_, _, _, one, execution, rfl⟩ := seq_parts two
  obtain ⟨_, id, rfl⟩ := map_parts one
  exact ⟨yields_required yields_text _ _ _ id, yields_field (yields_pure _) yields_optional _ _ _ execution,
    yields_required yields_text _ _ _ node, yields_field (yields_pure _) yields_text _ _ _ label,
    yields_required yields_text _ _ _ timestamp, yields_required yields_status _ _ _ status,
    yields_field (yields_pure _) yields_text _ _ _ message, yields_field (yields_pure _) yields_optional _ _ _ latency⟩

end

-- What is read of an event does not hang on the names at hand.
theorem still_decode (source : Source) (v : Json) : Decode.Still (decode source v) := by
  open Decode in
  exact still.record fun _ => still.seq (still.seq (still.seq (still.seq (still.seq (still.seq (still.seq (still.map
    (still.required still.text)) (still.defaulted (still.optional still.text))) (still.required still.text))
    (still.defaulted still.text)) (still.required still.text)) (still.required (still.choice _)))
    (still.defaulted still.text)) (still.defaulted (still.optional still.text))

end Event

namespace Tables

variable {t u : Tables}

theorem eventsOf_congr (same : u.events = t.events) (key : String) : u.eventsOf key = t.eventsOf key := by
  rw [eventsOf, eventsOf, same]

theorem eventsOf_addEvents {events : List Event} (added : t.addEvents key owner events = some u) (other : String) :
    u.eventsOf other = t.eventsOf other ++ if other = key then events.map fun e => ⟨key, owner, e.encode⟩ else [] := by
  obtain ⟨_, rfl⟩ := addEvents_parts added
  rw [eventsOf, List.filter_append, List.filter_map]
  split
  · rename_i same
    have every : events.filter ((fun row : EventRow => row.executionId == other) ∘
        fun e => ⟨key, owner, e.encode⟩) = events := by
      apply List.filter_eq_self.mpr
      intro e _
      exact beq_iff_eq.mpr same.symm
    rw [every]
    rfl
  · rename_i different
    have none : events.filter ((fun row : EventRow => row.executionId == other) ∘
        fun e => ⟨key, owner, e.encode⟩) = [] := by
      apply List.filter_eq_nil_iff.mpr
      intro e _ same
      exact different (eq_of_beq same).symm
    rw [none]
    rfl

theorem putRecord_events (stored : t.putRecord o = .ok u) : u.events = t.events := by
  obtain ⟨_, _, rfl⟩ := putRecord_copies stored
  rfl

end Tables

namespace Service

variable {c : Surroundings} {r : Request} {t : Tables} {key : String}

section Reading

-- An event as it is logged for what was sent: filed under its execution, with what was left out filled in.
structure Recounts (c : Surroundings) (key : String) (m : Members) (e : Event) : Prop where
  execution : e.executionId = some key
  id : (FieldName.same "id").Holds m (∃ n, e.id = c.supply.name n) (· = .str e.id)
  timestamp : (FieldName.same "timestamp").Holds m (e.timestamp = c.now) (· = .str e.timestamp)
  node : FieldName.Holds ⟨"nodeId", "node_id"⟩ m False (· = .str e.nodeId)
  label : FieldName.Holds ⟨"nodeLabel", "node_label"⟩ m (e.nodeLabel = "") (· = .str e.nodeLabel)
  status : (FieldName.same "status").Holds m False (· = .str e.status.tag)
  message : (FieldName.same "message").Holds m (e.message = "") (· = .str e.message)
  latency : (FieldName.same "latency").Holds m (e.latency = none) (· = .ofText? e.latency)

theorem recounts_of_told {m : Members} (told : e.Told (filed m (c.supply.name n) c.now key)) :
    Recounts c key (Keyed.ofList m) e := by
  have named := told.execution
  rw [FieldName.Holds, given_filed] at named
  refine ⟨?_, ?_, ?_, (holds_sent ?_ ?_).mp told.node, (holds_sent ?_ ?_).mp told.label,
    (holds_sent ?_ ?_).mp told.status, (holds_sent ?_ ?_).mp told.message, (holds_sent ?_ ?_).mp told.latency⟩
  · cases given : e.executionId with
    | none => rw [given] at named; cases named
    | some other => rw [given] at named; cases named; rfl
  · have id : (FieldName.same "id").Holds (Keyed.ofList m) (Json.str (c.supply.name n) = .str e.id) (· = .str e.id) :=
      (holds_default (find?_filed (by decide) (by decide))).mp told.id
    exact id.weaken fun same => ⟨n, (Json.str.inj same).symm⟩
  · have timestamp : (FieldName.same "timestamp").Holds (Keyed.ofList m) (Json.str c.now = .str e.timestamp)
        (· = .str e.timestamp) := (holds_default (find?_filed (by decide) (by decide))).mp told.timestamp
    exact timestamp.weaken fun same => (Json.str.inj same).symm
  all_goals decide

theorem readEvents_recounts {batch : List Members} (names : s.name = c.supply.name)
    (done : readEvents key c.now s batch = .ok (events, w)) :
    List.Forall₂ (fun m e => Recounts c key (Keyed.ofList m) e) batch events := by
  induction batch generalizing s events with
  | nil =>
    cases done
    exact .nil
  | cons m rest ih =>
    obtain ⟨_, e, x, later, loaded, more, rfl⟩ := readEvents_parts done
    have decoded := Decode.load_parts loaded
    have same : x = s.draw.2 := (Event.still_decode _ _).same decoded
    have fresh : s.draw.1 = c.supply.name (s.drawn + 1) := congrFun names _
    rw [fresh] at decoded
    refine .cons (recounts_of_told (Event.told_of_decode decoded)) (ih ?_ more)
    rw [same]
    exact names

-- A body that carries a batch of events.
def Carries (body : Json) (batch : List Members) : Prop :=
  ∃ m : Members, body = .obj m ∧ m.find? "events" = some (.arr (batch.map .obj))

theorem carries_unique (first : Carries body batch) (second : Carries body batch') : batch = batch' := by
  obtain ⟨m, rfl, events⟩ := first
  obtain ⟨n, same, events'⟩ := second
  cases same
  have lists := Json.arr.inj (Option.some.inj (events.symm.trans events'))
  exact List.map_injective_iff.mpr (fun _ _ => Json.obj.inj) lists

theorem IngestBody.composed {P : ∀ {α : Type}, Decode α → Prop} (parts : Decode.Composed P) (v : Json) :
    P (IngestBody.decode v) :=
  parts.record fun _ => parts.seq (parts.map (parts.required (parts.list parts.object)))
    (parts.defaulted (parts.optional (parts.choice _)))

theorem carries_of_read (read : readBody IngestBody.decode body s = .ok (request, w)) :
    Carries body request.events ∧ w = s := by
  have decoded := read_of_readBody read
  refine ⟨?_, (IngestBody.composed Decode.still body).same decoded⟩
  obtain ⟨m, rfl, members⟩ := Decode.record_parts decoded
  obtain ⟨_, _, _, first, _, rfl⟩ := Decode.seq_parts members
  obtain ⟨_, events, rfl⟩ := Decode.map_parts first
  refine ⟨m, rfl, ?_⟩
  have holds := FieldName.holds_same.mp (Decode.yields_required (Decode.yields_list Decode.yields_object) _ _ _ events)
  split at holds
  · rename_i given
    rw [given, holds]
  · exact holds.elim

theorem readBody_refuses (failed : readBody IngestBody.decode body s = .error reply) : reply.Refuses := by
  obtain ⟨_, rfl⟩ := readBody_malformed (IngestBody.composed Decode.unbroken.toComposed) failed
  exact (by decide : 400 ≤ 422 ∧ 422 < 500)

end Reading

section Reporting

-- A batch of events behind the log of an execution, each filed under the execution and the orchestrator that was run.
-- The logs of other executions are left alone.
structure Appends (c : Surroundings) (key : String) (batch : List Members) (t u : Tables) : Prop where
  log : ∃ x ∈ t.executions, x.id = key ∧ ∃ events,
    List.Forall₂ (fun m e => Recounts c key (Keyed.ofList m) e) batch events ∧
    u.eventsOf key = t.eventsOf key ++ events.map fun e => ⟨key, x.orchestratorId, e.encode⟩
  others : ∀ other, other ≠ key → u.eventsOf other = t.eventsOf other

-- The orchestrator that was run in an execution is stored, and cannot be read.
def Unread (t : Tables) (key : String) : Prop :=
  ∃ x ∈ t.executions, x.id = key ∧ ∃ row ∈ t.records, row.id = x.orchestratorId ∧ ¬ row.Readable

-- What comes of events that are reported about an execution.
inductive Ingested (c : Surroundings) (key : String) (body : Json) (t : Tables) : Reply × Tables → Prop where
  | refused (refuses : reply.Refuses) : Ingested c key body t (reply, t)
  | unwritable (carries : Carries body batch) (fit : ∀ m ∈ batch, Fits key m) : Ingested c key body t (.failure, t)
  | answered (carries : Carries body batch) (fit : ∀ m ∈ batch, Fits key m) (appends : Appends c key batch t u)
    (more : Members) : Ingested c key body t (ingestReply key batch.length more, u)
  | unrefreshed (carries : Carries body batch) (fit : ∀ m ∈ batch, Fits key m) (appends : Appends c key batch t u)
    (unread : Unread t key) : Ingested c key body t (.failure, u)

-- The health follows, or the orchestrator is one that cannot be read. The log stays in both cases.
theorem refreshHealth_cases (inStep : t.InStep) (sound : t.Sound) (filed : t.Filed) (owner : row ∈ t.records)
    (count : Nat) (s : Supply) :
    (∃ more u, answer (refreshHealth key row.id count s) t = (ingestReply key count more, u) ∧ u.events = t.events) ∨
      answer (refreshHealth key row.id count s) t = (.failure, t) ∧ ¬ row.Readable := by
  have stored := Tables.record?_of_mem inStep.distinct owner
  have there : (fun t : Tables => (.ok (t.record? row.id) : Except Reply _)) t = .ok (some row) := congrArg _ stored
  rw [refreshHealth, answer_read_ok there]
  by_cases readable : row.Readable
  · obtain ⟨l, reads⟩ := readable
    obtain ⟨_, w, summary, u, found, summed, kept⟩ := not_stuck inStep sound filed owner reads s
    left
    refine ⟨[("execution_health", .float summary.score), ("error_count", .int summary.errors)], u, ?_,
      Tables.putRecord_events kept⟩
    rw [answer_read_ok found, answer_read_ok summed]
    refine answer_store (P := fun result => result = (_, u)) (fun stuck => absurd kept (stuck u)) fun v again => ?_
    cases kept.symm.trans again
    rfl
  · right
    refine ⟨?_, readable⟩
    obtain ⟨o, copies, good⟩ := sound row owner
    have lost := copies.unread (fun again => readable ((copies.readable_iff good).mpr again)) s
    have missed : find t row.id s = .error .failure := by
      rw [find, stored]
      simp only [lost]
      rfl
    rw [answer_read_error missed]

theorem appends_of_added (mem : x ∈ t.executions) {events : List Event} {batch : List Members}
    (recounts : List.Forall₂ (fun m e => Recounts c x.id (Keyed.ofList m) e) batch events)
    (added : t.addEvents x.id x.orchestratorId events = some logged) : Appends c x.id batch t logged where
  log := by
    refine ⟨x, mem, rfl, events, recounts, ?_⟩
    rw [Tables.eventsOf_addEvents added, if_pos rfl]
  others other different := by rw [Tables.eventsOf_addEvents added, if_neg different, List.append_nil]

theorem Appends.congr {batch : List Members} {u v : Tables} (appends : Appends c key batch t u)
    (same : v.events = u.events) : Appends c key batch t v where
  log := by
    rw [Tables.eventsOf_congr same]
    exact appends.log
  others other different := (Tables.eventsOf_congr same other).trans (appends.others other different)

theorem ingested (reached : Reached past t) (c : Surroundings) (key : String) (body : Json) :
    Ingested c key body t (ingest c key body t) := by
  have filed := (reached_filed reached).1
  refine answer_given (fun _ refused => .refused (readBody_refuses refused)) fun (request, w) read => ?_
  obtain ⟨carries, rfl⟩ := carries_of_read read
  by_cases present : key ∈ t.executions.map ExecutionRow.id
  · obtain ⟨e, found⟩ := findExecution_present filed present c.supply
    obtain ⟨x, mem, rfl, holds⟩ := findExecution_parts filed found
    rw [answer_read_ok found]
    have batch := readEvents_batch x.id c.now c.supply request.events
    refine answer_given (fun reply refused => ?_) fun (events, s) taken => ?_
    · rw [refused] at batch
      cases batch with
      | ended _ _ _ objects => exact .refused objects.refuses
    have fit : ∀ m ∈ request.events, Fits x.id m := by
      rw [taken] at batch
      cases batch with
      | taken each => exact each
    have recounts := readEvents_recounts rfl taken
    refine answer_logEvents (.unwritable carries fit) fun logged added => answer_advance ?_
    have logs := Logs.filed events found added request.status c.now (readEvents_own taken)
    obtain ⟨grown, owner, _⟩ := filed_of_logs filed logs
    obtain ⟨records, versions⟩ := logs.records
    have kept : (if advanced e request.status c.now = e then logged
        else logged.putExecution (advanced e request.status c.now)).events = logged.events := by
      split <;> rfl
    have appends := (appends_of_added mem recounts (holds.owner ▸ added)).congr kept
    obtain ⟨row, stored, owns⟩ := List.mem_map.mp owner
    change Ingested c x.id body t (answer (refreshHealth x.id e.orchestratorId events.length s) _)
    rw [← owns, ← recounts.length_eq]
    generalize (if advanced e request.status c.now = e then logged
      else logged.putExecution (advanced e request.status c.now)) = v at grown records versions appends ⊢
    have inStep := (reached_inStep reached).1.congr records versions
    have sound : v.Sound := fun row mem => reached_sound reached row (records ▸ mem)
    rcases refreshHealth_cases inStep sound grown (records ▸ stored) request.events.length s with
      ⟨more, u, done, same⟩ | ⟨done, unread⟩
    · rw [done]
      exact .answered carries fit (appends.congr same) more
    · rw [done]
      exact .unrefreshed carries fit appends ⟨x, mem, rfl, row, stored, owns.trans holds.owner.symm, unread⟩
  · rw [answer_read_error (findExecution_absent present c.supply)]
    exact .refused (noExecution_refuses key)

end Reporting

section Handlers

-- What a request leaves of the log if it is answered like this.
def KeepsLog (t : Tables) (result : Reply × Tables) : Prop := result.2.events = t.events

theorem storeAndReply_logs (t : Tables) (o : Orchestrator) : KeepsLog t (answer (storeAndReply o) t) :=
  answer_storeAndReply (fun _ => rfl) fun _ stored => Tables.putRecord_events stored

theorem create_logs (body : Json) : KeepsLog t (create c body t) :=
  answer_given (fun _ _ => rfl) fun _ _ => storeAndReply_logs t _

theorem save_logs (key : String) (body : Json) : KeepsLog t (save c key body t) := by
  refine answer_given (fun _ _ => rfl) fun _ _ => ?_
  exact answer_read (fun _ _ => rfl) fun _ _ => storeAndReply_logs t _

theorem importChain_logs (key : String) (body : Json) : KeepsLog t (importChain c key body t) := by
  refine answer_given (fun _ _ => rfl) fun _ _ => ?_
  refine answer_read (fun _ _ => rfl) fun _ _ => ?_
  exact answer_given (fun _ _ => rfl) fun _ _ => storeAndReply_logs t _

theorem publish_logs (key : String) : KeepsLog t (publish c key t) := by
  refine answer_read (fun _ _ => rfl) fun _ _ => ?_
  refine answer_read (fun _ _ => rfl) fun _ _ => ?_
  refine answer_given (fun _ _ => rfl) fun _ _ => ?_
  refine answer_storeVersion rfl fun v added => ?_
  have issued : v.events = t.events := by rw [Tables.addVersion_eq added]
  exact answer_store (fun _ => issued) fun _ stored => (Tables.putRecord_events stored).trans issued

theorem unpublish_logs (key : String) : KeepsLog t (unpublish c key t) := by
  refine answer_read (fun _ _ => rfl) fun _ _ => ?_
  exact answer_given (fun _ _ => rfl) fun _ _ => storeAndReply_logs t _

theorem archive_logs (key : String) : KeepsLog t (archive c key t) := by
  refine answer_read (fun _ _ => rfl) fun _ _ => ?_
  exact answer_given (fun _ _ => rfl) fun _ _ => storeAndReply_logs t _

theorem trigger_logs (body : Json) : KeepsLog t (trigger c body t) := by
  have starts := trigger_starts c body t
  unfold KeepsLog
  generalize (trigger c body t).2 = u at starts ⊢
  cases starts with
  | none => rfl
  | execution => rfl

end Handlers

theorem Serves.same (serves : Serves r p endpoint) : p.method = r.method ∧ p.body = r.body := by
  induction serves with
  | known => exact ⟨rfl, rfl⟩
  | forwarded next _ ih =>
    unfold Request.forwarded? at next
    dsimp only at next
    split at next
    · split at next
      · cases next
        exact ih
      · cases next
    · cases next

-- A request to report events of an execution.
def Posts (r : Request) (key : String) : Prop := r.method = "POST" ∧ ∃ p, Serves r p (.events key)

-- What becomes of the log of an execution. A batch that was taken is there whether or not the request is answered in
-- the end: it fails if the orchestrator that was run cannot be read.
inductive Follows (c : Surroundings) (r : Request) (key : String) (t : Tables) : Reply × Tables → Prop where
  | kept (same : u.eventsOf key = t.eventsOf key) : Follows c r key t (reply, u)
  | grown (posts : Posts r key) (carries : Carries r.body batch) (appends : Appends c key batch t u)
    (answer : reply.status = 200 ∨ reply.status = 500 ∧ Unread t key) : Follows c r key t (reply, u)
  | dropped (mem : x ∈ t.executions) (name : x.id = key) (deletes : Deletes r x.orchestratorId)
    (gone : u.eventsOf key = []) (absent : key ∉ u.executions.map ExecutionRow.id) : Follows c r key t (reply, u)

theorem Ingested.follows (ingested : Ingested c own r.body t result) (posts : Posts r own) (key : String) :
    Follows c r key t result := by
  cases ingested with
  | refused | unwritable => exact .kept rfl
  | answered carries _ appends more =>
    by_cases same : key = own
    · subst same
      exact .grown posts carries appends (.inl rfl)
    · exact .kept (appends.others key same)
  | unrefreshed carries _ appends unread =>
    by_cases same : key = own
    · subst same
      exact .grown posts carries appends (.inr ⟨rfl, unread⟩)
    · exact .kept (appends.others key same)

-- The log of an execution goes with the orchestrator that was run, and with no other.
theorem delete_follows (filed : t.Filed) (deletes : Deletes r owner) (key : String) :
    Follows c r key t (delete c owner t) := by
  refine answer_read (fun _ _ => .kept rfl) fun _ _ => ?_
  show Follows c r key t (_, (t.dropRecord owner).dropExecutions owner)
  by_cases run : ∃ x ∈ t.executions, x.id = key ∧ x.orchestratorId = owner
  · obtain ⟨x, mem, rfl, rfl⟩ := run
    refine .dropped mem rfl deletes ?_ ?_
    · apply List.filter_eq_nil_iff.mpr
      intro row among name
      obtain ⟨old, other⟩ := List.mem_filter.mp among
      obtain ⟨y, present, same, owner⟩ := filed.placed row old
      cases filed.execution_unique mem present (same.trans (eq_of_beq name))
      exact absurd owner.symm (by simpa using other)
    · intro again
      obtain ⟨y, present, name⟩ := List.mem_map.mp again
      obtain ⟨old, other⟩ := List.mem_filter.mp present
      cases filed.execution_unique mem old name
      exact absurd rfl (bne_iff_ne.mp other)
  · refine .kept ?_
    refine (List.filter_filter ..).trans (List.filter_congr fun row among => ?_)
    obtain ⟨y, present, name, own⟩ := filed.placed row among
    by_cases named : row.executionId = key
    · have other : row.orchestratorId ≠ owner := fun gone => run ⟨y, present, name.trans named, own.trans gone⟩
      simp [named, other]
    · simp [named]

theorem serve_follows (reached : Reached past t) (serves : Serves r p endpoint) (key : String) :
    Follows c r key t (serve c p endpoint t) := by
  have kept : ∀ result : Reply × Tables, result.2.events = t.events → Follows c r key t result := fun result same =>
    .kept (Tables.eventsOf_congr same key)
  unfold serve write?
  split
  · rename_i done served
    split at served
    all_goals cases served
    · exact kept _ (create_logs _)
    · exact kept _ (save_logs _ _)
    · exact delete_follows (reached_filed reached).1 ⟨p, serves, ‹_›⟩ key
    · exact kept _ (importChain_logs _ _)
    · exact kept _ (publish_logs _)
    · exact kept _ (unpublish_logs _)
    · exact kept _ (archive_logs _)
    · exact kept _ (trigger_logs _)
    · obtain ⟨method, body⟩ := serves.same
      rw [body]
      exact (ingested reached c _ r.body).follows ⟨method.symm.trans ‹_›, p, serves⟩ key
  · split
    · exact .kept rfl
    · exact .kept rfl

theorem handle_follows (reached : Reached past t) (c : Surroundings) (r : Request) (key : String) :
    Follows c r key t (handle c r t) := by
  rcases handle_parts c r t with unknown | ⟨p, endpoint, serves, same⟩
  · rw [unknown]
    exact .kept rfl
  · rw [same]
    exact serve_follows reached serves key

theorem handle_posts (posts : Posts r key) (c : Surroundings) (t : Tables) :
    handle c r t = (.noRoute, t) ∨ handle c r t = ingest c key r.body t := by
  obtain ⟨method, p, serves⟩ := posts
  rcases handle_parts c r t with unknown | ⟨q, endpoint, again, same⟩
  · exact .inl unknown
  · obtain ⟨rfl, rfl⟩ := serves.unique again
    obtain ⟨kept, body⟩ := serves.same
    right
    rw [same, ← body]
    simp only [serve, write?, kept, method]

-- A reported event that is about another execution, by the written name, or by the plain one if the written one is
-- not there.
def Strays (key : String) (m : Members) : Prop :=
  ∃ v, (m.find? "executionId" = some v ∨ m.find? "executionId" = none ∧ m.find? "execution_id" = some v) ∧
    v ≠ .null ∧ v ≠ .str key

theorem Strays.unfit {m : Members} (strays : Strays key m) : ¬ Fits key m := by
  obtain ⟨v, named, given, other⟩ := strays
  have reported : reportedExecution m = v := by
    rcases named with written | ⟨none, plain⟩
    · rw [reportedExecution, written, Option.getD_some]
    · rw [reportedExecution, none, plain, Option.getD_none, Option.getD_some]
  intro fits
  have about := fits.about
  rw [reported] at about
  cases v with
  | null => exact given rfl
  | str s => exact other (congrArg Json.str (eq_of_beq about))
  | bool _ | int _ | float _ | arr _ | obj _ => cases about

theorem posted_accepted (reached : Reached past t) (posts : Posts r key) (accepted : (handle c r t).1.status = 200) :
    ∃ batch u more, Carries r.body batch ∧ handle c r t = (ingestReply key batch.length more, u) ∧
      Appends c key batch t u := by
  rcases handle_posts posts c t with unknown | served
  · rw [unknown] at accepted
    cases accepted
  · have outcome := ingested reached c key r.body
    rw [served] at accepted ⊢
    generalize ingest c key r.body t = result at outcome accepted ⊢
    cases outcome with
    | refused refuses =>
      have least : 400 ≤ 200 := accepted ▸ refuses.1
      exact absurd least (by decide)
    | unwritable => cases accepted
    | answered carries _ appends more => exact ⟨_, _, more, carries, rfl, appends⟩
    | unrefreshed => cases accepted

theorem posted_stray (reached : Reached past t) (posts : Posts r key) (carries : Carries r.body batch) (mem : m ∈ batch)
    (strays : Strays key m) : (handle c r t).1.Refuses ∧ (handle c r t).2 = t := by
  rcases handle_posts posts c t with unknown | served
  · rw [unknown]
    exact ⟨(by decide : 400 ≤ 404 ∧ 404 < 500), rfl⟩
  · have outcome := ingested reached c key r.body
    rw [served]
    generalize ingest c key r.body t = result at outcome ⊢
    cases outcome with
    | refused refuses => exact ⟨refuses, rfl⟩
    | unwritable again fit | answered again fit | unrefreshed again fit =>
      cases carries_unique carries again
      exact absurd (fit m mem) strays.unfit

theorem Follows.extends (follows : Follows c r key t (reply, u)) (present : key ∈ u.executions.map ExecutionRow.id) :
    t.eventsOf key <+: u.eventsOf key := by
  cases follows with
  | kept same => exact same ▸ List.prefix_rfl
  | grown _ _ appends _ =>
    obtain ⟨_, _, _, _, _, log⟩ := appends.log
    exact log ▸ List.prefix_append _ _
  | dropped _ _ _ _ absent => exact absurd present absent

-- An execution that is gone does not come back, so its log was there all the time.
theorem Continues.log_extends (continues : Continues past t past' u) (reached : Reached past t)
    (before : key ∈ t.executions.map ExecutionRow.id) (after : key ∈ u.executions.map ExecutionRow.id) :
    t.eventsOf key <+: u.eventsOf key := by
  induction continues with
  | refl => exact List.prefix_rfl
  | @step past' u earlier c r new ih =>
    have reached' := earlier.reached reached
    have middle : key ∈ u.executions.map ExecutionRow.id := by
      rcases executions_of_effect (reached_filed reached').1 (handle_effect c r u) after with old | ⟨n, drawn⟩
      · exact old
      · have once := (reached_filed reached).2 key before
        exact absurd drawn ((once.mono earlier.past_subset).not_new new n)
    exact (ih middle).trans ((handle_follows reached' c r key).extends after)

theorem handle_events (reached : Reached past t) (present : key ∈ t.executions.map ExecutionRow.id)
    (asks : Asks r (.events key)) (c : Surroundings) :
    handle c r t = (.ok (.arr ((t.eventsOf key).map EventRow.document)), t) := by
  have filed := (reached_filed reached).1
  obtain ⟨_, found⟩ := findExecution_present filed present c.supply
  have each : ∀ row ∈ t.eventsOf key, ∃ e, row.Holds e := fun row mem => filed.events row (List.mem_filter.mp mem).1
  obtain ⟨events, documents, _⟩ := Tables.rows_hold each
  have served : handle c r t = (getEvents c key t, t) := by
    rw [handle_asks asks]
    simp [serve, write?, read?, asks.1]
  rw [served, documents]
  simp only [getEvents, found, documents, Tables.readAll?_events, bind, Except.bind]
  rfl

-- Whatever requests came before: what is done with a batch of events, what else becomes of a log and when, and how a
-- log comes out of all the requests that follow.
theorem log_appended (reached : Reached past t) :
    (∀ c r key, Posts r key → (handle c r t).1.status = 200 →
      ∃ batch u more, Carries r.body batch ∧ handle c r t = (ingestReply key batch.length more, u) ∧
        Appends c key batch t u) ∧
    (∀ c r key batch m, Posts r key → Carries r.body batch → m ∈ batch → Strays key m →
      (handle c r t).1.Refuses ∧ (handle c r t).2 = t) ∧
    (∀ c r key, Follows c r key t (handle c r t)) ∧
    (∀ past' u key, Continues past t past' u → key ∈ t.executions.map ExecutionRow.id →
      key ∈ u.executions.map ExecutionRow.id → t.eventsOf key <+: u.eventsOf key) ∧
    ∀ c r key, key ∈ t.executions.map ExecutionRow.id → Asks r (.events key) →
      handle c r t = (.ok (.arr ((t.eventsOf key).map EventRow.document)), t) := by
  refine ⟨?accepted, ?stray, ?others, ?later, ?listed⟩
  case accepted => exact fun c r key posts accepted => posted_accepted reached posts accepted
  case stray => exact fun c r key batch m posts carries mem strays => posted_stray reached posts carries mem strays
  case others => exact handle_follows reached
  case later => exact fun past' u key continues before after => continues.log_extends reached before after
  case listed => exact fun c r key present asks => handle_events reached present asks c

-- An event that comes with an id, and one that comes with nothing but what is asked for.
def arriving : List Members :=
  [[("id", .str "own"), ("execution_id", .str "cx"), ("nodeId", .str "start"), ("status", .str "warning")],
    [("nodeId", .str "start"), ("status", .str "success")]]

theorem arriving_appended : (handle (visit 'e') (reporting arriving) tallied).1.status = 200 ∧
    Appends (visit 'e') "cx" arriving tallied (handle (visit 'e') (reporting arriving) tallied).2 ∧
    (tallied.eventsOf "cx").length = 2 ∧
    ((handle (visit 'e') (reporting arriving) tallied).2.eventsOf "cx").length = 4 := by
  obtain ⟨accepted, before⟩ : (handle (visit 'e') (reporting arriving) tallied).1.status = 200 ∧
      (tallied.eventsOf "cx").length = 2 := by decide +kernel
  have posts : Posts (reporting arriving) "cx" := ⟨rfl, _, .known (by decide +kernel)⟩
  obtain ⟨batch, u, more, carries, served, appends⟩ :=
    (log_appended tallied_reached).1 (visit 'e') (reporting arriving) "cx" posts accepted
  cases carries_unique carries ⟨_, rfl, rfl⟩
  refine ⟨accepted, ?_, before, ?_⟩
  · rw [served]
    exact appends
  · obtain ⟨_, _, _, events, recounts, log⟩ := appends.log
    rw [served, log, List.length_append, List.length_map, ← recounts.length_eq, before]
    rfl

-- The orchestrator was withdrawn while its execution went on, and then its draft was given a step that has no place.
def stranded : Tables :=
  let triggered := (handle (visit 'c') triggering (issued .null)).2
  let withdrawn := (handle (visit 'd') (sent "/api/orchestrators/ax/unpublish" .null) triggered).2
  let step : Json := .obj [("id", .str "start"), ("kind", .str "trigger"), ("position", .obj [("x", .str "nan")])]
  let save : Request := { sent "/api/orchestrators/ax" (.obj [("nodes", .arr [step])]) with method := "PUT" }
  (handle (visit 'e') save withdrawn).2

theorem stranded_reached : Reached [(visit 'e').supply, (visit 'd').supply, (visit 'c').supply, (visit 'b').supply,
    (visit 'a').supply] stranded :=
  .step (.step (.step (issued_reached .null) (visit 'c') _ (visit_new 'c' ['b', 'a'] (by decide))) (visit 'd') _
    (visit_new 'd' ['c', 'b', 'a'] (by decide))) (visit 'e') _ (visit_new 'e' ['d', 'c', 'b', 'a'] (by decide))

-- A report that fails in the end has added to the log.
theorem failed_report_logged : ¬ ∀ past t, Reached past t → ∀ c r key,
    (handle c r t).2.eventsOf key = t.eventsOf key ∨ (Posts r key ∧ (handle c r t).1.status = 200) ∨
      ∃ x ∈ t.executions, x.id = key ∧ Deletes r x.orchestratorId := by
  intro always
  obtain ⟨grown, failed⟩ : ((handle (visit 'f') (reporting arriving) stranded).2.eventsOf "cx").length ≠
      (stranded.eventsOf "cx").length ∧ (handle (visit 'f') (reporting arriving) stranded).1.status = 500 := by
    decide +kernel
  rcases always _ _ stranded_reached (visit 'f') (reporting arriving) "cx" with
    same | ⟨_, accepted⟩ | ⟨x, _, _, deletes⟩
  · exact grown (congrArg List.length same)
  · rw [failed] at accepted
    cases accepted
  · obtain ⟨p, serves, method⟩ := deletes
    rw [serves.same.1] at method
    exact absurd method (by decide)

end Service
end Orchestration
