import Orchestration.Proofs.HealthScore
import Orchestration.Proofs.PublishedVersions
import Orchestration.Proofs.Reloading
import Orchestration.Proofs.StoredDepth

namespace Orchestration

namespace Graph

-- The nodes carry the labels that the graph gives to them.
def Labeled (g : Graph) : Prop := ∀ n ∈ g.nodes, g.labeled n = n

theorem relabel_labeled (g : Graph) : g.relabel.graph.Labeled := by
  have walk : g.relabel.graph.walk = g.walk := walk_redraw (f := g.labeled) (fun _ => rfl) (fun _ => rfl) g
  intro n mem
  obtain ⟨m, _, rfl⟩ := mem_relabel.mp mem
  rw [labeled, walk]
  rfl

theorem Labeled.relabel {g : Graph} (labeled : g.Labeled) : g.relabel.graph = g := by
  rw [relabel_eq, redraw, map_eq_self.mpr labeled]

theorem Labeled.loaded {g : Graph} (labeled : g.Labeled) : g.loaded.Labeled := by
  have walk : g.loaded.walk = g.walk := walk_redraw (f := Node.loaded) (fun _ => rfl) (fun _ => rfl) g
  intro n mem
  obtain ⟨m, present, rfl⟩ := List.mem_map.mp mem
  have label : (g.labeled m).loaded = m.loaded := congrArg Node.loaded (labeled m present)
  rwa [Graph.labeled, walk]

end Graph

namespace Orchestrator

-- What every orchestrator is that the service stores. Only drafts hold what was never read.
structure Sound (o : Orchestrator) : Prop where
  valid : o.graph.Validated
  score : o.health.score.isFinite = true
  labeled : o.graph.Labeled
  settled : o.status ≠ .draft → o.graph.Plain ∧ o.graph.Shallow

def Readable (o : Orchestrator) : Prop := o.graph.Placed ∧ o.graph.Shallow

theorem Sound.readable {o : Orchestrator} (sound : o.Sound) (fixed : o.status ≠ .draft) : o.Readable :=
  ⟨Graph.placed_of_plain (sound.settled fixed).1, (sound.settled fixed).2⟩

theorem Sound.loaded {o : Orchestrator} (sound : o.Sound) (readable : o.Readable) : o.loaded.Sound :=
  have plain := Graph.loaded_plain sound.valid readable.1
  ⟨Graph.validated_of_plain plain, sound.score, sound.labeled.loaded, fun _ =>
    ⟨plain, Graph.shallow_loaded readable.2⟩⟩

end Orchestrator

namespace RecordRow

-- What is read of a row, whatever names are at hand.
def Reads (row : RecordRow) (l : Orchestrator) : Prop :=
  ∀ s, Tables.read? (Orchestrator.decode .document) row.document s = some (l, s)

def Readable (row : RecordRow) : Prop := ∃ l, row.Reads l

theorem Reads.unique {row : RecordRow} (first : row.Reads l) (second : row.Reads k) : l = k := by
  have same := (first ⟨fun _ => "", 0⟩).symm.trans (second ⟨fun _ => "", 0⟩)
  cases same
  rfl

-- A row that is read, and what is known of the orchestrator that is read of it.
structure Gives (row : RecordRow) (l : Orchestrator) : Prop where
  reads : row.Reads l
  name : row.id = l.id
  status : row.status = l.status.tag
  sound : l.Sound
  plain : l.graph.Plain
  shallow : l.graph.Shallow
  stamped : l.createdAt.isSome = true ∧ l.updatedAt.isSome = true
  storable : ∀ health : Health, (Json.ofText? health.lastExecution).hasHalf = false →
    ({ l with health := health } : Orchestrator).isWritable = true

end RecordRow

namespace Tables

variable {t u v : Tables} {o l : Orchestrator}

theorem Copies.within (copies : Copies row o) :
    row.document.within Json.deepestStored = true ↔ o.graph.Shallow := by
  rw [copies.document, Json.within_finiteOnly, Orchestrator.within_encode]

theorem Copies.gives (copies : Copies row o) (sound : o.Sound) (readable : o.Readable) :
    row.Gives o.loaded where
  reads := by
    intro s
    rw [read?, if_pos (copies.within.mpr readable.2), copies.document,
      Orchestrator.decode_stored sound.valid readable.1 sound.score]
    rfl
  name := copies.name
  status := copies.status
  sound := sound.loaded readable
  plain := Graph.loaded_plain sound.valid readable.1
  shallow := Graph.shallow_loaded readable.2
  stamped := ⟨copies.created, Option.isSome_of_eq_some copies.updated⟩
  storable := fun health last => Orchestrator.writable_loaded copies.writable readable.2 health last

theorem Copies.readable (copies : Copies row o)
    (read : read? (Orchestrator.decode .document) row.document s = some r) : o.Readable := by
  obtain ⟨within, decoded⟩ := Service.read?_parts read
  rw [copies.document] at decoded
  exact ⟨(Orchestrator.finite_of_decode decoded).1, copies.within.mp within⟩

theorem Copies.readable_iff (copies : Copies row o) (sound : o.Sound) : row.Readable ↔ o.Readable :=
  ⟨fun ⟨_, reads⟩ => copies.readable (reads ⟨fun _ => "", 0⟩),
    fun readable => ⟨_, (copies.gives sound readable).reads⟩⟩

theorem Copies.unread (copies : Copies row o) (lost : ¬ o.Readable) (s : Supply) :
    read? (Orchestrator.decode .document) row.document s = none := by
  cases read : read? (Orchestrator.decode .document) row.document s with
  | none => rfl
  | some r => exact absurd (copies.readable read) lost

def Sound (t : Tables) : Prop := ∀ row ∈ t.records, ∃ o, Copies row o ∧ o.Sound

theorem Sound.gives (sound : t.Sound) (mem : row ∈ t.records)
    (read : read? (Orchestrator.decode .document) row.document s = some (l, w)) : row.Gives l ∧ w = s := by
  obtain ⟨o, copies, good⟩ := sound row mem
  have gives := copies.gives good (copies.readable read)
  cases read.symm.trans (gives.reads s)
  exact ⟨gives, rfl⟩

theorem Sound.found (sound : t.Sound) (found : Service.find t key s = .ok (l, w)) :
    ∃ row ∈ t.records, row.id = key ∧ row.Gives l := by
  unfold Service.find at found
  split at found
  · cases found
  · rename_i row present
    obtain ⟨mem, same⟩ := record?_parts present
    exact ⟨row, mem, same, (sound.gives mem (Service.ofStored_parts found)).1⟩

end Tables

namespace Service

variable {c : Surroundings} {r : Request} {t u v : Tables} {o : Orchestrator}

theorem summaryOf_parts {key : String} (summed : summaryOf t key s = .ok summary) :
    ∃ events w, Tables.readAll? (Event.decode .document) s ((t.eventsAbout key).map EventRow.document) =
      some (events, w) ∧ summary = Event.summarize events := by
  obtain ⟨⟨events, w⟩, read, rest⟩ := bind_parts summed
  cases rest
  exact ⟨events, w, ofStored_parts read, rfl⟩

theorem sound_of_writes (sound : t.Sound) (writes : Writes c t v o) : o.Sound := by
  cases writes with
  | created n request valid =>
    have clean : Health.clean.score.isFinite = true := by decide +kernel
    exact ⟨Graph.validated_relabel valid, clean, Graph.relabel_labeled _, fun fixed => absurd rfl fixed⟩
  | edited found draft valid =>
    obtain ⟨_, _, _, gives⟩ := sound.found found
    exact ⟨Graph.validated_relabel valid, gives.sound.score, Graph.relabel_labeled _, fun fixed => absurd draft fixed⟩
  | moved found moves =>
    obtain ⟨_, _, _, gives⟩ := sound.found found
    exact ⟨gives.sound.valid, gives.sound.score, gives.sound.labeled, fun _ => ⟨gives.plain, gives.shallow⟩⟩
  | published found done added =>
    obtain ⟨_, _, _, gives⟩ := sound.found found
    obtain ⟨_, _, published, _⟩ := Orchestrator.publish_parts done
    rw [published]
    exact ⟨Graph.validated_relabel gives.sound.valid, gives.sound.score, Graph.relabel_labeled _, fun _ =>
      ⟨Graph.plain_relabel gives.plain, Graph.shallow_relabel.mpr gives.shallow⟩⟩
  | refreshed logs found summed =>
    rw [find_congr logs.records.1] at found
    obtain ⟨_, _, _, gives⟩ := sound.found found
    obtain ⟨events, _, _, rfl⟩ := summaryOf_parts summed
    exact ⟨gives.sound.valid, Event.summarize_finite events, gives.sound.labeled, fun _ =>
      ⟨gives.plain, gives.shallow⟩⟩

-- A row of the tables after a request was there before, or the request has written it.
theorem row_of_effect (inStep : t.InStep) (effect : Effect c r t u) (mem : row ∈ u.records) :
    row ∈ t.records ∨ ∃ v o, Writes c t v o ∧ Tables.Copies row o := by
  cases effect with
  | none | triggered => exact .inl mem
  | @stored v o _ writes stored =>
    obtain ⟨new, copies, rfl⟩ := Tables.putRecord_copies stored
    have records := (id_of_writes inStep writes).1
    rcases Tables.mem_put (records ▸ inStep.distinct) mem with rfl | ⟨old, _⟩
    · exact .inr ⟨v, o, writes, copies⟩
    · exact .inl (records ▸ old)
  | issued _ _ added _ => exact .inl ((Tables.addVersion_parts added).1 ▸ mem)
  | deleted => exact .inl (List.mem_filter.mp mem).1
  | logged logs _ => exact .inl (logs.records.1 ▸ mem)

theorem sound_of_effect (inStep : t.InStep) (sound : t.Sound) (effect : Effect c r t u) : u.Sound := by
  intro row mem
  rcases row_of_effect inStep effect mem with old | ⟨v, o, writes, copies⟩
  · exact sound row old
  · exact ⟨o, copies, sound_of_writes sound writes⟩

theorem reached_sound (reached : Reached past t) : t.Sound := by
  induction reached with
  | start => exact fun row mem => absurd mem List.not_mem_nil
  | step reached c r _ ih => exact sound_of_effect (reached_inStep reached).1 ih (handle_effect c r _)

theorem readAll_gives {rows : List RecordRow} (each : ∀ row ∈ rows, row.Readable) :
    ∃ os, List.Forall₂ RecordRow.Reads rows os ∧ ∀ s,
      Tables.readAll? (Orchestrator.decode .document) s (rows.map RecordRow.document) = some (os, s) := by
  induction rows with
  | nil => exact ⟨[], .nil, fun _ => rfl⟩
  | cons row rest ih =>
    obtain ⟨⟨l, first⟩, others⟩ := List.forall_mem_cons.mp each
    obtain ⟨os, reads, done⟩ := ih others
    exact ⟨l :: os, .cons first reads, fun s => by simp [Tables.readAll?, first s, done s]⟩

theorem readAll_unread {rows : List RecordRow} (mem : row ∈ rows)
    (unread : ∀ s, Tables.read? (Orchestrator.decode .document) row.document s = none) (s : Supply) :
    Tables.readAll? (Orchestrator.decode .document) s (rows.map RecordRow.document) = none := by
  induction rows generalizing s with
  | nil => cases mem
  | cons first rest ih =>
    simp only [List.map_cons, Tables.readAll?]
    rcases List.mem_cons.mp mem with rfl | later
    · rw [unread s]
      rfl
    · cases Tables.read? (Orchestrator.decode .document) first.document s with
      | none => rfl
      | some r =>
        simp only [ih later]
        rfl

theorem mem_recordsWith_none {t : Tables} : row ∈ t.recordsWith none ↔ row ∈ t.records := List.mem_mergeSort

-- A request that only looks.
def Asks (r : Request) (endpoint : Endpoint) : Prop := r.method = "GET" ∧ endpoint? r.path = some endpoint

theorem handle_asks (asks : Asks r endpoint) (c : Surroundings) (t : Tables) :
    handle c r t = serve c r endpoint t := handle_known asks.2 c t

theorem handle_get (asks : Asks r (.orchestrator key)) (c : Surroundings) (t : Tables) :
    handle c r t = (get c key t, t) := by
  rw [handle_asks asks]
  simp [serve, write?, read?, asks.1]

theorem handle_list (asks : Asks r .orchestrators) (all : r.query.find? "status" = none) (c : Surroundings)
    (t : Tables) : handle c r t = (list c none t, t) := by
  rw [handle_asks asks]
  simp only [serve, write?, read?, asks.1, listRequested, queryValue, all]
  rfl

-- What comes of asking for all orchestrators: they are all read, or nothing is.
inductive Listed (t : Tables) : Reply → Prop where
  | all (each : ∀ row ∈ t.records, row.Readable) (read : List.Forall₂ RecordRow.Reads (t.recordsWith none) os) :
    Listed t (.ok (.arr (os.map Orchestrator.encode)))
  | lost (one : ∃ row ∈ t.records, ¬ row.Readable) : Listed t .failure

theorem listed (sound : t.Sound) (c : Surroundings) : Listed t (list c none t) := by
  by_cases each : ∀ row ∈ t.records, row.Readable
  · obtain ⟨os, reads, done⟩ := readAll_gives fun row mem => each row (mem_recordsWith_none.mp mem)
    have reply : list c none t = .ok (.arr (os.map Orchestrator.encode)) := by
      simp only [list, done]
      rfl
    rw [reply]
    exact .all each reads
  · push Not at each
    obtain ⟨row, mem, lost⟩ := each
    obtain ⟨o, copies, good⟩ := sound row mem
    have unread := copies.unread fun readable => lost ((copies.readable_iff good).mpr readable)
    have reply : list c none t = .failure := by
      simp only [list, readAll_unread (mem_recordsWith_none.mpr mem) unread]
      rfl
    rw [reply]
    exact .lost ⟨row, mem, lost⟩

theorem get_copies (distinct : (t.records.map RecordRow.id).Nodup) (mem : row ∈ t.records)
    (copies : Tables.Copies row o) (sound : o.Sound) :
    (o.Readable → get c row.id t = .ok o.loaded.encode) ∧ (¬ o.Readable → get c row.id t = .failure) := by
  have stored := Tables.record?_of_mem distinct mem
  refine ⟨fun readable => ?_, fun lost => ?_⟩
  · simp only [get, find, stored, (copies.gives sound readable).reads c.supply]
    rfl
  · simp only [get, find, stored, copies.unread lost]
    rfl

-- What comes of asking for the orchestrator in a row.
inductive Answered (row : RecordRow) : Reply → Prop where
  | read (reads : row.Reads l) : Answered row (.ok l.encode)
  | lost (unread : ¬ row.Readable) : Answered row .failure

theorem answered (inStep : t.InStep) (sound : t.Sound) (mem : row ∈ t.records) (c : Surroundings) :
    Answered row (get c row.id t) := by
  obtain ⟨o, copies, good⟩ := sound row mem
  obtain ⟨read, lost⟩ := get_copies (c := c) inStep.distinct mem copies good
  by_cases readable : o.Readable
  · rw [read readable]
    exact .read (copies.gives good readable).reads
  · rw [lost readable]
    exact .lost fun read => readable ((copies.readable_iff good).mp read)

-- Whatever requests came before: which orchestrators are read, and what is served of them.
theorem stored_read_back (reached : Reached past t) :
    (∀ row ∈ t.records, ∃ o, Tables.Copies row o ∧ o.Sound ∧ (row.Readable ↔ o.Readable) ∧
      ∀ c r, Asks r (.orchestrator row.id) → ∃ reply, handle c r t = (reply, t) ∧ Answered row reply) ∧
    ∀ c r, Asks r .orchestrators → r.query.find? "status" = none →
      ∃ reply, handle c r t = (reply, t) ∧ Listed t reply := by
  obtain ⟨inStep, _⟩ := reached_inStep reached
  have sound := reached_sound reached
  refine ⟨fun row mem => ?_, fun c r asks all => ⟨_, handle_list asks all c t, listed sound c⟩⟩
  obtain ⟨o, copies, good⟩ := sound row mem
  exact ⟨o, copies, good, copies.readable_iff good, fun c r asks =>
    ⟨_, handle_get asks c t, answered inStep sound mem c⟩⟩

def asking (path : String) : Request := { sent path .null with method := "GET" }

theorem issued_read_back : ∃ row ∈ (issued .null).records, ∃ l, row.Reads l ∧
    handle (visit 'c') (asking "/api/orchestrators/ax") (issued .null) = (.ok l.encode, issued .null) := by
  obtain ⟨row, mem, key, _, _, read, _⟩ := stands_parts (t := issued .null) (by decide +kernel)
  obtain ⟨o, copies, good, readable, served⟩ := (stored_read_back (issued_reached .null)).1 row mem
  have asks : Asks (asking "/api/orchestrators/ax") (.orchestrator row.id) := key ▸ ⟨rfl, by decide +kernel⟩
  obtain ⟨reply, handled, answered⟩ := served (visit 'c') _ asks
  cases answered with
  | read reads => exact ⟨row, mem, _, reads, handled⟩
  | lost unread => exact absurd (readable.mpr (copies.readable read)) unread

-- A draft with a step that has no place.
def unplaced : Tables :=
  let step : Json := .obj [("id", .str "start"), ("kind", .str "trigger"), ("position", .obj [("x", .str "nan")])]
  (handle (visit 'a') (sent "/api/orchestrators" (.obj [("name", .str "Leave"), ("nodes", .arr [step])])) .empty).2

theorem unplaced_reached : Reached [(visit 'a').supply] unplaced :=
  .step .start (visit 'a') _ fun _ mem => absurd mem List.not_mem_nil

theorem unplaced_not_read_back : ¬ ∀ past t row, Reached past t → row ∈ t.records →
    ∀ c r, Asks r (.orchestrator row.id) → (handle c r t).1.status = 200 := by
  intro always
  have stored : ∃ row ∈ unplaced.records, row.id = "ax" := by decide +kernel
  obtain ⟨row, mem, key⟩ := stored
  have answered := always _ _ row unplaced_reached mem (visit 'b') (asking "/api/orchestrators/ax")
    (key ▸ ⟨rfl, by decide +kernel⟩)
  have failed : (handle (visit 'b') (asking "/api/orchestrators/ax") unplaced).1.status = 500 := by decide +kernel
  rw [failed] at answered
  cases answered

end Service
end Orchestration
