import Orchestration.Proofs.EventLog
import Orchestration.Proofs.PublishedHistory

namespace Orchestration

def Summary.health (s : Summary) : Health := ⟨s.score, s.errors, s.lastExecution⟩

theorem Event.summarize_none : (summarize []).health = Health.clean := by decide +kernel

namespace Tables

-- Whatever is read has the health of its log.
def Counted (t : Tables) : Prop :=
  ∀ row ∈ t.records, ∀ l, row.Reads l → ∃ events, t.Recorded row.id events ∧ l.health = (Event.summarize events).health

theorem Counted.congr {t u : Tables} (counted : t.Counted) (records : u.records ⊆ t.records)
    (events : ∀ row ∈ u.records, u.eventsAbout row.id = t.eventsAbout row.id) : u.Counted := by
  intro row mem l reads
  obtain ⟨log, recorded, health⟩ := counted row (records mem) l reads
  exact ⟨log, recorded.congr (events row mem), health⟩

theorem eventsAbout_add {t u : Tables} (added : t.addVersion v = some u) (key : String) :
    u.eventsAbout key = t.eventsAbout key := by
  rw [addVersion_eq added, eventsAbout, eventsAbout]

theorem eventsAbout_drop (t : Tables) {key other : String} (different : other ≠ key) :
    ((t.dropRecord key).dropExecutions key).eventsAbout other = t.eventsAbout other :=
  filter_drop different t.events

end Tables

namespace Service

variable {c : Surroundings} {r : Request} {t : Tables}

theorem events_of_writes (inStep : t.InStep) (filed : t.Filed) (writes : Writes c t v o) (other : key ≠ o.id) :
    v.eventsAbout key = t.eventsAbout key := by
  cases writes with
  | created | edited | moved => rfl
  | published _ _ added => exact Tables.eventsAbout_add added key
  | refreshed logs found _ =>
    rw [find_congr logs.records.1] at found
    obtain ⟨_, name, _, _⟩ := inStep.loads (loads_of_find found)
    exact (filed_of_logs filed logs).2.2 key fun same => other (same.trans name.symm)

theorem found_counted (counted : t.Counted) (sound : t.Sound) (found : find t key s = .ok (l, w)) :
    ∃ events, t.Recorded l.id events ∧ l.health = (Event.summarize events).health := by
  obtain ⟨row, mem, _, gives⟩ := sound.found found
  exact gives.name ▸ counted row mem l gives.reads

theorem health_of_writes (sound : t.Sound) (filed : t.Filed) (counted : t.Counted)
    (new : ∀ n, c.supply.name n ∉ t.records.map RecordRow.id) (writes : Writes c t v o) :
    ∃ events, v.Recorded o.id events ∧ o.health = (Event.summarize events).health := by
  cases writes with
  | created n _ _ =>
    exact ⟨[], congrArg (List.map EventRow.document) (filed.none_about (new n)), Event.summarize_none.symm⟩
  | edited found _ _ | moved found _ =>
    obtain ⟨events, recorded, health⟩ := found_counted counted sound found
    exact ⟨events, recorded, health⟩
  | published found done added =>
    obtain ⟨_, _, published, _⟩ := Orchestrator.publish_parts done
    obtain ⟨events, recorded, health⟩ := found_counted counted sound found
    rw [published]
    exact ⟨events, recorded.congr (Tables.eventsAbout_add added _), health⟩
  | @refreshed _ _ _ l w _ logs found summed =>
    obtain ⟨events, recorded, _⟩ := (filed_of_logs filed logs).1.recorded l.id
    rw [recorded.summary w] at summed
    cases summed
    exact ⟨events, recorded, rfl⟩

theorem not_stuck {v : Tables} (inStep : v.InStep) (sound : v.Sound) (filed : v.Filed) (mem : row ∈ v.records)
    (reads : row.Reads l) (s : Supply) : ∃ l w summary u, find v row.id s = .ok (l, w) ∧
      summaryOf v l.id w = .ok summary ∧ v.putRecord (refreshed l summary) = .ok u := by
  obtain ⟨gives, _⟩ := sound.gives mem (reads s)
  obtain ⟨events, recorded, writable⟩ := filed.recorded l.id
  have storable := gives.storable (Event.summarize events).health (Event.last_whole writable)
  obtain ⟨u, stored⟩ := v.putRecord_ok storable gives.stamped.1 gives.stamped.2
  exact ⟨l, s, _, u, find_of_read inStep mem (reads s) s, recorded.summary s, stored⟩

theorem counted_of_effect (inStep : t.InStep) (sound : t.Sound) (filed : t.Filed) (counted : t.Counted)
    (new : ∀ n, c.supply.name n ∉ t.records.map RecordRow.id) (effect : Effect c r t u) : u.Counted := by
  cases effect with
  | none => exact counted
  | @stored v o _ writes stored =>
    obtain ⟨row, copies, rfl⟩ := Tables.putRecord_copies stored
    have records := (id_of_writes inStep writes).1
    intro other mem l reads
    rcases Tables.mem_put (records ▸ inStep.distinct) mem with rfl | ⟨old, different⟩
    · obtain ⟨events, recorded, health⟩ := health_of_writes sound filed counted new writes
      have readable := copies.readable (reads c.supply)
      cases reads.unique (copies.gives (sound_of_writes sound writes) readable).reads
      exact ⟨events, copies.name ▸ recorded, health⟩
    · obtain ⟨events, recorded, health⟩ := counted other (records ▸ old) l reads
      have same := events_of_writes inStep filed writes (copies.name ▸ different)
      exact ⟨events, recorded.congr same, health⟩
  | issued _ _ added _ =>
    have records := (Tables.addVersion_parts added).1
    exact counted.congr (fun _ mem => records ▸ mem) fun _ _ => Tables.eventsAbout_add added _
  | deleted =>
    refine counted.congr (List.filter_sublist.subset) fun row mem => ?_
    exact Tables.eventsAbout_drop t (by simpa using (List.mem_filter.mp mem).2)
  | triggered => exact counted.congr (fun _ mem => mem) fun _ _ => rfl
  | @logged e v s logs stuck =>
    obtain ⟨grown, _, others⟩ := filed_of_logs filed logs
    have records := logs.records.1
    intro row mem l reads
    by_cases about : row.id = e.orchestratorId
    · obtain ⟨_, _, _, u, found, summed, stored⟩ := not_stuck (inStep.congr records logs.records.2)
        (fun row mem => sound row (records ▸ mem)) grown mem reads s
      exact absurd stored (stuck _ _ _ u (about ▸ found) summed)
    · obtain ⟨events, recorded, health⟩ := counted row (records ▸ mem) l reads
      exact ⟨events, recorded.congr (others row.id about), health⟩

theorem reached_counted (reached : Reached past t) : t.Counted := by
  induction reached with
  | start => exact fun row mem => absurd mem List.not_mem_nil
  | step reached c r new ih =>
    exact counted_of_effect (reached_inStep reached).1 (reached_sound reached) (reached_filed reached).1 ih
      (new_ids reached new) (handle_effect c r _)

theorem handle_summary (asks : Asks r (.summary key)) (c : Surroundings) (t : Tables) :
    handle c r t = (executionSummary c key t, t) := by
  rw [handle_asks asks]
  simp [serve, write?, read?, asks.1]

-- The published orchestrator was triggered, and two events were reported of its execution.
def tallied : Tables :=
  let triggered := (handle (visit 'c') triggering (issued .null)).2
  let event (status : String) : Json := .obj [("nodeId", .str "start"), ("status", .str status)]
  let events : Json := .obj [("events", .arr [event "success", event "error"])]
  (handle (visit 'd') (sent "/api/executions/cx/events" events) triggered).2

theorem tallied_reached :
    Reached [(visit 'd').supply, (visit 'c').supply, (visit 'b').supply, (visit 'a').supply] tallied :=
  .step (.step (issued_reached .null) (visit 'c') _ (visit_new 'c' ['b', 'a'] (by decide))) (visit 'd') _
    (visit_new 'd' ['c', 'b', 'a'] (by decide))

end Service
end Orchestration
