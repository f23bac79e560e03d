import Orchestration.Proofs.Requests

namespace Orchestration

-- What stands under a field of an object, under whichever of its names, and what holds if nothing does.
def FieldName.Holds (f : FieldName) (m : Members) (absent : Prop) (P : Json → Prop) : Prop :=
  match f.given? m with
  | some (_, v) => P v
  | none => absent

def Json.IsText (v : Json) : Prop := ∃ s, v = .str s

namespace Decode

-- A value is read exactly if a condition holds, whatever names are at hand.
structure Takes (d : Decode α) (P : Prop) : Prop where
  reads : P → ∀ s, ∃ a t, d s = .ok (a, t)
  refuses : ¬ P → ∀ s, ∃ e, d s = .error e

theorem Takes.congr {d : Decode α} (takes : Takes d P) (same : P ↔ Q) : Takes d Q :=
  ⟨fun holds => takes.reads (same.mpr holds), fun fails => takes.refuses (mt same.mp fails)⟩

theorem takes_pure (a : α) : Takes (Pure.pure a : Decode α) True :=
  ⟨fun _ s => ⟨a, s, rfl⟩, fun never => absurd trivial never⟩

theorem takes_complain (p : Problem) : Takes (complain p : Decode α) False :=
  ⟨fun never => never.elim, fun _ _ => ⟨_, rfl⟩⟩

theorem takes_map {f : α → β} {d : Decode α} (takes : Takes d P) : Takes (f <$> d) P := by
  refine ⟨fun holds s => ?_, fun fails s => ?_⟩
  · obtain ⟨a, t, read⟩ := takes.reads holds s
    exact ⟨f a, t, map_ok read⟩
  · obtain ⟨e, refused⟩ := takes.refuses fails s
    exact ⟨e, by simp only [Functor.map, map, refused]⟩

theorem takes_seq {f : Decode (α → β)} {d : Decode α} (first : Takes f P) (second : Takes d Q) :
    Takes (f <*> d) (P ∧ Q) := by
  refine ⟨fun ⟨left, right⟩ s => ?_, fun fails s => ?_⟩
  · obtain ⟨g, u, before⟩ := first.reads left s
    obtain ⟨a, t, after⟩ := second.reads right u
    exact ⟨g a, t, seq_ok before after⟩
  · cases read : (f <*> d) s with
    | error e => exact ⟨e, rfl⟩
    | ok r =>
      obtain ⟨g, u, a, before, after, _⟩ := seq_parts (b := r.1) (t := r.2) read
      refine absurd ⟨?_, ?_⟩ fails
      · by_contra left
        obtain ⟨e, refused⟩ := first.refuses left s
        cases before.symm.trans refused
      · by_contra right
        obtain ⟨e, refused⟩ := second.refuses right u
        cases after.symm.trans refused

theorem takes_under {place : Place} {d : Decode α} (takes : Takes d P) : Takes (under place d) P := by
  refine ⟨fun holds s => ?_, fun fails s => ?_⟩
  · obtain ⟨a, t, read⟩ := takes.reads holds s
    exact ⟨a, t, under_eq_ok.mpr read⟩
  · obtain ⟨e, refused⟩ := takes.refuses fails s
    exact ⟨e.under place, by simp only [under, refused]⟩

theorem takes_field {m : Members} {f : FieldName} {absent : Decode α} {read : Json → Decode α} {R : Json → Prop}
    (missing : Takes absent A) (given : ∀ v, Takes (read v) (R v)) : Takes (field m f absent read) (f.Holds m A R) := by
  cases stands : f.given? m with
  | some kv =>
    simp only [field, FieldName.Holds, stands]
    exact takes_under (given kv.2)
  | none =>
    simp only [field, FieldName.Holds, stands]
    exact missing

theorem takes_required {m : Members} {f : FieldName} {read : Json → Decode α} {R : Json → Prop}
    (given : ∀ v, Takes (read v) (R v)) : Takes (required m f read) (f.Holds m False R) :=
  takes_field (takes_under (takes_complain _)) given

theorem takes_text (v : Json) : Takes (text v) v.IsText := by
  cases v with
  | str s => exact (takes_pure s).congr ⟨fun _ => ⟨s, rfl⟩, fun _ => trivial⟩
  | null | bool _ | int _ | float _ | arr _ | obj _ =>
    refine (takes_complain _).congr ⟨False.elim, ?_⟩
    rintro ⟨s, same⟩
    cases same

theorem takes_choice (of : String → Option α) (v : Json) :
    Takes (choice of v) (∃ s, v = .str s ∧ (of s).isSome = true) := by
  cases v with
  | str s =>
    cases known : of s with
    | some a =>
      simp only [choice, known]
      exact (takes_pure a).congr ⟨fun _ => ⟨s, rfl, by rw [known]; rfl⟩, fun _ => trivial⟩
    | none =>
      simp only [choice, known]
      refine (takes_complain _).congr ⟨False.elim, ?_⟩
      rintro ⟨_, same, found⟩
      cases same
      rw [known] at found
      cases found
  | null | bool _ | int _ | float _ | arr _ | obj _ =>
    refine (takes_complain _).congr ⟨False.elim, ?_⟩
    rintro ⟨s, same, _⟩
    cases same

theorem takes_optional {read : Json → Decode α} {R : Json → Prop} (given : ∀ v, Takes (read v) (R v)) (v : Json) :
    Takes (optional read v) (v = .null ∨ R v) := by
  cases v with
  | null => exact (takes_pure _).congr ⟨fun _ => .inl rfl, fun _ => trivial⟩
  | bool _ | int _ | float _ | str _ | arr _ | obj _ =>
    refine Takes.congr (takes_map (given _)) ⟨.inr, ?_⟩
    rintro (same | holds)
    · cases same
    · exact holds

end Decode

namespace Event

-- What is asked of the members of an event.
structure Fields (m : Members) : Prop where
  id : (FieldName.same "id").Holds m False Json.IsText
  execution : FieldName.Holds ⟨"executionId", "execution_id"⟩ m True fun v => v = .null ∨ v.IsText
  node : FieldName.Holds ⟨"nodeId", "node_id"⟩ m False Json.IsText
  label : FieldName.Holds ⟨"nodeLabel", "node_label"⟩ m True Json.IsText
  timestamp : (FieldName.same "timestamp").Holds m False Json.IsText
  status : (FieldName.same "status").Holds m False fun v => ∃ s, v = .str s ∧ (EventStatus.ofTag? s).isSome = true
  message : (FieldName.same "message").Holds m True Json.IsText
  latency : (FieldName.same "latency").Holds m True fun v => v = .null ∨ v.IsText

section
open Decode

theorem takes_decode (source : Source) (m : Members) : Takes (decode source (.obj m)) (Fields m) := by
  apply Takes.congr (takes_seq (takes_seq (takes_seq (takes_seq (takes_seq (takes_seq (takes_seq (takes_map ?id)
    ?execution) ?node) ?label) ?timestamp) ?status) ?message) ?latency)
  case id | node | timestamp => exact takes_required takes_text
  case label | message => exact takes_field (takes_pure _) takes_text
  case execution | latency => exact takes_field (takes_pure _) (takes_optional takes_text)
  case status => exact takes_required (takes_choice _)
  constructor
  · rintro ⟨⟨⟨⟨⟨⟨⟨id, execution⟩, node⟩, label⟩, timestamp⟩, status⟩, message⟩, latency⟩
    exact ⟨id, execution, node, label, timestamp, status, message, latency⟩
  · rintro ⟨id, execution, node, label, timestamp, status, message, latency⟩
    exact ⟨⟨⟨⟨⟨⟨⟨id, execution⟩, node⟩, label⟩, timestamp⟩, status⟩, message⟩, latency⟩

end

-- What is asked of an event that is reported: it may come without an id, a time and the name of its execution.
structure Legible (m : Members) : Prop where
  id : (FieldName.same "id").Holds m True Json.IsText
  node : FieldName.Holds ⟨"nodeId", "node_id"⟩ m False Json.IsText
  label : FieldName.Holds ⟨"nodeLabel", "node_label"⟩ m True Json.IsText
  timestamp : (FieldName.same "timestamp").Holds m True Json.IsText
  status : (FieldName.same "status").Holds m False fun v => ∃ s, v = .str s ∧ (EventStatus.ofTag? s).isSome = true
  message : (FieldName.same "message").Holds m True Json.IsText
  latency : (FieldName.same "latency").Holds m True fun v => v = .null ∨ v.IsText

end Event

namespace Service

section Filling

variable {m : Members} {key now freshId : String}

theorem find?_filed (written : name ≠ "executionId") (plain : name ≠ "execution_id") :
    (filed m freshId now key).find? name = ((Keyed.ofList m).find? name).or
      (Keyed.find? [("id", .str freshId), ("timestamp", .str now)] name) := by
  rw [filed, Keyed.find?_insert_of_ne _ _ written, ← Keyed.find?_update]
  exact Keyed.find?_filter (p := (· != "execution_id")) (by simpa using plain)

-- What is filled in, or taken away.
def filledIn : List String := ["id", "timestamp", "executionId", "execution_id"]

theorem find?_sent (other : name ∉ filledIn) (m : Members) (freshId now key : String) :
    (filed m freshId now key).find? name = (Keyed.ofList m).find? name := by
  simp only [filledIn, List.mem_cons, List.not_mem_nil, or_false, not_or] at other
  obtain ⟨id, time, written, plain⟩ := other
  have absent : Keyed.find? [("id", Json.str freshId), ("timestamp", .str now)] name = none := by
    simpa [Keyed.find?, List.lookup_eq_none_iff] using ⟨id, time⟩
  rw [find?_filed written plain, absent, Option.or_none]

theorem holds_sent {f : FieldName} (wire : f.wire ∉ filledIn) (plain : f.plain ∉ filledIn) {A : Prop} {P : Json → Prop} :
    f.Holds (filed m freshId now key) A P ↔ f.Holds (Keyed.ofList m) A P := by
  rw [FieldName.Holds, FieldName.Holds,
    FieldName.given?_congr (find?_sent wire m freshId now key) (find?_sent plain m freshId now key)]

-- A member that is filled in stands where nothing was sent.
theorem holds_default {m n : Members} (filled : n.find? name = (m.find? name).or (some v)) {A : Prop} {P : Json → Prop} :
    (FieldName.same name).Holds n A P ↔ (FieldName.same name).Holds m (P v) P := by
  cases sent : m.find? name <;> simp [FieldName.Holds, FieldName.given?, FieldName.same, filled, sent]

-- A text that is filled in is as good as one that need not be there.
theorem holds_filled {m n : Members} (filled : n.find? name = (m.find? name).or (some v)) (text : v.IsText) :
    (FieldName.same name).Holds n False Json.IsText ↔ (FieldName.same name).Holds m True Json.IsText := by
  rw [holds_default filled, eq_true text]

-- The name of the execution is written in over whatever was sent.
theorem given_filed (m : Members) (freshId now key : String) :
    FieldName.given? ⟨"executionId", "execution_id"⟩ (filed m freshId now key) = some ("executionId", .str key) :=
  Decode.given_wire (Keyed.find?_insert_self _ _ _)

theorem fields_filed (m : Members) (freshId now key : String) :
    Event.Fields (filed m freshId now key) ↔ Event.Legible (Keyed.ofList m) := by
  have id : (FieldName.same "id").Holds (filed m freshId now key) False Json.IsText ↔ _ :=
    holds_filled (find?_filed (by decide) (by decide)) ⟨freshId, rfl⟩
  have time : (FieldName.same "timestamp").Holds (filed m freshId now key) False Json.IsText ↔ _ :=
    holds_filled (find?_filed (by decide) (by decide)) ⟨now, rfl⟩
  have named : FieldName.Holds ⟨"executionId", "execution_id"⟩ (filed m freshId now key) True
      fun v => v = .null ∨ v.IsText := by
    rw [FieldName.Holds, given_filed]
    exact .inr ⟨key, rfl⟩
  constructor
  · intro fields
    refine ⟨id.mp fields.id, (holds_sent ?_ ?_).mp fields.node, (holds_sent ?_ ?_).mp fields.label, time.mp fields.timestamp,
      (holds_sent ?_ ?_).mp fields.status, (holds_sent ?_ ?_).mp fields.message, (holds_sent ?_ ?_).mp fields.latency⟩
    all_goals decide
  · intro legible
    refine ⟨id.mpr legible.id, named, (holds_sent ?_ ?_).mpr legible.node, (holds_sent ?_ ?_).mpr legible.label,
      time.mpr legible.timestamp, (holds_sent ?_ ?_).mpr legible.status, (holds_sent ?_ ?_).mpr legible.message,
      (holds_sent ?_ ?_).mpr legible.latency⟩
    all_goals decide

end Filling

-- A reported event that is taken for one of an execution.
structure Fits (key : String) (m : Members) : Prop where
  about : isOf (reportedExecution m) key = true
  legible : Event.Legible (Keyed.ofList m)

-- What is said of one that is not.
inductive Objects (key : String) (m : Members) : Reply → Prop where
  | foreign (other : isOf (reportedExecution m) key = false) :
    Objects key m (.refused 400 "execution_id mismatch between path and event payload")
  | illegible (about : isOf (reportedExecution m) key = true) (unlike : ¬ Event.Legible (Keyed.ofList m))
    (headline : String) : Objects key m (.malformedEvent headline)

-- A batch is taken as a whole, or the first event that does not fit is objected to.
inductive Batch (key : String) (reported : List Members) : Except Reply (List Event × Supply) → Prop where
  | taken (each : ∀ m ∈ reported, Fits key m) (read : List Event × Supply) : Batch key reported (.ok read)
  | ended (before : List Members) {m : Members} (parts : reported = before ++ m :: after) (each : ∀ b ∈ before, Fits key b)
    (objects : Objects key m reply) : Batch key reported (.error reply)

theorem Batch.cons {m : Members} (fits : Fits key m) (batch : Batch key rest done) (e : Event) :
    Batch key (m :: rest) (done >>= fun (es, s) => pure (e :: es, s)) := by
  cases batch with
  | taken each read => exact .taken (List.forall_mem_cons.mpr ⟨fits, each⟩) _
  | ended before parts each objects =>
    have more : m :: rest = m :: before ++ _ := congrArg (m :: ·) parts
    exact .ended (m :: before) more (List.forall_mem_cons.mpr ⟨fits, each⟩) objects

theorem readEvents_batch (key now : String) (s : Supply) (reported : List Members) :
    Batch key reported (readEvents key now s reported) := by
  induction reported generalizing s with
  | nil => exact .taken (fun _ mem => absurd mem List.not_mem_nil) _
  | cons m rest ih =>
    have takes := (Event.takes_decode .document (filed m s.draw.1 now key)).congr (fields_filed m s.draw.1 now key)
    have nothing : ∀ b ∈ ([] : List Members), Fits key b := fun _ mem => absurd mem List.not_mem_nil
    cases about : isOf (reportedExecution m) key with
    | false =>
      have ended : readEvents key now s (m :: rest) =
          .error (.refused 400 "execution_id mismatch between path and event payload") := by
        simp [readEvents, about]
      rw [ended]
      exact .ended [] rfl nothing (.foreign about)
    | true =>
      by_cases legible : Event.Legible (Keyed.ofList m)
      · obtain ⟨e, w, read⟩ := takes.reads legible s.draw.2
        have next : readEvents key now s (m :: rest) =
            readEvents key now w rest >>= fun (es, s) => pure (e :: es, s) := by
          simp only [readEvents, about, Decode.load, read]
          rfl
        rw [next]
        exact (ih w).cons ⟨about, legible⟩ e
      · obtain ⟨fault, refused⟩ := takes.refuses legible s.draw.2
        have ended : readEvents key now s (m :: rest) = .error (.malformedEvent (Rejection.headline ⟨Event.title, fault⟩)) := by
          simp [readEvents, about, Decode.load, refused]
        rw [ended]
        exact .ended [] rfl nothing (.illegible about legible _)

end Service
end Orchestration
