import Orchestration.Proofs.RemoteAddresses
import Orchestration.Proofs.RemoteReplies

namespace Orchestration

namespace DisplayId

-- Letters and digits stand for themselves.
theorem text_whole (d : DisplayId) : Text.hasHalf d.text = false := by
  have letter : ∀ digit < 26, (Letters.letter digit).toNat < 0x80 := fun digit small => by
    rw [Letters.toNat_letter small]
    omega
  have small : ∀ c ∈ d.text.toList, c.toNat < 0x80 := by
    rw [text_toList]
    refine List.forall_mem_append.mpr ⟨Letters.forall_digits letter _, fun c mem => ?_⟩
    have digit := Nat.isDigit_of_mem_toDigits (b := 10) (by decide) (by decide) mem
    have most : c.val ≤ 57 := by
      simp only [Char.isDigit, Bool.and_eq_true, decide_eq_true_eq] at digit
      exact digit.2
    exact Nat.lt_of_le_of_lt (UInt32.le_iff_toNat_le.mp most) (by decide)
  refine Text.broken_of_unmarked fun c mem => ?_
  rintro rfl
  exact absurd (small _ mem) (by decide)

end DisplayId

namespace Graph

variable {g : Graph}

theorem fits_relabel : g.relabel.graph.fits = true ↔ g.fits = true := by
  rw [fits_iff, fits_iff]
  simp [relabel_eq, redraw, labeled]

theorem whole_relabel (whole : Json.membersHalf g.members = false) : Json.membersHalf g.relabel.graph.members = false := by
  rw [members_whole] at whole ⊢
  refine ⟨fun n mem => ?_, whole.2⟩
  obtain ⟨m, among, rfl⟩ := mem_relabel.mp mem
  have label : (Json.ofText? (g.labeled m).displayId).hasHalf = false := by
    simp only [labeled]
    cases g.walk.claimed.find? m.id with
    | none => rfl
    | some d => exact d.text_whole
  have before := Json.hasHalf_obj.mp (whole.1 m among)
  rw [Node.encode, Json.hasHalf_obj]
  simp only [List.forall_mem_cons] at before ⊢
  exact ⟨before.1, before.2.1, ⟨before.2.2.1.1, label⟩, before.2.2.2⟩

end Graph

namespace Service

variable {c : Surroundings} {t u : Tables} {o l : Orchestrator}

theorem readBody_saveBody (valid : o.graph.Validated) (same : o.graph.loaded = o.graph) (s : Supply) :
    readBody SaveBody.decode (RemoteStore.saveBody o) s = .ok (⟨o.graph, some o.name, some o.description⟩, s) := by
  have graph : Graph.readMembers .request
      ([("name", .str o.name), ("description", .str o.description)] ++ o.graph.members) s = .ok (o.graph, s) := by
    rw [Graph.readMembers_written rfl rfl valid, same]
  have read : SaveBody.decode (RemoteStore.saveBody o) s = .ok (⟨o.graph, some o.name, some o.description⟩, s) :=
    Decode.seq_ok (Decode.seq_ok (Decode.map_ok graph)
      (Decode.field_ok (f := .same "name") (v := .str o.name) rfl rfl))
      (Decode.field_ok (f := .same "description") (v := .str o.description) rfl rfl)
  have under : Decode.under (.key "body") (SaveBody.decode (RemoteStore.saveBody o)) s =
      .ok (⟨o.graph, some o.name, some o.description⟩, s) := Decode.under_eq_ok.mpr read
  unfold readBody
  simp only [RemoteStore.saveBody] at under ⊢
  rw [under]

theorem save_found {request : SaveBody} (read : readBody SaveBody.decode body c.supply = .ok (request, s))
    (found : ∀ s, find t key s = .ok (l, s)) (draft : l.status = .draft) :
    save c key body t = answer (storeAndReply (replaced l request.graph request.name request.description c.now)) t := by
  rw [save, answer_given_ok read, answer_read_ok (findEditable_draft (found s) draft)]

theorem storeAndReply_cases (t : Tables) (created : o.createdAt.isSome = true) (updated : o.updatedAt.isSome = true) :
    (o.isWritable = true → ∃ u, t.putRecord o = .ok u ∧ answer (storeAndReply o) t = (.ok o.encode, u)) ∧
      (o.isWritable = false → answer (storeAndReply o) t = (.failure, t)) := by
  refine ⟨fun writable => ?_, fun unwritable => ?_⟩
  · obtain ⟨u, stored⟩ := t.putRecord_ok writable created updated
    refine ⟨u, stored, ?_⟩
    refine answer_storeAndReply (P := fun result => result = (.ok o.encode, u)) (fun stuck => ?_) fun v again => ?_
    · exact absurd stored (stuck u)
    · cases stored.symm.trans again
      rfl
  · have refused : t.putRecord o = .error .unwritable := if_pos (by rw [unwritable]; rfl)
    refine answer_storeAndReply (P := fun result => result = (.failure, t)) (fun _ => rfl) fun v stored => ?_
    cases refused.symm.trans stored

end Service

namespace RemoteStore

variable {base : String} {a : Web.Address} {c : Surroundings} {t u : Tables} {o l p : Orchestrator}

-- A request as the service gets it.
def Request.served (q : Request) : Service.Request := ⟨q.method, q.address, q.body⟩

-- What is sent to save an orchestrator is served, and the client reads of the reply what became of it.
def Saved (base : String) (o : Orchestrator) (c : Surroundings) (t : Tables) (reply : Orchestration.Reply) (u : Tables)
    (result : Except Fault Orchestrator) : Prop :=
  ∃ q, saveRequest base o = .ok q ∧ Service.handle c q.served t = (reply, u) ∧
    ∀ got, Carries reply got → ∀ s, readSave base o.id q got s = result

-- Whoever loads an orchestrator reads the same, and changes nothing.
def Loaded (base id : String) (t : Tables) (reply : Orchestration.Reply) (result : Except Fault (Option Orchestrator)) :
    Prop :=
  ∃ q, loadRequest base id = .ok q ∧ ∀ c, Service.handle c q.served t = (reply, t) ∧
    ∀ got, Carries reply got → ∀ s, readLoad base id q got s = result

-- The client is right about the flow, the name and the description, and the server about the rest.
structure Merges (l o p : Orchestrator) (now : String) : Prop where
  name : p.name = o.name
  description : p.description = o.description
  nodes : p.graph.nodes.map Node.unlabeled = o.graph.nodes.map Node.unlabeled
  edges : p.graph.edges = o.graph.edges
  labels : ∀ n ∈ p.graph.nodes, o.graph.displayIds.find? n.id = some n.displayId
  id : p.id = l.id
  status : p.status = l.status
  publishedVersion : p.publishedVersion = l.publishedVersion
  createdAt : p.createdAt = l.createdAt
  health : p.health = l.health
  updatedAt : p.updatedAt = some now

-- The client gets what the server made of both, in the bytes of whichever text, and that is what is stored.
structure Stored (base : String) (l o p : Orchestrator) (c : Surroundings) (t u : Tables) : Prop where
  merges : Merges l o p c.now
  saved : Saved base o c t (.answer 200 p.encode) u (.ok p)
  carried : p.encode.legible = true → ∀ text, p.encode.SpelledBy text →
    Carries (.answer 200 p.encode) (.answered 200 (Text.bytes text.toList))
  kept : ∃ after ∈ u.records, after.id = o.id ∧ after.document = p.encode ∧ Tables.Copies after p

-- The record that a save leaves.
def merged (l o : Orchestrator) (now : String) : Orchestrator :=
  Service.replaced l o.graph (some o.name) (some o.description) now

theorem merges_merged (l o : Orchestrator) (now : String) : Merges l o (merged l o now) now where
  name := rfl
  description := rfl
  nodes := by
    show o.graph.relabel.graph.nodes.map Node.unlabeled = _
    rw [Graph.relabel_eq, Graph.redraw, List.map_map]
    rfl
  edges := rfl
  labels := fun _ mem => Graph.displayIds_relabel o.graph ▸ Graph.find_label mem
  id := rfl
  status := rfl
  publishedVersion := rfl
  createdAt := rfl
  health := rfl
  updatedAt := rfl

theorem whole_merged {now : String} (kept : l.encode.hasHalf = false) (clock : Text.hasHalf now = false)
    (sent : (saveBody o).hasHalf = false) : (merged l o now).encode.hasHalf = false := by
  have before := Json.hasHalf_obj.mp kept
  have body := Json.hasHalf_obj.mp sent
  have graph := Graph.whole_relabel (g := o.graph)
    (Json.membersHalf_eq_false.mpr fun kv mem => body kv (List.mem_append_right _ mem))
  have rest := fun kv mem => before kv (List.mem_append_right l.graph.members mem)
  have named := fun kv mem => body kv (List.mem_append_left o.graph.members mem)
  rw [Orchestrator.encode, Json.hasHalf_obj, Orchestrator.members]
  refine List.forall_mem_append.mpr ⟨Json.membersHalf_eq_false.mp graph, ?_⟩
  simp only [List.forall_mem_cons] at rest named ⊢
  simp_all [Json.hasHalf, Json.ofText?, merged, Service.replaced, Orchestrator.relabel]

-- What is sent of an orchestrator can be kept: no payload lies too deep to be written, and no text is broken.
structure Keepable (o : Orchestrator) : Prop where
  fits : o.graph.fits = true
  whole : (saveBody o).hasHalf = false

theorem writable_merged {now : String} (kept : l.isWritable = true) (clock : Text.hasHalf now = false)
    (keepable : Keepable o) : (merged l o now).isWritable = true :=
  Orchestrator.isWritable_iff.mpr ⟨Graph.fits_relabel.mpr keepable.fits,
    whole_merged (Orchestrator.isWritable_iff.mp kept).2 clock keepable.whole⟩

theorem plain_of_read (read : WasRead Orchestrator.decode o) (placed : o.graph.Placed) (finite : o.graph.FiniteExtras) :
    o.graph.Plain := by
  obtain ⟨_, _, _, _, decoded⟩ := read
  obtain ⟨_, _, ⟨_, graph⟩, _⟩ := Orchestrator.decode_parts decoded
  have unmarked := Graph.unmarked_of_readMembers graph
  have valid := Graph.readMembers_validated graph
  exact fun n mem => ⟨⟨(valid n mem).settled, finite n mem, unmarked n mem⟩, placed n mem⟩

theorem finite_saveBody (placed : o.graph.Placed) : (saveBody o).isFinite = true := by
  have same : (saveBody o).finiteOnly = saveBody o := by
    rw [saveBody, Json.finiteOnly, Json.finiteMembers_append, Graph.encode_finite placed]
    rfl
  exact same ▸ Json.finiteOnly_isFinite _

theorem loaded_eq_self (flow : p.graph.Plain) : p.loaded = p := by
  rw [Orchestrator.loaded, Graph.loaded_eq_self flow]

theorem reply_ok (flow : p.graph.Plain) (score : p.health.score.isFinite = true) :
    Orchestration.Reply.ok p.encode = .answer 200 p.encode := by
  rw [Orchestration.Reply.ok, Orchestrator.encode_finite (Graph.placed_of_plain flow) score]

theorem loadRequest_ok (lands : address base key = .ok a) : loadRequest base key = .ok ⟨"GET", a, .null⟩ := by
  rw [loadRequest, lands]
  rfl

theorem saveRequest_ok (lands : address base o.id = .ok a) (placed : o.graph.Placed) (keepable : Keepable o) :
    saveRequest base o = .ok ⟨"PUT", a, saveBody o⟩ := by
  have handed : o.dumpFault? = none := Graph.dumpFault_of_fits keepable.fits
  simp [saveRequest, handed, lands, Json.sendFault?, finite_saveBody placed, keepable.whole]

theorem saveRequest_parts (lands : address base o.id = .ok a) (sent : saveRequest base o = .ok q) :
    q = ⟨"PUT", a, saveBody o⟩ ∧ (saveBody o).hasHalf = false := by
  unfold saveRequest at sent
  split at sent
  · cases sent
  · obtain ⟨b, there, sent⟩ := bind_parts sent
    cases lands.symm.trans there
    split at sent
    · cases sent
    · rename_i faultless
      cases sent
      refine ⟨rfl, ?_⟩
      by_contra broken
      unfold Json.sendFault? at faultless
      split at faultless
      · cases faultless
      · simp [broken] at faultless

-- The requests arrive where orchestrators are saved and loaded.
theorem put_served (plain : Unescaped key) (path : a.path = pathOf key) (body : Json) (c : Surroundings) (t : Tables) :
    Service.handle c (Request.served ⟨"PUT", a, body⟩) t = Service.save c key body t := by
  rw [Service.handle_known (endpoint_lands plain (Request.served ⟨"PUT", a, body⟩) path)]
  rfl

theorem get_served (plain : Unescaped key) (path : a.path = pathOf key) (c : Surroundings) (t : Tables) :
    Service.handle c (Request.served ⟨"GET", a, .null⟩) t = (Service.get c key t, t) :=
  Service.handle_get ⟨rfl, endpoint_lands plain (Request.served ⟨"GET", a, .null⟩) path⟩ c t

theorem loaded_of_get (asking : Asking base a) (plain : Unescaped key)
    (fits : Fits base key)
    (served : ∀ c, Service.get c key t = reply)
    (means : ∀ {q : Request} {got}, q.address.isAbsolute = true → Carries reply got → ∀ s,
      readLoad base key q got s = result) : Loaded base key t reply result := by
  refine ⟨_, loadRequest_ok (address_lands asking plain fits), fun c => ⟨?_, fun got carried s => ?_⟩⟩
  · rw [get_served plain rfl, served]
  · exact means asking.absolute carried s

theorem loaded_stored (distinct : (t.records.map RecordRow.id).Nodup) (mem : row ∈ t.records) (name : row.id = key)
    (copies : Tables.Copies row p) (sound : p.Sound) (flow : p.graph.Plain) (asking : Asking base a)
    (plain : Unescaped key) (fits : Fits base key) :
    (p.graph.Shallow → Loaded base key t (.answer 200 p.encode) (.ok (some p))) ∧
      (¬ p.graph.Shallow → Loaded base key t .failure (.error (.loadRefused key 500))) := by
  subst name
  have same := loaded_eq_self flow
  have readable : p.Readable ↔ p.graph.Shallow := and_iff_right (Graph.placed_of_plain flow)
  have asked := fun c : Surroundings => Service.get_copies (c := c) distinct mem copies sound
  rw [same, reply_ok flow sound.score] at asked
  constructor
  · exact fun shallow => loaded_of_get asking plain fits (fun c => (asked c).1 (readable.mpr shallow))
      fun absolute carried s => (read_ok absolute sound.valid same carried row.id s).2
  · exact fun deep => loaded_of_get asking plain fits (fun c => (asked c).2 (mt readable.mp deep))
      fun absolute carried s => (read_failure absolute carried row.id s).2

theorem writable_of_reads (reached : Service.Reached past t) (mem : row ∈ t.records) (reads : row.Reads l) :
    row.Gives l ∧ l.isWritable = true := by
  obtain ⟨k, copies, good⟩ := Service.reached_sound reached row mem
  have readable := copies.readable (reads ⟨fun _ => "", 0⟩)
  have gives := copies.gives good readable
  cases gives.reads.unique reads
  have whole := Json.hasHalf_obj.mp (Orchestrator.isWritable_iff.mp copies.writable).2
  refine ⟨gives, gives.storable k.health ?_⟩
  exact (whole ("lastExecution", .ofText? k.health.lastExecution) (by simp [Orchestrator.members])).2

section Agreement

variable (reached : Service.Reached past t) (mem : row ∈ t.records) (reads : row.Reads l) (draft : l.status = .draft)
  (own : row.id = o.id) (flow : o.graph.Plain) (asking : Asking base a) (plain : Unescaped o.id)
  (fits : Fits base o.id)

include reached mem reads draft flow

theorem sound_merged (c : Surroundings) : (merged l o c.now).Sound := by
  have found := Service.find_of_read (Service.reached_inStep reached).1 mem (reads c.supply) c.supply
  exact Service.sound_of_writes (Service.reached_sound reached)
    (.edited found draft (Graph.validated_of_plain flow))

include own plain

-- The draft is there, so it comes to whether the new record can be written.
theorem put_answered (path : a.path = pathOf o.id) (c : Surroundings) :
    Service.handle c (Request.served ⟨"PUT", a, saveBody o⟩) t =
      Service.answer (Service.storeAndReply (merged l o c.now)) t := by
  have found : ∀ s, Service.find t o.id s = .ok (l, s) := fun s =>
    own ▸ Service.find_of_read (Service.reached_inStep reached).1 mem (reads s) s
  rw [put_served plain path, Service.save_found (Service.readBody_saveBody (Graph.validated_of_plain flow)
    (Graph.loaded_eq_self flow) c.supply) found draft]
  rfl

include asking fits

theorem save_stored (clock : Text.hasHalf c.now = false) (keepable : Keepable o) :
    ∃ p u, Stored base l o p c t u ∧
      (o.graph.Shallow → Loaded base o.id u (.answer 200 p.encode) (.ok (some p))) ∧
      (¬ o.graph.Shallow → Loaded base o.id u .failure (.error (.loadRefused o.id 500))) := by
  obtain ⟨gives, kept⟩ := writable_of_reads reached mem reads
  have sound := sound_merged reached mem reads draft flow c
  have again : (merged l o c.now).graph.Plain := Graph.plain_relabel flow
  obtain ⟨u, stored, done⟩ := (Service.storeAndReply_cases t (o := merged l o c.now) gives.stamped.1 rfl).1
    (writable_merged kept clock keepable)
  obtain ⟨after, copies, rfl⟩ := Tables.putRecord_copies stored
  have name : after.id = o.id := copies.name.trans (gives.name.symm.trans own)
  have among := Tables.mem_put_self (fun r => r.id == after.id) after t.records
  have loads := loaded_stored (t := { t with records := Tables.put (fun r => r.id == after.id) after t.records })
    (Tables.put_distinct (Service.reached_inStep reached).1.distinct) among name copies sound again asking plain fits
  rw [show (merged l o c.now).graph.Shallow ↔ o.graph.Shallow from Graph.shallow_relabel] at loads
  rw [reply_ok again sound.score] at done
  refine ⟨_, _, ⟨merges_merged l o c.now, ⟨_, saveRequest_ok (address_lands asking plain fits)
    (Graph.placed_of_plain flow) keepable, ?_, fun got carried s => ?_⟩,
    fun legible _ => carries_spelled (Graph.dumpFault_of_fits (Orchestrator.isWritable_iff.mp copies.writable).1)
      legible, after, among, name, ?_, copies⟩, loads⟩
  · rw [put_answered reached mem reads draft own flow plain rfl, done]
  · exact (read_ok asking.absolute sound.valid (loaded_eq_self again) carried o.id s).1
  · rw [copies.document, Orchestrator.encode_finite (Graph.placed_of_plain again) sound.score]

theorem save_refused (unkept : ¬ Keepable o) : (∃ fault, saveRequest base o = .error fault) ∨
    Saved base o c t .failure t (.error (.saveRefused o.id 500)) := by
  cases sent : saveRequest base o with
  | error fault => exact .inl ⟨fault, rfl⟩
  | ok q =>
    obtain ⟨rfl, whole⟩ := saveRequest_parts (address_lands asking plain fits) sent
    refine .inr ⟨_, sent, ?_, fun got carried s => (read_failure asking.absolute carried o.id s).1⟩
    obtain ⟨gives, _⟩ := writable_of_reads reached mem reads
    rw [put_answered reached mem reads draft own flow plain rfl]
    refine (Service.storeAndReply_cases t (o := merged l o c.now) gives.stamped.1 rfl).2
      (Bool.eq_false_iff.mpr fun written => ?_)
    exact unkept ⟨Graph.fits_relabel.mp (Orchestrator.isWritable_iff.mp written).1, whole⟩

end Agreement

-- A draft that the server keeps.
def entrusted : Tables :=
  let step : Json := .obj [("id", .str "start"), ("kind", .str "trigger")]
  Service.tablesAfter (Service.visit 'a')
    (Service.sent "/api/orchestrators" (.obj [("name", .str "Leave"), ("nodes", .arr [step])])) .empty

theorem entrusted_reached : Service.Reached [(Service.visit 'a').supply] entrusted :=
  Service.Reached.start.next (Service.visit_new 'a' [] (by decide))

theorem entrusted_draft : ∃ row ∈ entrusted.records, row.id = "ax" ∧ ∃ l, row.Reads l ∧ l.status = .draft := by
  have stored : ∃ row ∈ entrusted.records, row.id = "ax" ∧
      (Tables.read? (Orchestrator.decode .document) row.document (Service.visit 'b').supply).map (·.1.status) =
        some .draft := by decide +kernel
  obtain ⟨row, mem, key, found⟩ := stored
  obtain ⟨⟨l, w⟩, given, status⟩ := Option.map_eq_some_iff.mp found
  obtain ⟨gives, _⟩ := (Service.reached_sound entrusted_reached).gives mem given
  exact ⟨row, mem, key, l, gives.reads, status⟩

-- What a client makes of it. The client takes it to be published, and a payload holds a value.
def revised (v : Json) : Orchestrator where
  graph := ⟨[⟨"a", .origin, none, ⟨"", 1, .days, .delay, [("x", v)]⟩⟩, ⟨"b", .origin, none, ⟨"", 1, .days, .delay, []⟩⟩],
    [⟨"e", "a", "b", none, none⟩]⟩
  id := "ax"
  name := "Holiday"
  description := ""
  status := .published
  health := .clean
  publishedVersion := some 7
  createdAt := none
  updatedAt := none

theorem revised_read (v : Json) : WasRead Orchestrator.decode (revised v) :=
  ⟨.document, .obj [("nodes", .arr [.obj [("id", .str "a"), ("kind", .str "delay"), ("data", .obj [("x", v)])],
    .obj [("id", .str "b"), ("kind", .str "delay")]]),
    ("edges", .arr [.obj [("id", .str "e"), ("source", .str "a"), ("target", .str "b")]]),
    ("id", .str "ax"), ("name", .str "Holiday"), ("status", .str "published"), ("publishedVersion", .int 7)],
    ⟨fun _ => "", 0⟩, ⟨fun _ => "", 0⟩, rfl⟩

def usualAddress : Web.Address := ⟨"http".toList, [], "localhost".toList, some 8000, [], none, none⟩

theorem usual_asking : Asking usualServer usualAddress where
  written := ⟨"http".toList, "localhost:8000".toList, by decide, by decide,
    List.all_eq_true.mp (by decide), List.all_eq_true.mp (by decide)⟩
  reads := by decide
  absolute := rfl

theorem usual_unescaped : Unescaped "ax" := ⟨by decide, List.all_eq_true.mp (by decide), by decide⟩

theorem usual_fits : Fits usualServer "ax" := by
  unfold Fits
  decide

theorem revised_placed (v : Json) : (revised v).graph.Placed :=
  List.forall_mem_cons.mpr ⟨⟨rfl, rfl⟩, List.forall_mem_singleton.mpr ⟨rfl, rfl⟩⟩

theorem revised_finite {v : Json} (finite : v.isFinite = true) : (revised v).graph.FiniteExtras :=
  List.forall_mem_cons.mpr ⟨by simp [Json.membersFinite, finite], List.forall_mem_singleton.mpr rfl⟩

theorem revised_legible (handled : Service.handle (Service.visit 'b')
    (Request.served ⟨"PUT", { usualAddress with path := pathOf "ax" }, saveBody (revised .null)⟩) entrusted =
      (.answer 200 document, u)) : document.legible = true := by
  have told : (match (Service.handle (Service.visit 'b')
      (Request.served ⟨"PUT", { usualAddress with path := pathOf "ax" }, saveBody (revised .null)⟩) entrusted).1 with
    | .answer _ document => document.legible
    | _ => false) = true := by decide +kernel
  rwa [handled] at told

end RemoteStore

end Orchestration
