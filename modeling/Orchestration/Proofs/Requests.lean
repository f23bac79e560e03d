import Orchestration.Proofs.Drawing
import Orchestration.Proofs.StoredDocuments
import Orchestration.Proofs.VersionTable
import Orchestration.Service.Route

namespace Orchestration

theorem Chain.parts_validated {c : Chain} {actions : Keyed Action} {ns : List Node} {es : List Edge}
    (built : (c.parts s actions).value = .ok ((ns, es), t)) : ∀ n ∈ ns, n.Validated := by
  induction actions generalizing s ns es with
  | nil =>
    cases built
    intro n mem
    cases mem
  | cons action rest ih =>
    obtain ⟨key, a⟩ := action
    unfold parts at built
    split at built
    · cases built
    · rename_i first u made
      simp only [Noted.bind, Noted.map] at built
      split at built
      · rename_i more
        cases built
        intro n mem
        rcases List.mem_cons.mp mem with rfl | later
        · exact Node.build_validated made
        · exact ih more n later
      · cases built

theorem Chain.toGraph_validated {c : Chain} (built : (c.toGraph s).value = .ok (g, t)) : g.Validated := by
  simp only [toGraph, Noted.bind] at built
  split at built
  · cases built
  · rename_i made
    cases built
    exact Chain.parts_validated made

theorem Orchestrator.publish_parts {o : Orchestrator} {number : Int} {catalog : Option Catalog} {now : String}
    (done : (o.publish number catalog now).value = .ok p) :
    ∃ chain, (o.relabel.toChain none).value = .ok chain ∧
      p.orchestrator = { o.relabel with
        status := .published, publishedVersion := some number, updatedAt := some now } ∧
      p.version = o.relabel.takeVersion number chain now := by
  unfold publish at done
  split at done
  · cases done
  · dsimp only at done
    split at done
    · split at done
      · cases done
      · simp only [Noted.bind] at done
        cases made : (o.relabel.toChain none).value with
        | error fault =>
          rw [made] at done
          cases done
        | ok chain =>
          rw [made] at done
          cases done
          exact ⟨chain, rfl, rfl, rfl⟩
    · cases done

namespace Service

-- The stored orchestrator under an id, as it is read.
def Loads (t : Tables) (key : String) (o : Orchestrator) : Prop :=
  ∃ row ∈ t.records, row.id = key ∧ ∃ s u, Orchestrator.decode .document row.document s = .ok (o, u)

theorem read?_parts {decode : Json → Decode α} (read : Tables.read? decode document s = some r) :
    Json.within Json.deepestStored document = true ∧ decode document s = .ok r := by
  unfold Tables.read? at read
  split at read
  · rename_i within
    refine ⟨within, ?_⟩
    cases decoded : decode document s with
    | ok _ =>
      rw [decoded] at read
      cases read
      rfl
    | error _ =>
      rw [decoded] at read
      cases read
  · cases read

theorem ofStored_parts {x : Option α} (read : Reply.ofStored x = .ok a) : x = some a := by
  cases x with
  | none => cases read
  | some _ =>
    cases read
    rfl

theorem ofStored_fails {x : Option α} (failed : Reply.ofStored x = .error reply) : reply = .failure := by
  cases x with
  | none =>
    cases failed
    rfl
  | some _ => cases failed

theorem loads_of_find {t : Tables} (found : find t key s = .ok (o, u)) : Loads t key o := by
  unfold find at found
  split at found
  · cases found
  · rename_i row present
    obtain ⟨mem, same⟩ := Tables.record?_parts present
    cases read : Tables.read? (Orchestrator.decode .document) row.document s with
    | none =>
      rw [read] at found
      cases found
    | some _ =>
      rw [read] at found
      cases found
      exact ⟨row, mem, same, s, u, (read?_parts read).2⟩

theorem find_refused {t : Tables} (refused : find t key s = .error reply) :
    (reply = .noOrchestrator key ∧ t.record? key = none) ∨ reply = .failure := by
  unfold find at refused
  split at refused
  · rename_i absent
    cases refused
    exact .inl ⟨rfl, absent⟩
  · exact .inr (ofStored_fails refused)

theorem findEditable_parts {t : Tables} (found : findEditable t key s = .ok (o, u)) :
    find t key s = .ok (o, u) ∧ o.status = .draft := by
  obtain ⟨⟨l, v⟩, first, rest⟩ := bind_parts found
  obtain ⟨_, editable, done⟩ := bind_parts rest
  cases done
  refine ⟨first, ?_⟩
  have allowed := mapError_parts editable
  unfold Orchestrator.ensureEditable at allowed
  split at allowed
  · rename_i draft
    exact draft
  · cases allowed

theorem findEditable_draft {t : Tables} (found : find t key s = .ok (o, u)) (draft : o.status = .draft) :
    findEditable t key s = .ok (o, u) := by
  simp only [findEditable, found, bind, Except.bind, Orchestrator.ensureEditable, draft]
  rfl

theorem find_congr {t u : Tables} (records : u.records = t.records) (key : String) (s : Supply) :
    find u key s = find t key s := by
  rw [find, find, Tables.record?, Tables.record?, records]

theorem name_of_find {t : Tables} (found : find t key s = .ok (o, u)) : u.name = s.name := by
  unfold find at found
  split at found
  · cases found
  · exact Orchestrator.keeps_decode _ _ _ _ _ (read?_parts (ofStored_parts found)).2

theorem TriggerBody.keeps_decode (v : Json) : Decode.Keeps (TriggerBody.decode v) :=
  Decode.keeping.record fun _ => Decode.keeping.seq (Decode.keeping.map (Decode.keeping.required Decode.keeping.text))
    (Decode.keeping.defaulted Decode.keeping.object)

-- Of the fields of an event, which are read one after the other, the second one names its execution.
theorem Event.execution_of_decode {m : Members} (named : m.find? "executionId" = some (.str key))
    (decoded : Event.decode source (.obj m) s = .ok (e, u)) : e.executionId = some key := by
  obtain ⟨_, same, all⟩ := Decode.record_parts decoded
  cases same
  obtain ⟨_, _, _, seven, _, rfl⟩ := Decode.seq_parts all
  obtain ⟨_, _, _, six, _, rfl⟩ := Decode.seq_parts seven
  obtain ⟨_, _, _, five, _, rfl⟩ := Decode.seq_parts six
  obtain ⟨_, _, _, four, _, rfl⟩ := Decode.seq_parts five
  obtain ⟨_, _, _, three, _, rfl⟩ := Decode.seq_parts four
  obtain ⟨_, _, _, two, _, rfl⟩ := Decode.seq_parts three
  obtain ⟨_, _, _, one, execution, rfl⟩ := Decode.seq_parts two
  obtain ⟨_, _, rfl⟩ := Decode.map_parts one
  cases Decode.field_parts named execution
  rfl

theorem readEvents_parts {m : Members} (done : readEvents key now s (m :: rest) = .ok (events, u)) :
    isOf (reportedExecution m) key = true ∧ ∃ e w later,
      Decode.load Event.title (Event.decode .document (.obj (filed m s.draw.1 now key))) s.draw.2 = .ok (e, w) ∧
      readEvents key now w rest = .ok (later, u) ∧ events = e :: later := by
  unfold readEvents at done
  dsimp only at done
  split at done
  · cases done
  · rename_i about
    split at done
    · cases done
    · rename_i loaded
      obtain ⟨⟨later, _⟩, more, same⟩ := bind_parts done
      cases same
      exact ⟨by simpa using about, _, _, later, loaded, more, rfl⟩

theorem readEvents_own {reported : List Members} (done : readEvents key now s reported = .ok (events, u)) :
    ∀ e ∈ events, e.executionId = some key := by
  induction reported generalizing s events with
  | nil =>
    cases done
    exact fun _ mem => absurd mem List.not_mem_nil
  | cons m rest ih =>
    obtain ⟨_, e, w, later, loaded, more, rfl⟩ := readEvents_parts done
    refine List.forall_mem_cons.mpr ⟨?_, ih more⟩
    exact Event.execution_of_decode (Keyed.find?_insert_self _ _ _) (Decode.load_parts loaded)

theorem published_of_triggerable {o : Orchestrator} (allowed : o.ensureTriggerable = .ok a) :
    o.status = .published := by
  unfold Orchestrator.ensureTriggerable at allowed
  split at allowed
  · rename_i published
    exact published
  · cases allowed

section Answers

-- What holds of every way in which a step of work may end holds of the answer.
variable {P : Reply × Tables → Prop} {t : Tables}

theorem answer_read {f : Tables → Except Reply α} {k : α → Work Reply}
    (refused : ∀ reply, f t = .error reply → P (reply, t)) (later : ∀ a, f t = .ok a → P (answer (k a) t)) :
    P (answer (.read f >>= k) t) := by
  rw [answer, InPlace.read_bind]
  cases seen : f t with
  | ok a => exact later a seen
  | error reply => exact refused reply seen

theorem answer_given {x : Except Reply α} {k : α → Work Reply} (refused : ∀ reply, x = .error reply → P (reply, t))
    (later : ∀ a, x = .ok a → P (answer (k a) t)) : P (answer (given x >>= k) t) :=
  answer_read refused later

theorem answer_read_ok {f : Tables → Except Reply α} {k : α → Work Reply} (seen : f t = .ok a) :
    answer (.read f >>= k) t = answer (k a) t := by
  rw [answer, InPlace.read_bind, seen]
  rfl

theorem answer_read_error {f : Tables → Except Reply α} {k : α → Work Reply} (seen : f t = .error reply) :
    answer (.read f >>= k) t = (reply, t) := by
  rw [answer, InPlace.read_bind, seen]

theorem answer_given_ok {x : Except Reply α} {k : α → Work Reply} (known : x = .ok a) :
    answer (given x >>= k) t = answer (k a) t := answer_read_ok known

theorem answer_given_error {x : Except Reply α} {k : α → Work Reply} (known : x = .error reply) :
    answer (given x >>= k) t = (reply, t) := answer_read_error known

theorem answer_attempt {f : Tables → Except Reply Tables} {k : Unit → Work Reply}
    (refused : ∀ reply, f t = .error reply → P (reply, t)) (later : ∀ u, f t = .ok u → P (answer (k ()) u)) :
    P (answer (.attempt f >>= k) t) := by
  rw [answer, InPlace.attempt_bind]
  cases tried : f t with
  | ok u => exact later u tried
  | error reply => exact refused reply tried

theorem answer_store {o : Orchestrator} {k : Unit → Work Reply}
    (stuck : (∀ u, t.putRecord o ≠ .ok u) → P (.failure, t))
    (later : ∀ u, t.putRecord o = .ok u → P (answer (k ()) u)) : P (answer (store o >>= k) t) := by
  refine answer_attempt (fun reply failed => ?_) fun u tried => later u (mapError_parts tried)
  cases put : t.putRecord o with
  | ok u => simp [put, Except.mapError] at failed
  | error fault =>
    simp only [put, Except.mapError, Except.error.injEq] at failed
    subst failed
    exact stuck fun u stored => by simp [put] at stored

theorem answer_storeAndReply {o : Orchestrator} (stuck : (∀ u, t.putRecord o ≠ .ok u) → P (.failure, t))
    (later : ∀ u, t.putRecord o = .ok u → P (.ok o.encode, u)) : P (answer (storeAndReply o) t) :=
  answer_store stuck later

theorem answer_storeVersion {v : Version} {k : Unit → Work Reply} (stuck : P (.failure, t))
    (later : ∀ u, t.addVersion v = some u → P (answer (k ()) u)) : P (answer (storeVersion v >>= k) t) := by
  refine answer_attempt (fun reply failed => ?_) fun u tried => ?_
  · cases added : t.addVersion v with
    | some u => simp [added] at failed
    | none =>
      simp only [added, Except.error.injEq] at failed
      exact failed ▸ stuck
  · cases added : t.addVersion v with
    | some w =>
      simp only [added, Except.ok.injEq] at tried
      exact later u (tried ▸ added)
    | none => simp [added] at tried

theorem answer_logEvents {events : List Event} {k : Unit → Work Reply} (stuck : P (.failure, t))
    (later : ∀ u, t.addEvents key owner events = some u → P (answer (k ()) u)) :
    P (answer (logEvents key owner events >>= k) t) := by
  refine answer_attempt (fun reply failed => ?_) fun u tried => ?_
  · cases added : t.addEvents key owner events with
    | some u => simp [added] at failed
    | none =>
      simp only [added, Except.error.injEq] at failed
      exact failed ▸ stuck
  · cases added : t.addEvents key owner events with
    | some w =>
      simp only [added, Except.ok.injEq] at tried
      exact later u (tried ▸ added)
    | none => simp [added] at tried

-- An execution that comes to no other status is not written.
theorem answer_advance {work : Work Reply} (later : P (answer work
      (if advanced e status now = e then t else t.putExecution (advanced e status now)))) :
    P (answer (if advanced e status now ≠ e then do
        .write (·.putExecution (advanced e status now))
        work
      else work) t) := by
  by_cases same : advanced e status now = e
  · rw [if_pos same] at later
    rwa [if_neg (not_not_intro same)]
  · rw [if_neg same] at later
    rwa [if_pos same]

end Answers

section Forwarding

theorem ofOrchestrator_slash {id : String} (last : rest.getLast? = some "") : ofOrchestrator id rest = none := by
  unfold ofOrchestrator
  split
  all_goals first | rfl | exact absurd last (by decide)

theorem ofExecution_slash {id : String} (last : rest.getLast? = some "") : ofExecution id rest = none := by
  unfold ofExecution
  split
  all_goals first | rfl | exact absurd last (by decide)

-- An id in a path is followed by what ends with no slash, unless it is empty itself.
theorem named_slash {id : String} {of : String → List String → Option Endpoint}
    (slash : ∀ {rest : List String}, rest.getLast? = some "" → of id rest = none)
    (last : (id :: rest).getLast? = some "") : (if id = "" then none else of id rest) = none := by
  split
  · rfl
  · rename_i given
    cases rest with
    | nil => exact absurd (Option.some.inj last) given
    | cons step more => exact slash last

-- No known path ends with a slash, but for the shortest one.
theorem ofSteps_slash {steps : List String} (known : ofSteps (steps ++ [""]) = some endpoint) : steps = [""] := by
  generalize whole : steps ++ [""] = all at known
  have last : all.getLast? = some "" := by rw [← whole, List.getLast?_concat]
  unfold ofSteps at known
  split at known
  case h_1 =>
    have front : steps ++ [""] = [""] ++ [""] := whole
    exact List.append_cancel_right front
  case h_3 key rest =>
    have named : (key :: rest).getLast? = some "" := last
    cases (named_slash ofOrchestrator_slash named).symm.trans known
  case h_6 key rest =>
    have named : (key :: rest).getLast? = some "" := last
    cases (named_slash ofExecution_slash named).symm.trans known
  case h_12 => cases known
  all_goals exact absurd last (by decide)

theorem endpoint?_slash {path : List Char} (known : endpoint? (path ++ ['/']) = some endpoint) : path = [] := by
  have whole : ofPath (path ++ ['/']) = some endpoint := by
    unfold endpoint? at known
    split at known
    · rename_i found
      rw [found, known]
    · rw [List.getLast?_concat] at known
      exact absurd known (by simp)
  rw [ofPath, Text.pieces_concat (by decide), List.map_append] at whole
  have first := ofSteps_slash whole
  have single : Text.pieces (· == '/') path = [[]] := by
    cases given : Text.pieces (· == '/') path with
    | nil => simp [given] at first
    | cons p more => simpa [given, Text.spellChars_eq_nil] using first
  rw [← Text.intercalate_pieces '/' path, single]
  rfl

theorem unknown_of_forwarded {r : Request} (next : r.forwarded? = some q) : endpoint? r.path = none := by
  unfold Request.forwarded? at next
  dsimp only at next
  split at next
  · rename_i allowed
    obtain ⟨shorter, sought⟩ : (r.path.reverse.dropWhile (· == '/')).reverse ≠ r.path ∧
        (endpoint? (r.path.reverse.dropWhile (· == '/')).reverse).isSome := by simpa using allowed
    by_contra known
    obtain ⟨endpoint, here⟩ := Option.ne_none_iff_exists'.mp known
    cases back : r.path.reverse with
    | nil => simp [List.reverse_eq_nil_iff.mp back] at shorter
    | cons c more =>
      have path : r.path = more.reverse ++ [c] := by rw [← List.reverse_reverse r.path, back, List.reverse_cons]
      by_cases slash : c = '/'
      · subst slash
        rw [path] at here
        rw [path, endpoint?_slash here] at sought
        exact absurd sought (by decide)
      · rw [back, List.dropWhile_cons_of_neg (by simpa using slash), List.reverse_cons] at shorter
        exact shorter path.symm
  · cases next

end Forwarding

-- What is served in the end: a request itself, or one that it is forwarded as.
inductive Serves : Request → Request → Endpoint → Prop where
  | known (here : endpoint? r.path = some endpoint) : Serves r r endpoint
  | forwarded (next : r.forwarded? = some q) (later : Serves q p endpoint) : Serves r p endpoint

theorem Serves.unique {r p q : Request} (first : Serves r p endpoint) (second : Serves r q other) :
    p = q ∧ endpoint = other := by
  induction first with
  | known here =>
    cases second with
    | known again => exact ⟨rfl, Option.some.inj (here.symm.trans again)⟩
    | forwarded next => cases here.symm.trans (unknown_of_forwarded next)
  | forwarded next _ ih =>
    cases second with
    | known again => cases again.symm.trans (unknown_of_forwarded next)
    | forwarded same later =>
      cases next.symm.trans same
      exact ih later

-- A request to delete the orchestrator with an id.
def Deletes (r : Request) (key : String) : Prop := ∃ p, Serves r p (.orchestrator key) ∧ p.method = "DELETE"

-- The draft that the body of a request asks for.
def drafted (id : String) (request : CreateBody) (now : String) : Orchestrator :=
  { Orchestrator.draft id request.name request.graph with
    description := request.description
    createdAt := some now
    updatedAt := some now }.relabel

-- The ways from one status to the next, but for publishing.
inductive Moves : Status → Status → Prop where
  | withdrawn : Moves .published .draft
  | archived (active : before ≠ .archived) : Moves before .archived

theorem Moves.not_published (moves : Moves before after) : after ≠ .published := by
  cases moves <;> decide

-- Events of an execution are added, and it may come to another status.
inductive Logs (t : Tables) (e : Execution) : Tables → Prop where
  | filed (events : List Event) (found : findExecution t key s = .ok (e, w))
    (added : t.addEvents key e.orchestratorId events = some logged) (status : Option ExecutionStatus)
    (now : String) (own : ∀ event ∈ events, event.executionId = some key) :
    Logs t e (if advanced e status now = e then logged else logged.putExecution (advanced e status now))

-- What a request may store, and the tables at that point.
inductive Writes (c : Surroundings) (t : Tables) : Tables → Orchestrator → Prop where
  | created (n : Nat) (request : CreateBody) (valid : request.graph.Validated) :
    Writes c t t (drafted (c.supply.name n) request c.now)
  | edited (found : find t key s = .ok (l, w)) (draft : l.status = .draft) (valid : graph.Validated) :
    Writes c t t (replaced l graph name description c.now)
  | moved (found : find t key s = .ok (l, w)) (moves : Moves l.status status) :
    Writes c t t { l with status := status, updatedAt := some c.now }
  | published (found : find t key s = .ok (l, w))
    (done : (l.publish (t.nextVersion key) (some c.catalog) c.now).value = .ok p)
    (added : t.addVersion p.version = some v) : Writes c t v p.orchestrator
  | refreshed (logs : Logs t e v) (found : find v e.orchestratorId s = .ok (l, w))
    (summed : summaryOf v l.id w = .ok summary) : Writes c t v (refreshed l summary)

-- What a trigger comes to: nothing, or an execution of the orchestrator that it names, under a new name.
inductive Starts (c : Surroundings) (body : Json) (t : Tables) : Tables → Prop where
  | none : Starts c body t t
  | execution (read : readBody TriggerBody.decode body c.supply = .ok (request, s))
    (found : find t request.orchestratorId s = .ok (o, w)) (published : o.status = .published) (n : Nat)
    (latest : t.latestVersion? o.id = some row)
    (stored : Tables.read? (Version.decode .document) row.document x = some (v, y)) :
    Starts c body t (t.putExecution ⟨c.supply.name n, o.id, v.number, .pending, c.now, .none⟩)

inductive Effect (c : Surroundings) (r : Request) (t : Tables) : Tables → Prop where
  | none : Effect c r t t
  | stored (writes : Writes c t v o) (stored : v.putRecord o = .ok u) : Effect c r t u
  -- A version is there to stay, even if its orchestrator could not be stored.
  | issued (found : find t key s = .ok (l, w))
    (done : (l.publish (t.nextVersion key) (some c.catalog) c.now).value = .ok p)
    (added : t.addVersion p.version = some v) (stuck : ∀ u, v.putRecord p.orchestrator ≠ .ok u) : Effect c r t v
  | deleted (asked : Deletes r key) : Effect c r t ((t.dropRecord key).dropExecutions key)
  | triggered (found : find t key s = .ok (o, w)) (published : o.status = .published) (n : Nat)
    (latest : t.latestVersion? o.id = some row)
    (stored : Tables.read? (Version.decode .document) row.document x = some (v, y)) :
    Effect c r t (t.putExecution ⟨c.supply.name n, o.id, v.number, .pending, c.now, .none⟩)
  -- The events are there to stay, even if their orchestrator could not be brought up to date.
  | logged (logs : Logs t e v) (stuck : ∀ l w summary u, find v e.orchestratorId s = .ok (l, w) →
      summaryOf v l.id w = .ok summary → v.putRecord (refreshed l summary) ≠ .ok u) : Effect c r t v

theorem Logs.records {t v : Tables} (logs : Logs t e v) : v.records = t.records ∧ v.versions = t.versions := by
  obtain ⟨events, _, added, status, now⟩ := logs
  obtain ⟨_, rfl⟩ := Tables.addEvents_parts added
  split <;> exact ⟨rfl, rfl⟩

section Handlers

variable {c : Surroundings} {r : Request} {t : Tables}

-- What a request leaves if it is answered like this.
def Leaves (c : Surroundings) (r : Request) (t : Tables) (result : Reply × Tables) : Prop := Effect c r t result.2

theorem create_effect (body : Json) : Leaves c r t (create c body t) := by
  refine answer_given (fun _ _ => .none) fun (request, s) read => ?_
  have decoded := read_of_readBody read
  have name : s.name = c.supply.name := CreateBody.keeps_decode body _ _ _ decoded
  obtain ⟨_, _, members⟩ := Decode.record_parts decoded
  obtain ⟨_, _, _, first, _, rfl⟩ := Decode.seq_parts members
  obtain ⟨_, _, _, second, _, same⟩ := Decode.seq_parts first
  obtain ⟨graph, nodes, rfl⟩ := Decode.map_parts second
  subst same
  refine answer_storeAndReply (fun _ => .none) fun u stored => ?_
  change t.putRecord (drafted (s.name _) _ c.now) = .ok u at stored
  rw [name] at stored
  exact .stored (.created _ _ (Graph.readMembers_validated nodes)) stored

theorem save_effect (key : String) (body : Json) : Leaves c r t (save c key body t) := by
  refine answer_given (fun _ _ => .none) fun (request, s) read => ?_
  refine answer_read (fun _ _ => .none) fun (o, _) found => ?_
  obtain ⟨found, draft⟩ := findEditable_parts found
  obtain ⟨_, _, members⟩ := Decode.record_parts (read_of_readBody read)
  obtain ⟨_, _, _, first, _, rfl⟩ := Decode.seq_parts members
  obtain ⟨_, _, _, second, _, same⟩ := Decode.seq_parts first
  obtain ⟨graph, nodes, rfl⟩ := Decode.map_parts second
  subst same
  exact answer_storeAndReply (fun _ => .none) fun u stored =>
    .stored (.edited found draft (Graph.readMembers_validated nodes)) stored

theorem importChain_effect (key : String) (body : Json) : Leaves c r t (importChain c key body t) := by
  refine answer_given (fun _ _ => .none) fun (chain, s) _ => ?_
  refine answer_read (fun _ _ => .none) fun (o, s) found => ?_
  refine answer_given (fun _ _ => .none) fun (graph, _) built => ?_
  obtain ⟨found, draft⟩ := findEditable_parts found
  exact answer_storeAndReply (fun _ => .none) fun u stored =>
    .stored (.edited found draft (Chain.toGraph_validated (mapError_parts built))) stored

theorem publish_effect (key : String) : Leaves c r t (publish c key t) := by
  refine answer_read (fun _ _ => .none) fun (o, s) found => ?_
  refine answer_read (fun _ _ => .none) fun number next => ?_
  cases next
  refine answer_given (fun _ _ => .none) fun p made => ?_
  have made := mapError_parts made
  refine answer_storeVersion .none fun v added => ?_
  exact answer_store (fun stuck => .issued found made added stuck) fun u stored =>
    .stored (.published found made added) stored

theorem unpublish_effect (key : String) : Leaves c r t (unpublish c key t) := by
  refine answer_read (fun _ _ => .none) fun (o, s) found => ?_
  refine answer_given (fun _ _ => .none) fun p made => ?_
  have made := mapError_parts made
  refine answer_storeAndReply (fun _ => .none) fun u stored => ?_
  unfold Orchestrator.unpublish at made
  split at made
  · rename_i published
    cases made
    exact .stored (.moved found (published ▸ .withdrawn)) stored
  · cases made

theorem archive_effect (key : String) : Leaves c r t (archive c key t) := by
  refine answer_read (fun _ _ => .none) fun (o, s) found => ?_
  refine answer_given (fun _ _ => .none) fun p made => ?_
  have made := mapError_parts made
  refine answer_storeAndReply (fun _ => .none) fun u stored => ?_
  unfold Orchestrator.archive at made
  split at made
  · cases made
  · rename_i active
    cases made
    exact .stored (.moved found (.archived active)) stored

theorem delete_effect {key : String} (asked : Deletes r key) : Leaves c r t (delete c key t) :=
  answer_read (fun _ _ => .none) fun _ _ => .deleted asked

-- The id of the execution is drawn after everything was read.
theorem trigger_starts (c : Surroundings) (body : Json) (t : Tables) : Starts c body t (trigger c body t).2 := by
  refine answer_given (P := fun result => Starts c body t result.2) (fun _ _ => .none) fun (request, s) read => ?_
  refine answer_read (P := fun result => Starts c body t result.2) (fun _ _ => .none) fun (o, w) found => ?_
  refine answer_given (P := fun result => Starts c body t result.2) (fun _ _ => .none) fun _ allowed => ?_
  refine answer_read (P := fun result => Starts c body t result.2) (fun _ _ => .none) fun (version, x) stored => ?_
  unfold latest at stored
  split at stored
  · cases stored
  · rename_i latest
    have first : s.name = c.supply.name := TriggerBody.keeps_decode body _ _ _ (read_of_readBody read)
    have second : w.name = s.name := name_of_find found
    have third : x.name = w.name := Version.keeps_decode _ _ _ _ _ (read?_parts (ofStored_parts stored)).2
    have name : x.draw.1 = c.supply.name (x.drawn + 1) := congrFun (third.trans (second.trans first)) _
    show Starts c body t (t.putExecution ⟨x.draw.1, o.id, version.number, .pending, c.now, none⟩)
    rw [name]
    exact .execution read found (published_of_triggerable (mapError_parts allowed)) _ latest (ofStored_parts stored)

theorem trigger_effect (body : Json) : Leaves c r t (trigger c body t) := by
  have starts := trigger_starts c body t
  unfold Leaves
  generalize (trigger c body t).2 = u at starts ⊢
  cases starts with
  | none => exact .none
  | execution _ found published n latest stored => exact .triggered found published n latest stored

theorem refreshHealth_effect {v : Tables} (logs : Logs t e v) (executionId : String) (inserted : Nat) (s : Supply) :
    Leaves c r t (answer (refreshHealth executionId e.orchestratorId inserted s) v) := by
  refine answer_read (fun _ failed => nomatch failed) fun row? seen => ?_
  cases seen
  split
  · rename_i absent
    show Effect c r t v
    refine .logged (s := s) logs fun l w summary u found => ?_
    simp only [find, absent] at found
    cases found
  · refine answer_read (fun reply failed => ?_) fun (l, w) found => ?_
    · refine .logged (s := s) logs fun l w summary u found => ?_
      cases failed.symm.trans found
    refine answer_read (fun reply failed => ?_) fun summary summed => ?_
    · refine .logged (s := s) logs fun l' w' summary u again summed => ?_
      cases found.symm.trans again
      cases failed.symm.trans summed
    refine answer_store (fun stuck => ?_) fun u stored => .stored (.refreshed logs found summed) stored
    refine .logged (s := s) logs fun l' w' summary' u again twice stored => ?_
    cases found.symm.trans again
    cases summed.symm.trans twice
    exact stuck u stored

theorem ingest_effect (key : String) (body : Json) : Leaves c r t (ingest c key body t) := by
  refine answer_given (fun _ _ => .none) fun (request, s) _ => ?_
  refine answer_read (fun _ _ => .none) fun (e, s) found => ?_
  refine answer_given (fun _ _ => .none) fun (events, s) read => ?_
  refine answer_logEvents .none fun logged added => ?_
  have logs := Logs.filed events found added request.status c.now (readEvents_own read)
  exact answer_advance (refreshHealth_effect logs key events.length s)

theorem serve_effect {p : Request} (serves : Serves r p endpoint) : Leaves c r t (serve c p endpoint t) := by
  unfold serve write?
  split
  · rename_i done served
    split at served
    all_goals cases served
    · exact create_effect _
    · exact save_effect _ _
    · exact delete_effect ⟨p, serves, ‹_›⟩
    · exact importChain_effect _ _
    · exact publish_effect _
    · exact unpublish_effect _
    · exact archive_effect _
    · exact trigger_effect _
    · exact ingest_effect _ _
  · split
    · exact .none
    · exact .none

theorem handle_parts (c : Surroundings) (r : Request) (t : Tables) :
    handle c r t = (.noRoute, t) ∨ ∃ p endpoint, Serves r p endpoint ∧ handle c r t = serve c p endpoint t := by
  unfold handle
  generalize r.path.length + 1 = times
  induction times generalizing r with
  | zero => exact .inl rfl
  | succ times ih =>
    unfold handleWithin
    split
    · rename_i endpoint here
      exact .inr ⟨r, endpoint, .known here, rfl⟩
    · split
      · rename_i q next
        rcases ih q with unknown | ⟨p, endpoint, later, same⟩
        · exact .inl unknown
        · exact .inr ⟨p, endpoint, .forwarded next later, same⟩
      · exact .inl rfl

theorem handle_effect (c : Surroundings) (r : Request) (t : Tables) : Effect c r t (handle c r t).2 := by
  rcases handle_parts c r t with unknown | ⟨p, endpoint, serves, same⟩
  · rw [unknown]
    exact .none
  · rw [same]
    exact serve_effect serves

end Handlers

theorem handle_known {r : Request} (known : endpoint? r.path = some endpoint) (c : Surroundings) (t : Tables) :
    handle c r t = serve c r endpoint t := by
  simp only [handle, handleWithin, known]

end Service
end Orchestration
