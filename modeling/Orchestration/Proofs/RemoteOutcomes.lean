import Orchestration.Proofs.MalformedDocuments
import Orchestration.Proofs.RemoteSaves

-- A store has an error of its own, for a server that is not reached, does not know an orchestrator or refuses what is
-- asked. Whatever else goes wrong comes through as the error of the part that stumbled over it.

namespace Orchestration.RemoteStore

-- Whether a fault is the error of a store. Any other comes from a part that the store uses.
def Fault.isOwn : Fault → Bool
  | .unreached _ _ | .loadRefused _ _ | .saveRefused _ _ | .notFound _ | .conflict _ => true
  | .conflictShape | .unreadable _ | .rejected _ | .notDumped _ | .noAddress _ | .notSent _ | .relative _ => false

-- The request is made, and the reply to it is read.
def load (base key : String) (reply : Reply) (s : Supply) : Except Fault (Option Orchestrator) := do
  readLoad base key (← loadRequest base key) reply s

def save (base : String) (o : Orchestrator) (reply : Reply) (s : Supply) : Except Fault Orchestrator := do
  readSave base o.id (← saveRequest base o) reply s

inductive Ends (Done : α → Prop) (Own Foreign : Fault → Prop) : Except Fault α → Prop where
  | done (came : Done a) : Ends Done Own Foreign (.ok a)
  | own (cause : Own fault) : Ends Done Own Foreign (.error fault)
  | foreign (cause : Foreign fault) : Ends Done Own Foreign (.error fault)

-- When there is which result, which error of the store, and which other error.
structure Outcomes (result : Except Fault α) (Done : α → Prop) (Own Foreign : Fault → Prop) : Prop where
  done : ∀ a, result = .ok a ↔ Done a
  own : ∀ fault, result = .error fault ∧ fault.isOwn = true ↔ Own fault
  foreign : ∀ fault, result = .error fault ∧ fault.isOwn = false ↔ Foreign fault

def OwnOnly (result : Except Fault α) : Prop := ∀ fault, result = .error fault → fault.isOwn = true

section Outcomes

variable {result : Except Fault α} {Done : α → Prop} {Own Foreign : Fault → Prop}

theorem outcomes_of_ends (ends : Ends Done Own Foreign result) (only : ∀ r, Ends Done Own Foreign r → result = r)
    (own : ∀ fault, Own fault → fault.isOwn = true) (foreign : ∀ fault, Foreign fault → fault.isOwn = false) :
    Outcomes result Done Own Foreign where
  done a := by
    refine ⟨fun done => ?_, fun came => only _ (.done came)⟩
    subst done
    cases ends with
    | done came => exact came
  own fault := by
    refine ⟨?_, fun cause => ⟨only _ (.own cause), own fault cause⟩⟩
    rintro ⟨rfl, kept⟩
    cases ends with
    | own cause => exact cause
    | foreign cause => exact absurd (kept.symm.trans (foreign fault cause)) nofun
  foreign fault := by
    refine ⟨?_, fun cause => ⟨only _ (.foreign cause), foreign fault cause⟩⟩
    rintro ⟨rfl, escaped⟩
    cases ends with
    | own cause => exact absurd ((own fault cause).symm.trans escaped) nofun
    | foreign cause => exact cause

theorem Outcomes.ownOnly_iff (outcomes : Outcomes result Done Own Foreign) : OwnOnly result ↔ ∀ fault, ¬ Foreign fault := by
  constructor
  · intro owned fault cause
    obtain ⟨failed, escaped⟩ := (outcomes.foreign fault).mpr cause
    exact absurd ((owned fault failed).symm.trans escaped) nofun
  · intro none fault failed
    cases kind : fault.isOwn with
    | true => rfl
    | false => exact absurd ((outcomes.foreign fault).mp ⟨failed, kind⟩) (none fault)

end Outcomes

def Answered (request : Except Fault Request) (reply : Reply) (status : Nat) (body : List UInt8) : Prop :=
  ∃ q, request = .ok q ∧ q.address.isAbsolute = true ∧ reply = .answered status body

def Unreached (request : Except Fault Request) (reply : Reply) (reason : String) : Prop :=
  ∃ q, request = .ok q ∧ reply = .unreached reason

-- Why nothing is heard, other than that no server is reached.
inductive Unheard (request : Except Fault Request) (reply : Reply) : Fault → Prop where
  | unmade (failed : request = .error fault) : Unheard request reply fault
  | relative (made : request = .ok q) (nowhere : q.address.isAbsolute = false) (answer : reply = .answered status body) :
    Unheard request reply (.relative q.url)

-- What loading and saving have in common.
def ask (base : String) (request : Except Fault Request) (reply : Reply) (read : Nat → List UInt8 → Except Fault α) :
    Except Fault α := do
  let (status, body) ← received base (← request) reply
  read status body

theorem exchange_cases (request : Except Fault Request) (reply : Reply) :
    (∃ status body, Answered request reply status body) ∨ (∃ reason, Unreached request reply reason) ∨
      ∃ fault, Unheard request reply fault := by
  cases request with
  | error fault => exact .inr (.inr ⟨fault, .unmade rfl⟩)
  | ok q =>
    cases reply with
    | unreached reason => exact .inr (.inl ⟨reason, q, rfl, rfl⟩)
    | answered status body =>
      cases absolute : q.address.isAbsolute with
      | true => exact .inl ⟨status, body, q, rfl, absolute, rfl⟩
      | false => exact .inr (.inr ⟨_, .relative rfl absolute rfl⟩)

section Asking

variable {read : Nat → List UInt8 → Except Fault α}

theorem ask_answered (answered : Answered request reply status body) : ask base request reply read = read status body := by
  obtain ⟨q, rfl, absolute, rfl⟩ := answered
  have through : received base q (.answered status body) = .ok (status, body) := if_pos absolute
  simp only [ask, bind, Except.bind, through]

theorem ask_unreached (unreached : Unreached request reply reason) :
    ask base request reply read = .error (.unreached (server base) reason) := by
  obtain ⟨q, rfl, rfl⟩ := unreached
  rfl

theorem ask_unheard (unheard : Unheard request reply fault) : ask base request reply read = .error fault := by
  cases unheard with
  | unmade failed =>
    subst failed
    rfl
  | @relative q status body made nowhere answer =>
    subst made answer
    have stopped : received base q (.answered status body) = .error (.relative q.url) := if_neg (by simp [nowhere])
    simp only [ask, bind, Except.bind, stopped]

theorem ask_ends (answer : ∀ status body, Answered request reply status body → Ends Done Own Foreign (read status body))
    (silent : ∀ reason, Unreached request reply reason → Own (.unreached (server base) reason))
    (unheard : ∀ fault, Unheard request reply fault → Foreign fault) :
    Ends Done Own Foreign (ask base request reply read) := by
  rcases exchange_cases request reply with ⟨status, body, answered⟩ | ⟨reason, unreached⟩ | ⟨fault, lost⟩
  · rw [ask_answered answered]
    exact answer status body answered
  · rw [ask_unreached unreached]
    exact .own (silent reason unreached)
  · rw [ask_unheard lost]
    exact .foreign (unheard fault lost)

end Asking

def Shows (body : List UInt8) (s : Supply) (o : Orchestrator) : Prop :=
  ∃ document t, Json.parseBody body = .ok document ∧ Orchestrator.decode .document document s = .ok (o, t)

-- Why a body shows no orchestrator: it is no document, there are complaints about it, or older cases break it off.
inductive Unshown (body : List UInt8) (s : Supply) : Fault → Prop where
  | garbled (read : Json.parseBody body = .error fault) : Unshown body s (.unreadable fault)
  | misshapen (read : Json.parseBody body = .ok document)
    (refused : Orchestrator.decode .document document s = .error (.invalid complaints)) :
    Unshown body s (.rejected ⟨Orchestrator.title, .invalid complaints⟩)
  | malformed (read : Json.parseBody body = .ok document) (cases : Graph.hasMalformedCases document = true) :
    Unshown body s (.rejected ⟨Orchestrator.title, .malformedCases⟩)

theorem shown_or_unshown (body : List UInt8) (s : Supply) :
    (∃ o, Shows body s o) ∨ ∃ fault, Unshown body s fault := by
  cases read : Json.parseBody body with
  | error fault => exact .inr ⟨_, .garbled read⟩
  | ok document =>
    cases done : Orchestrator.decode .document document s with
    | ok r => exact .inl ⟨r.1, document, r.2, read, done⟩
    | error refusal =>
      cases refusal with
      | invalid complaints => exact .inr ⟨_, .misshapen read done⟩
      | malformedCases => exact .inr ⟨_, .malformed read ((Orchestrator.breaks_decode .document document s).mp done)⟩

theorem Shows.read (shows : Shows body s o) : ∃ t, readOrchestrator body s = .ok (o, t) := by
  obtain ⟨document, t, read, done⟩ := shows
  refine ⟨t, ?_⟩
  simp only [readOrchestrator, read, Decode.load, done]
  rfl

theorem Unshown.read (unshown : Unshown body s fault) : readOrchestrator body s = .error fault := by
  cases unshown with
  | garbled read => simp only [readOrchestrator, read]
  | misshapen read refused =>
    simp only [readOrchestrator, read, Decode.load, refused]
    rfl
  | malformed read cases =>
    have broken := (Orchestrator.breaks_decode .document _ s).mpr cases
    simp only [readOrchestrator, read, Decode.load, broken]
    rfl

theorem read_ends {f : Orchestrator → α} (shown : ∀ o, Shows body s o → Done (f o))
    (unshown : ∀ fault, Unshown body s fault → Foreign fault) :
    Ends Done Own Foreign (do return f (← readOrchestrator body s).1) := by
  rcases shown_or_unshown body s with ⟨o, shows⟩ | ⟨fault, lacks⟩
  · obtain ⟨t, read⟩ := shows.read
    rw [read]
    exact .done (shown o shows)
  · rw [lacks.read]
    exact .foreign (unshown fault lacks)

theorem Unshown.foreign (unshown : Unshown body s fault) : fault.isOwn = false := by
  cases unshown <;> rfl

-- No address is made of the server and the id.
def Lost (base key : String) (fault : Fault) : Prop :=
  ∃ unread, Web.Address.nowhere.destination (server base ++ "/api/orchestrators/" ++ key).toList = .error unread ∧
    fault = .noAddress unread

theorem address_error : address base key = .error fault ↔ Lost base key fault := by
  unfold address Lost
  cases Web.Address.nowhere.destination (server base ++ "/api/orchestrators/" ++ key).toList with
  | ok a => exact ⟨nofun, nofun⟩
  | error unread =>
    constructor
    · rintro ⟨⟩
      exact ⟨unread, rfl, rfl⟩
    · rintro ⟨_, ⟨⟩, rfl⟩
      rfl

theorem loadRequest_error : loadRequest base key = .error fault ↔ Lost base key fault := by
  rw [← address_error]
  constructor
  · intro failed
    exact (bind_fails failed).resolve_right (by rintro ⟨_, _, ⟨⟩⟩)
  · intro failed
    rw [loadRequest, failed]
    rfl

inductive Finds (base key : String) (reply : Reply) (s : Supply) : Option Orchestrator → Prop where
  | found (answered : Answered (loadRequest base key) reply status body) (success : isSuccess status = true)
    (shows : Shows body s o) : Finds base key reply s (some o)
  | absent (answered : Answered (loadRequest base key) reply 404 body) : Finds base key reply s none

inductive LoadRefused (base key : String) (reply : Reply) : Fault → Prop where
  | unreached (silent : Unreached (loadRequest base key) reply reason) :
    LoadRefused base key reply (.unreached (server base) reason)
  | refused (answered : Answered (loadRequest base key) reply status body) (known : status ≠ 404)
    (failed : isSuccess status = false) : LoadRefused base key reply (.loadRefused key status)

inductive LoadEscapes (base key : String) (reply : Reply) (s : Supply) : Fault → Prop where
  | unheard (unheard : Unheard (loadRequest base key) reply fault) : LoadEscapes base key reply s fault
  | unshown (answered : Answered (loadRequest base key) reply status body) (success : isSuccess status = true)
    (unshown : Unshown body s fault) : LoadEscapes base key reply s fault

theorem LoadRefused.own (refused : LoadRefused base key reply fault) : fault.isOwn = true := by
  cases refused <;> rfl

theorem LoadEscapes.foreign (escapes : LoadEscapes base key reply s fault) : fault.isOwn = false := by
  cases escapes with
  | unheard unheard =>
    cases unheard with
    | unmade failed =>
      obtain ⟨_, _, rfl⟩ := loadRequest_error.mp failed
      rfl
    | relative _ _ _ => rfl
  | unshown _ _ unshown => exact unshown.foreign

theorem known_of_success (success : isSuccess status = true) : status ≠ 404 ∧ status ≠ 409 := by
  simp only [isSuccess, Bool.and_eq_true, decide_eq_true_eq] at success
  omega

theorem load_eq : load base key reply s = ask base (loadRequest base key) reply fun status body =>
    if status = 404 then .ok none
    else if isSuccess status then do return some (← readOrchestrator body s).1
    else .error (.loadRefused key status) := rfl

theorem load_ends (base key : String) (reply : Reply) (s : Supply) : Ends (Finds base key reply s)
    (LoadRefused base key reply) (LoadEscapes base key reply s) (load base key reply s) := by
  rw [load_eq]
  refine ask_ends (fun status body answered => ?_) (fun _ => .unreached) fun _ => .unheard
  split
  · subst status
    exact .done (.absent answered)
  rename_i known
  cases success : isSuccess status with
  | false => exact .own (.refused answered known success)
  | true => exact read_ends (fun _ => .found answered success) fun _ => .unshown answered success

theorem load_of_ends (ends : Ends (Finds base key reply s) (LoadRefused base key reply) (LoadEscapes base key reply s)
    result) : load base key reply s = result := by
  rw [load_eq]
  cases ends with
  | done came =>
    cases came with
    | found answered success shows =>
      obtain ⟨t, read⟩ := shows.read
      rw [ask_answered answered, if_neg (known_of_success success).1, if_pos success, read]
      rfl
    | absent answered => rw [ask_answered answered, if_pos rfl]
  | own cause =>
    cases cause with
    | unreached silent => exact ask_unreached silent
    | refused answered known failed => rw [ask_answered answered, if_neg known, if_neg (by simp [failed])]
  | foreign cause =>
    cases cause with
    | unheard unheard => exact ask_unheard unheard
    | unshown answered success unshown =>
      rw [ask_answered answered, if_neg (known_of_success success).1, if_pos success, unshown.read]
      rfl

theorem load_outcomes (base key : String) (reply : Reply) (s : Supply) : Outcomes (load base key reply s)
    (Finds base key reply s) (LoadRefused base key reply) (LoadEscapes base key reply s) :=
  outcomes_of_ends (load_ends base key reply s) (fun _ => load_of_ends) (fun _ => LoadRefused.own)
    fun _ => LoadEscapes.foreign

-- Why no request is made to save an orchestrator: a node cannot be handed out, there is no address, or the body cannot
-- be sent.
inductive Unmade (base : String) (o : Orchestrator) : Fault → Prop where
  | notDumped (stuck : o.dumpFault? = some fault) : Unmade base o (.notDumped fault)
  | lost (dumped : o.dumpFault? = none) (lost : Lost base o.id fault) : Unmade base o fault
  | notSent (dumped : o.dumpFault? = none) (lands : address base o.id = .ok a)
    (stuck : (saveBody o).sendFault? = some fault) : Unmade base o (.notSent fault)

theorem Unmade.foreign (unmade : Unmade base o fault) : fault.isOwn = false := by
  cases unmade with
  | notDumped _ | notSent _ _ _ => rfl
  | lost _ lost =>
    obtain ⟨_, _, rfl⟩ := lost
    rfl

theorem saveRequest_error : saveRequest base o = .error fault ↔ Unmade base o fault := by
  constructor
  · intro failed
    unfold saveRequest at failed
    cases dumped : o.dumpFault? with
    | some stuck =>
      rw [dumped] at failed
      cases failed
      exact .notDumped dumped
    | none =>
      simp only [dumped] at failed
      rcases bind_fails failed with nowhere | ⟨a, lands, failed⟩
      · exact .lost dumped (address_error.mp nowhere)
      cases sent : (saveBody o).sendFault? with
      | some stuck =>
        simp only [sent] at failed
        cases failed
        exact .notSent dumped lands sent
      | none =>
        simp only [sent] at failed
        cases failed
  · intro unmade
    cases unmade with
    | notDumped stuck => simp only [saveRequest, stuck]
    | lost dumped lost => simp only [saveRequest, dumped, address_error.mpr lost, bind, Except.bind]
    | notSent dumped lands stuck => simp only [saveRequest, dumped, lands, stuck, bind, Except.bind]

inductive Keeps (base : String) (o : Orchestrator) (reply : Reply) (s : Supply) : Orchestrator → Prop where
  | saved (answered : Answered (saveRequest base o) reply status body) (success : isSuccess status = true)
    (shows : Shows body s p) : Keeps base o reply s p

inductive SaveRefused (base : String) (o : Orchestrator) (reply : Reply) : Fault → Prop where
  | unreached (silent : Unreached (saveRequest base o) reply reason) :
    SaveRefused base o reply (.unreached (server base) reason)
  | unknown (answered : Answered (saveRequest base o) reply 404 body) : SaveRefused base o reply (.notFound o.id)
  | conflict (answered : Answered (saveRequest base o) reply 409 body) (read : Json.parseBody body = .ok document)
    (object : document.members? = some m) :
    SaveRefused base o reply (.conflict ((m.find? "detail").getD unexplained))
  | refused (answered : Answered (saveRequest base o) reply status body) (known : status ≠ 404) (free : status ≠ 409)
    (failed : isSuccess status = false) : SaveRefused base o reply (.saveRefused o.id status)

inductive SaveEscapes (base : String) (o : Orchestrator) (reply : Reply) (s : Supply) : Fault → Prop where
  | unheard (unheard : Unheard (saveRequest base o) reply fault) : SaveEscapes base o reply s fault
  | garbled (answered : Answered (saveRequest base o) reply 409 body) (read : Json.parseBody body = .error fault) :
    SaveEscapes base o reply s (.unreadable fault)
  | shapeless (answered : Answered (saveRequest base o) reply 409 body) (read : Json.parseBody body = .ok document)
    (other : document.members? = none) : SaveEscapes base o reply s .conflictShape
  | unshown (answered : Answered (saveRequest base o) reply status body) (success : isSuccess status = true)
    (unshown : Unshown body s fault) : SaveEscapes base o reply s fault

theorem SaveRefused.own (refused : SaveRefused base o reply fault) : fault.isOwn = true := by
  cases refused <;> rfl

theorem SaveEscapes.foreign (escapes : SaveEscapes base o reply s fault) : fault.isOwn = false := by
  cases escapes with
  | unheard unheard =>
    cases unheard with
    | unmade failed => exact (saveRequest_error.mp failed).foreign
    | relative _ _ _ => rfl
  | garbled _ _ | shapeless _ _ _ => rfl
  | unshown _ _ unshown => exact unshown.foreign

theorem save_eq : save base o reply s = ask base (saveRequest base o) reply fun status body =>
    if status = 404 then .error (.notFound o.id)
    else if status = 409 then .error (readConflict body)
    else if isSuccess status then do return (← readOrchestrator body s).1
    else .error (.saveRefused o.id status) := rfl

theorem save_ends (base : String) (o : Orchestrator) (reply : Reply) (s : Supply) : Ends (Keeps base o reply s)
    (SaveRefused base o reply) (SaveEscapes base o reply s) (save base o reply s) := by
  rw [save_eq]
  refine ask_ends (fun status body answered => ?_) (fun _ => .unreached) fun _ => .unheard
  split
  · subst status
    exact .own (.unknown answered)
  rename_i known
  split
  · subst status
    cases read : Json.parseBody body with
    | error fault =>
      rw [readConflict, read]
      exact .foreign (.garbled answered read)
    | ok document =>
      cases object : document.members? with
      | some m =>
        simp only [readConflict, read, object]
        exact .own (.conflict answered read object)
      | none =>
        simp only [readConflict, read, object]
        exact .foreign (.shapeless answered read object)
  rename_i free
  cases success : isSuccess status with
  | false => exact .own (.refused answered known free success)
  | true => exact read_ends (f := id) (fun _ => .saved answered success) fun _ => .unshown answered success

theorem save_of_ends (ends : Ends (Keeps base o reply s) (SaveRefused base o reply) (SaveEscapes base o reply s) result) :
    save base o reply s = result := by
  rw [save_eq]
  cases ends with
  | done came =>
    obtain ⟨answered, success, shows⟩ := came
    obtain ⟨known, free⟩ := known_of_success success
    obtain ⟨t, read⟩ := shows.read
    rw [ask_answered answered, if_neg known, if_neg free, if_pos success, read]
    rfl
  | own cause =>
    cases cause with
    | unreached silent => exact ask_unreached silent
    | unknown answered => rw [ask_answered answered, if_pos rfl]
    | conflict answered read object =>
      rw [ask_answered answered]
      simp [readConflict, read, object]
    | refused answered known free failed =>
      rw [ask_answered answered, if_neg known, if_neg free, if_neg (by simp [failed])]
  | foreign cause =>
    cases cause with
    | unheard unheard => exact ask_unheard unheard
    | garbled answered read =>
      rw [ask_answered answered]
      simp [readConflict, read]
    | shapeless answered read other =>
      rw [ask_answered answered]
      simp [readConflict, read, other]
    | unshown answered success unshown =>
      obtain ⟨known, free⟩ := known_of_success success
      rw [ask_answered answered, if_neg known, if_neg free, if_pos success, unshown.read]
      rfl

theorem save_outcomes (base : String) (o : Orchestrator) (reply : Reply) (s : Supply) : Outcomes (save base o reply s)
    (Keeps base o reply s) (SaveRefused base o reply) (SaveEscapes base o reply s) :=
  outcomes_of_ends (save_ends base o reply s) (fun _ => save_of_ends) (fun _ => SaveRefused.own)
    fun _ => SaveEscapes.foreign

-- A success that comes with no document.
def garbled : List UInt8 := "not json".toUTF8.toList

end Orchestration.RemoteStore
