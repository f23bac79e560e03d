import Orchestration.CommandLine.Command
import Orchestration.Json.Body
import Orchestration.Proofs.DocumentText
import Orchestration.Proofs.PublishedVersions
import Orchestration.Proofs.ReportedEvents

-- Whatever a document holds, reading it gives a value or complaints, with one exception: older cases of a conditional
-- step that are no object break the reading off.

namespace Orchestration

namespace Conditional

-- Older cases that are given, without rules beside them, and are no object.
def hasMalformedCases (m : Members) : Bool :=
  let cases := (m.find? "cases").getD .null
  cases.isGiven && !((m.find? "rules").getD .null).isGiven && cases.members?.isNone

end Conditional

-- Whether a value is a certain tag.
def Json.isTag (tag : String) : Json → Bool
  | .str s => s == tag
  | _ => false

-- A conditional step with such cases in its data, as a document may hold it.
def Node.hasMalformedCases (v : Json) : Bool :=
  match v.members? with
  | none => false
  | some m => (storedKind m).any (Json.isTag Kind.conditional.tag) &&
      ((m.find? "data").bind Json.members?).any Conditional.hasMalformedCases

-- A document with such a step among its nodes.
def Graph.hasMalformedCases (v : Json) : Bool :=
  match v.members?.bind (·.find? "nodes") with
  | some (.arr vs) => vs.any Node.hasMalformedCases
  | _ => false

theorem Refusal.under_malformed {place : Place} {r : Refusal} : r.under place = .malformedCases ↔ r = .malformedCases := by
  cases r with
  | invalid _ => exact ⟨nofun, nofun⟩
  | malformedCases => exact Iff.rfl

theorem Refusal.both_malformed {r r' : Refusal} :
    r.both r' = .malformedCases ↔ r = .malformedCases ∨ r' = .malformedCases := by
  cases r with
  | malformedCases => simp [both]
  | invalid _ => cases r' <;> simp [both]

namespace Decode

-- A decoder is broken off exactly if a condition holds, whatever names are at hand.
def Breaks (d : Decode α) (P : Prop) : Prop := ∀ s, d s = .error .malformedCases ↔ P

theorem Breaks.congr {d : Decode α} (breaks : Breaks d P) (same : P ↔ Q) : Breaks d Q :=
  fun s => (breaks s).trans same

theorem breaks_map {f : α → β} {d : Decode α} (breaks : Breaks d P) : Breaks (f <$> d) P := by
  intro s
  rw [← breaks s]
  simp only [Functor.map, map]
  cases d s <;> simp

-- The second part is looked at whatever came of the first.
theorem breaks_seq {f : Decode (α → β)} {d : Decode α} (first : Breaks f P) (second : Breaks d Q) :
    Breaks (f <*> d) (P ∨ Q) := by
  intro s
  simp only [Seq.seq, both]
  cases before : f s with
  | ok r =>
    have left : ¬ P := by simp [← first s, before]
    rw [or_iff_right left, ← second r.2]
    dsimp only
    cases d r.2 <;> simp
  | error r =>
    have left : r = .malformedCases ↔ P := by simp [← first s, before]
    rw [← left, ← second s]
    dsimp only
    cases d s with
    | ok _ => simp
    | error r' => simp [Refusal.both_malformed]

theorem breaks_under {place : Place} {d : Decode α} (breaks : Breaks d P) : Breaks (under place d) P := by
  intro s
  rw [← breaks s]
  simp only [under]
  cases d s <;> simp [Refusal.under_malformed]

def Unbroken (d : Decode α) : Prop := Breaks d False

theorem Unbroken.breaks {d : Decode α} (whole : Unbroken d) (never : ¬ P) : Breaks d P :=
  whole.congr ⟨False.elim, never⟩

theorem unbroken : Inherited Unbroken where
  pure _ := fun _ => ⟨nofun, nofun⟩
  complain _ := fun _ => ⟨nofun, nofun⟩
  fresh := fun _ => ⟨nofun, nofun⟩
  map := breaks_map
  seq first second := (breaks_seq first second).congr (or_self_iff)
  under := breaks_under

-- Of two parts only one can be broken off.
theorem breaks_first {f : Decode (α → β)} {d : Decode α} (first : Breaks f P) (second : Unbroken d) :
    Breaks (f <*> d) P :=
  (breaks_seq first second).congr (or_iff_left id)

theorem breaks_last {f : Decode (α → β)} {d : Decode α} (first : Unbroken f) (second : Breaks d P) :
    Breaks (f <*> d) P :=
  (breaks_seq first second).congr (or_iff_right id)

theorem breaks_field {m : Members} {f : FieldName} {absent : Decode α} {read : Json → Decode α} {R : Json → Prop}
    (missing : Unbroken absent) (given : ∀ v, Breaks (read v) (R v)) :
    Breaks (field m f absent read) (f.Holds m False R) := by
  cases stands : f.given? m with
  | some kv =>
    simp only [field, FieldName.Holds, stands]
    exact breaks_under (given kv.2)
  | none =>
    simp only [field, FieldName.Holds, stands]
    exact missing

theorem breaks_items {read : Json → Decode α} {shape : Json → Json} {R : Json → Prop}
    (given : ∀ v, Breaks (read (shape v)) (R v)) (start : Nat) (vs : List Json) :
    Breaks (items read start (vs.map shape)) (∃ v ∈ vs, R v) := by
  induction vs generalizing start with
  | nil => exact (unbroken.pure []).congr (by simp)
  | cons v rest ih =>
    exact (breaks_seq (breaks_map (breaks_under (given v))) (ih (start + 1))).congr (by simp)

end Decode

section Reading

open Decode

theorem Conditional.migrate_cases (m : Members) :
    (hasMalformedCases m = true ∧ migrate m = .error .malformedCases) ∨
    (hasMalformedCases m = false ∧ ∃ n, migrate m = .ok n) := by
  simp only [migrate, hasMalformedCases]
  cases given : ((m.find? "cases").getD .null).isGiven with
  | false => exact .inr ⟨rfl, m, rfl⟩
  | true =>
    cases ((m.find? "rules").getD .null).isGiven with
    | true => exact .inr ⟨rfl, m, rfl⟩
    | false =>
      cases (m.find? "cases").getD .null with
      | obj cases => exact .inr ⟨rfl, _, rfl⟩
      | null | bool _ | int _ | float _ | str _ | arr _ => exact .inl ⟨rfl, rfl⟩

-- No kind of step but the conditional one has an older shape.
theorem Kind.breaks_decode (k : Kind) (source : Source) (v : Json) : Breaks (k.form.decode source v)
    (k = .conditional ∧ ∃ m, v = .obj m ∧ Conditional.hasMalformedCases m = true) := by
  cases v with
  | null | bool _ | int _ | float _ | str _ | arr _ =>
    refine (unbroken.complain _).breaks ?_
    rintro ⟨_, m, same, _⟩
    cases same
  | obj m =>
    have migrated : (k = .conditional ∧ Conditional.hasMalformedCases m = true ∧
          k.form.migrate m = .error .malformedCases) ∨
        (¬ (k = .conditional ∧ Conditional.hasMalformedCases m = true) ∧ ∃ n, k.form.migrate m = .ok n) := by
      cases k with
      | conditional =>
        rcases Conditional.migrate_cases m with ⟨malformed, broken⟩ | ⟨sound, n, done⟩
        · exact .inl ⟨rfl, malformed, broken⟩
        · exact .inr ⟨by simp [sound], n, done⟩
      | trigger | startFlow | humanApproval | notification | tagMutation | delay | registerEmployee | systemUpdate
      | csvUpload | triggerWorkflow => exact .inr ⟨nofun, m, rfl⟩
    simp only [Form.decode, record]
    rcases migrated with ⟨conditional, malformed, broken⟩ | ⟨sound, n, done⟩
    · simp only [broken]
      exact fun s => ⟨fun _ => ⟨conditional, m, rfl, malformed⟩, fun _ => rfl⟩
    · simp only [done]
      have other : ¬ (k = .conditional ∧ ∃ n, Json.obj m = .obj n ∧ Conditional.hasMalformedCases n = true) := by
        rintro ⟨conditional, _, same, malformed⟩
        cases same
        exact sound ⟨conditional, malformed⟩
      split
      · exact (unbroken.complain _).breaks other
      · exact (unbroken.payload k source n).breaks other

namespace Node

theorem breaks_readMembers (k : Kind) (source : Source) (m : Members) : Breaks (readMembers k source m)
    (k = .conditional ∧ ∃ data, m.find? "data" = some (.obj data) ∧ Conditional.hasMalformedCases data = true) := by
  have initial : Unbroken k.form.initial := by
    refine (k.breaks_decode .document (.obj [])).congr ⟨?_, False.elim⟩
    rintro ⟨_, m, same, malformed⟩
    cases same
    cases malformed
  refine (breaks_last ?others (breaks_field initial (k.breaks_decode source))).congr ?_
  case others =>
    exact unbroken.seq (unbroken.seq (unbroken.map (unbroken.required unbroken.text))
      (unbroken.defaulted (unbroken.position source))) (unbroken.defaulted (unbroken.optional unbroken.text))
  cases found : m.find? "data" with
  | none => simp [FieldName.Holds, FieldName.given?, FieldName.same, found]
  | some v => simp [FieldName.Holds, FieldName.given?, FieldName.same, found]

theorem hasMalformedCases_unmarked (data : Members) :
    Conditional.hasMalformedCases (data.erase "displayId") = Conditional.hasMalformedCases data := by
  rw [Conditional.hasMalformedCases, Keyed.find?_erase_of_ne data (by decide), Keyed.find?_erase_of_ne data (by decide)]
  rfl

theorem breaks_decode (source : Source) (v : Json) :
    Breaks (decode source (normalize v)) (hasMalformedCases v = true) := by
  cases v with
  | null | bool _ | int _ | float _ | str _ | arr _ => exact (unbroken.complain _).breaks Bool.false_ne_true
  | obj m =>
    obtain ⟨n, shape, kind, data⟩ := normalize_members m
    simp only [shape, decode, Json.members?, kind, hasMalformedCases]
    cases stored : storedKind m with
    | none => exact (unbroken.complain _).breaks Bool.false_ne_true
    | some tag =>
      cases tag with
      | null | bool _ | int _ | float _ | arr _ | obj _ => exact (unbroken.complain _).breaks Bool.false_ne_true
      | str tag =>
        simp only [Option.any_some, Json.isTag, Bool.and_eq_true, beq_iff_eq]
        cases known : Kind.ofTag? tag with
        | none =>
          refine (unbroken.complain _).breaks ?_
          rintro ⟨rfl, _⟩
          rw [Kind.ofTag?_tag] at known
          cases known
        | some k =>
          have named : k = .conditional ↔ tag = Kind.conditional.tag := by
            constructor
            · rintro rfl
              exact (Kind.tag_of_ofTag? known).symm
            · rintro rfl
              exact Option.some.inj (known.symm.trans (Kind.ofTag?_tag _))
          refine (breaks_under (breaks_readMembers k source n)).congr (and_congr named ?_)
          rw [data]
          cases Keyed.find? m "data" with
          | none => simp
          | some v => cases v <;> simp [unmarkedData, Json.members?, hasMalformedCases_unmarked]

end Node

namespace Graph

theorem breaks_readMembers (source : Source) (m : Members) :
    Breaks (readMembers source m) (hasMalformedCases (.obj m) = true) := by
  have nodes : ∀ v, Breaks (decodeNodes source v) (∃ vs, v = .arr vs ∧ vs.any Node.hasMalformedCases = true) := by
    intro v
    cases v with
    | arr vs => exact (breaks_items (Node.breaks_decode source) 0 vs).congr (by simp)
    | null | bool _ | int _ | float _ | str _ | obj _ =>
      refine (unbroken.complain _).breaks ?_
      rintro ⟨_, same, _⟩
      cases same
  refine (breaks_first (breaks_map (breaks_field (unbroken.pure []) nodes))
    (unbroken.defaulted (unbroken.list (unbroken.edge source)))).congr ?_
  simp only [hasMalformedCases, Json.members?, Option.bind_some, FieldName.Holds, FieldName.given?, FieldName.same]
  cases Keyed.find? m "nodes" with
  | none => simp
  | some v => cases v <;> simp

theorem breaks_record {read : Members → Decode α} (given : ∀ m, Breaks (read m) (hasMalformedCases (.obj m) = true))
    (source : Source) (v : Json) : Breaks (record source v read) (hasMalformedCases v = true) := by
  cases v with
  | obj m => exact given m
  | null | bool _ | int _ | float _ | str _ | arr _ => exact (unbroken.complain _).breaks Bool.false_ne_true

theorem breaks_decode (source : Source) (v : Json) : Breaks (decode source v) (hasMalformedCases v = true) :=
  breaks_record (breaks_readMembers source) source v

end Graph

theorem Orchestrator.breaks_decode (source : Source) (v : Json) :
    Breaks (decode source v) (Graph.hasMalformedCases v = true) := by
  refine Graph.breaks_record (fun m => breaks_first (breaks_first (breaks_first (breaks_first (breaks_first
    (breaks_first (breaks_first (breaks_first (breaks_first (breaks_first (breaks_map
      (Graph.breaks_readMembers source m)) ?id) ?name) ?description) ?status) ?score) ?errors) ?last) ?version)
    ?created) ?updated) source v
  case id | name => exact unbroken.required unbroken.text
  case description => exact unbroken.defaulted unbroken.text
  case status => exact unbroken.defaulted (unbroken.choice _)
  case score => exact unbroken.defaulted unbroken.number
  case errors => exact unbroken.defaulted unbroken.integer
  case version => exact unbroken.defaulted (unbroken.optional unbroken.integer)
  case last | created | updated => exact unbroken.defaulted (unbroken.optional unbroken.text)

theorem Service.CreateBody.breaks_decode (v : Json) : Breaks (decode v) (Graph.hasMalformedCases v = true) :=
  Graph.breaks_record (fun m => breaks_first (breaks_first (breaks_map (Graph.breaks_readMembers .request m))
    (unbroken.required unbroken.text)) (unbroken.defaulted unbroken.text)) .request v

theorem Service.SaveBody.breaks_decode (v : Json) : Breaks (decode v) (Graph.hasMalformedCases v = true) :=
  Graph.breaks_record (fun m => breaks_first (breaks_first (breaks_map (Graph.breaks_readMembers .request m))
    (unbroken.defaulted (unbroken.optional unbroken.text))) (unbroken.defaulted (unbroken.optional unbroken.text)))
    .request v

-- What comes of reading a document with a graph.
inductive Reads (v : Json) : Except Refusal (α × Supply) → Prop where
  | read (sound : Graph.hasMalformedCases v = false) (r : α × Supply) : Reads v (.ok r)
  | complained (sound : Graph.hasMalformedCases v = false) (complaints : List Complaint) :
    Reads v (.error (.invalid complaints))
  | broken (malformed : Graph.hasMalformedCases v = true) : Reads v (.error .malformedCases)

theorem reads_of_breaks {d : Decode α} (breaks : Breaks d (Graph.hasMalformedCases v = true)) (s : Supply) :
    Reads v (d s) := by
  have cause := breaks s
  cases done : d s with
  | ok r => exact .read (by simpa [done] using cause) r
  | error refusal =>
    cases refusal with
    | invalid complaints => exact .complained (by simpa [done] using cause) complaints
    | malformedCases => exact .broken (cause.mp done)

def Refuses (d : Decode α) (s : Supply) : Prop := ∃ refusal, d s = .error refusal

theorem refuses_map {f : α → β} {d : Decode α} (refused : Refuses d s) : Refuses (f <$> d) s := by
  obtain ⟨refusal, refused⟩ := refused
  exact ⟨refusal, by simp only [Functor.map, map, refused]⟩

theorem refuses_first {f : Decode (α → β)} {d : Decode α} (refused : Refuses f s) : Refuses (f <*> d) s := by
  obtain ⟨refusal, refused⟩ := refused
  simp only [Refuses, Seq.seq, both, refused]
  cases d s with
  | ok _ => exact ⟨_, rfl⟩
  | error _ => exact ⟨_, rfl⟩

theorem refuses_record {read : Members → Decode α} (refused : Refuses (Graph.decode .request v) s)
    (part : ∀ m, Refuses (Graph.readMembers .request m) s → Refuses (read m) s) : Refuses (record .request v read) s := by
  cases v with
  | obj m => exact part m refused
  | null | bool _ | int _ | float _ | str _ | arr _ => exact ⟨_, rfl⟩

end Reading

namespace Service

-- A request to create an orchestrator or to save one, with a body that is refused.
inductive Offers (c : Surroundings) (r : Request) : Prop where
  | create (method : r.method = "POST") (known : endpoint? r.path = some .orchestrators)
    (refused : CreateBody.decode r.body c.supply = .error refusal)
  | save (key : String) (method : r.method = "PUT") (known : endpoint? r.path = some (.orchestrator key))
    (refused : SaveBody.decode r.body c.supply = .error refusal)

-- Levels that any body can be read and shown to, whatever calls for it.
def deepestShown : Nat := 500

-- A body that a text can hold, and that a reply can show.
structure Shown (v : Json) : Prop where
  legible : v.legible = true
  sent : v.sendFault? = none
  shallow : v.within deepestShown = true

-- How it is answered.
inductive Answers (v : Json) : Reply → Prop where
  | complained (sound : Graph.hasMalformedCases v = false) (complaints : List Complaint) :
    Answers v (.malformed complaints)
  | failed (malformed : Graph.hasMalformedCases v = true) : Answers v .failure

theorem readBody_answers {decode : Json → Decode α} (reads : Reads body (decode body s))
    (refused : decode body s = .error refusal) : ∃ reply, readBody decode body s = .error reply ∧ Answers body reply := by
  cases body with
  | null => exact ⟨_, rfl, .complained rfl _⟩
  | bool _ | int _ | float _ | str _ | arr _ | obj _ =>
    rw [refused] at reads
    cases reads with
    | complained sound complaints =>
      simp only [readBody, Decode.under, refused]
      exact ⟨_, rfl, .complained sound _⟩
    | broken malformed =>
      simp only [readBody, Decode.under, refused]
      exact ⟨_, rfl, .failed malformed⟩

theorem readBody_malformed {decode : Json → Decode α} (whole : ∀ v, Decode.Unbroken (decode v))
    (refused : readBody decode body s = .error reply) : ∃ complaints, reply = .malformed complaints := by
  unfold readBody at refused
  dsimp only at refused
  split at refused
  · cases refused
  · rename_i complaints _
    cases refused
    exact ⟨complaints, rfl⟩
  · rename_i broken
    refine absurd ((Decode.unbroken.under ?_ s).mp broken) id
    cases body with
    | null => exact Decode.unbroken.complain _
    | bool _ | int _ | float _ | str _ | arr _ | obj _ => exact whole _

theorem offers_answered {r : Request} (offers : Offers c r) (t : Tables) :
    ∃ reply, handle c r t = (reply, t) ∧ Answers r.body reply := by
  cases offers with
  | create method known refused =>
    obtain ⟨reply, failed, answers⟩ := readBody_answers (reads_of_breaks (CreateBody.breaks_decode r.body) _) refused
    refine ⟨reply, ?_, answers⟩
    rw [handle_known known]
    simp only [serve, write?, method]
    rw [create, answer_given_error failed]
  | save key method known refused =>
    obtain ⟨reply, failed, answers⟩ := readBody_answers (reads_of_breaks (SaveBody.breaks_decode r.body) _) refused
    refine ⟨reply, ?_, answers⟩
    rw [handle_known known]
    simp only [serve, write?, method]
    rw [save, answer_given_error failed]

end Service

namespace Flow

theorem ofDocument_refused {r : Rejection} (refused : ofDocument kind v s = .error r) :
    r.refusal = .malformedCases ↔ Graph.hasMalformedCases v = true := by
  cases kind with
  | graph =>
    have failed := Decode.load_fails (mapped_fails refused)
    rw [← Graph.breaks_decode .document v s, failed, Except.error.injEq]
  | orchestrator =>
    have failed := Decode.load_fails (mapped_fails refused)
    rw [← Orchestrator.breaks_decode .document v s, failed, Except.error.injEq]

end Flow

namespace Json

theorem skipBreaks_bracket (rest : List Char) : skipBreaks ('[' :: rest) = '[' :: rest :=
  List.dropWhile_cons_of_neg (by decide)

-- Lists that are opened beyond the levels that are left are too deep, whatever follows.
theorem value_brackets (fuel levels : Nat) (rest : List Char) :
    value (2 * levels + 1 + fuel) levels (List.replicate (levels + 1) '[' ++ rest) = .error .tooDeep := by
  induction levels with
  | zero =>
    rw [show 2 * 0 + 1 + fuel = fuel + 1 by omega]
    rfl
  | succ levels ih =>
    have more : List.replicate (levels + 1 + 1) '[' ++ rest = '[' :: '[' :: (List.replicate levels '[' ++ rest) := rfl
    have inner : items (2 * levels + 1 + fuel + 1) levels ('[' :: (List.replicate levels '[' ++ rest)) =
        .error .tooDeep := by
      rw [List.replicate_succ, List.cons_append] at ih
      simp only [items, ih]
      rfl
    rw [show 2 * (levels + 1) + 1 + fuel = 2 * levels + 1 + fuel + 1 + 1 by omega, more]
    rw [value, skipBreaks_bracket]
    split
    · rename_i closed
      cases closed
    · rw [inner]
      rfl

theorem parse_brackets (rest : List Char) :
    parse (String.ofList (List.replicate (deepestRead + 1) '[' ++ rest)) = .error .tooDeep := by
  have front : skipBreaks (List.replicate (deepestRead + 1) '[' ++ rest) = List.replicate (deepestRead + 1) '[' ++ rest := by
    rw [List.replicate_succ, List.cons_append, skipBreaks_bracket]
  have enough : 2 * (List.replicate (deepestRead + 1) '[' ++ rest).length + 1 =
      2 * deepestRead + 1 + (2 * rest.length + 2) := by
    rw [List.length_append, List.length_replicate]
    omega
  simp only [parse, String.toList_ofList, front, enough, value_brackets]
  rfl

end Json

namespace Command

-- The arguments name a file with a text in it.
def Opens (args : List String) (file : String → Option String) (text : String) : Prop :=
  ∃ request, Arguments.parse args = .ok request ∧ file request.file = some text

theorem run_deep (opens : Opens args file text) (deep : Json.parse text = .error .tooDeep) (s : Supply) :
    (run args file s).value = .broken .tooDeep := by
  obtain ⟨request, parsed, there⟩ := opens
  simp only [run, parsed, there, deep]
  rfl

-- A document that is no chain is read as an orchestrator if it has an id and a name, else as a graph.
theorem run_refused {r : Rejection} (opens : Opens args file text) (read : Json.parse text = .ok document)
    (first : Orchestrator.firstDocument document = v) (plain : Flow.holds v ["actions"] = false)
    (refused : Flow.ofDocument (if Flow.holds v ["id", "name"] then .orchestrator else .graph) v s = .error r) :
    (run args file s).value = if Graph.hasMalformedCases v then .broken .malformedCases
      else .finished (unreadable r.headline) := by
  obtain ⟨request, parsed, there⟩ := opens
  have cause := Flow.ofDocument_refused refused
  have outcome : (run args file s).value = refusal (.rejected r) := by
    simp only [run, parsed, there, read, Flow.load, first, plain, Bool.false_eq_true, if_false, refused]
    rfl
  rw [outcome]
  obtain ⟨title, kind⟩ := r
  cases kind with
  | malformedCases =>
    rw [if_pos (cause.mp rfl)]
    rfl
  | invalid complaints =>
    rw [if_neg (mt cause.mpr nofun)]
    rfl

end Command

namespace Service

-- A graph with a conditional step whose cases are a list, and one whose nodes are no list.
def listedCases : Json :=
  .obj [("nodes", .arr [.obj [("id", .str "a"), ("kind", .str "conditional"),
    ("data", .obj [("cases", .arr [.str "x"])])]])]

def countedNodes : Json := .obj [("nodes", .int 5)]

-- What the command makes of the one file that there is.
def inspected (text : String) : Command.Outcome :=
  (Command.run ["flow.json"] (fun _ => some text) (visit 'a').supply).value

end Service

end Orchestration
