import Orchestration.Proofs.MalformedDocuments
import Orchestration.Proofs.RebuiltChains
import Orchestration.Proofs.RemoteSaves

namespace Orchestration

-- The arguments of the action are a payload of its kind, whatever names are at hand.
def Action.Fits (a : Action) : Prop := ∀ s, ∃ p t, a.kind.form.decode .document (.obj a.args) s = .ok (p, t)

namespace Decode

-- Whether a value is read does not hang on the names at hand, though what is read may.
def Certain (d : Decode α) : Prop := ∃ P, Takes d P

theorem certain : Inherited Certain where
  pure a := ⟨_, takes_pure a⟩
  complain p := ⟨_, takes_complain p⟩
  map := fun ⟨_, part⟩ => ⟨_, takes_map part⟩
  seq := fun ⟨_, first⟩ ⟨_, second⟩ => ⟨_, takes_seq first second⟩
  under := fun ⟨_, part⟩ => ⟨_, takes_under part⟩
  fresh := ⟨True, fun _ _ => ⟨_, _, rfl⟩, fun never => absurd trivial never⟩

theorem certain_refuse (r : Refusal) : Certain (refuse r : Decode α) :=
  ⟨False, fun never => never.elim, fun _ _ => ⟨r, rfl⟩⟩

theorem Certain.takes {d : Decode α} (certain : Certain d) : Takes d (∀ s, ∃ a t, d s = .ok (a, t)) := by
  obtain ⟨P, takes⟩ := certain
  refine takes.congr ⟨takes.reads, fun all => ?_⟩
  by_contra fails
  obtain ⟨a, t, read⟩ := all ⟨fun _ => "", 0⟩
  obtain ⟨e, refused⟩ := takes.refuses fails ⟨fun _ => "", 0⟩
  cases read.symm.trans refused

end Decode

-- An older shape is brought into today's, or refused, before any name is drawn.
theorem Kind.certain_decode (k : Kind) (source : Source) (v : Json) : Decode.Certain (k.form.decode source v) := by
  apply Decode.certain.record
  intro m
  dsimp only
  cases k.form.migrate m with
  | error r => exact Decode.certain_refuse r
  | ok n =>
    dsimp only
    split
    · exact Decode.certain.complain _
    · exact Decode.certain.payload k source n

theorem Action.takes_args (a : Action) : Decode.Takes (a.kind.form.decode .document (.obj a.args)) a.Fits :=
  (a.kind.certain_decode .document (.obj a.args)).takes

namespace Chain

theorem build_ok_iff (key : String) (a : Action) (s : Supply) :
    (∃ n t, Node.build (.str key) (.str a.kind.tag) (.obj a.args) a.position.encode s = .ok (n, t)) ↔ a.Fits := by
  have made : (Node.build (.str key) (.str a.kind.tag) (.obj a.args) a.position.encode s).toOption =
      (a.kind.form.decode .document (.obj a.args) s).toOption.map fun r => (⟨key, a.position, none, r.1⟩, r.2) := by
    have placed : Position.decode .document (.obj [("x", .float a.position.x), ("y", .float a.position.y)]) s =
        .ok (a.position, s) := Position.decode_encode .document a.position s
    refine (Node.build_made key a.kind.tag a.args _ s).trans ?_
    rw [Node.made?, Kind.currentTag_tag, Kind.ofTag?_tag, placed]
    simp only [Option.bind_eq_bind, Option.bind_some, Except.toOption]
    cases a.kind.form.decode .document (.obj a.args) s <;> rfl
  constructor
  · rintro ⟨n, t, built⟩
    by_contra unfit
    obtain ⟨e, refused⟩ := a.takes_args.refuses unfit s
    rw [built, refused] at made
    cases made
  · intro fits
    obtain ⟨p, t, read⟩ := fits s
    rw [read] at made
    exact ⟨_, t, toOption_parts made⟩

-- The induction is on the actions that are still to be turned into nodes.
theorem parts_ok_iff (c : Chain) (s : Supply) (actions : Keyed Action) :
    (∃ r, (c.parts s actions).value = .ok r) ↔ ∀ kv ∈ actions, kv.2.Fits := by
  induction actions generalizing s with
  | nil => exact ⟨fun _ kv mem => absurd mem List.not_mem_nil, fun _ => ⟨_, rfl⟩⟩
  | cons kv rest ih =>
    have first := build_ok_iff kv.1 kv.2 s
    rw [List.forall_mem_cons, ← first]
    unfold parts
    cases Node.build (.str kv.1) (.str kv.2.kind.tag) (.obj kv.2.args) kv.2.position.encode s with
    | error fault =>
      constructor
      · rintro ⟨_, never⟩
        cases never
      · rintro ⟨⟨_, _, never⟩, _⟩
        cases never
    | ok built =>
      rw [← ih built.2]
      simp only [Noted.bind, Noted.map]
      cases (c.parts built.2 rest).value with
      | error fault =>
        constructor
        · rintro ⟨_, never⟩
          cases never
        · rintro ⟨_, _, never⟩
          cases never
      | ok more => exact ⟨fun _ => ⟨⟨_, _, rfl⟩, _, rfl⟩, fun _ => ⟨_, rfl⟩⟩

theorem toGraph_ok_iff (c : Chain) (s : Supply) :
    (∃ g t, (c.toGraph s).value = .ok (g, t)) ↔ ∀ kv ∈ c.actions, kv.2.Fits := by
  rw [← c.parts_ok_iff s]
  simp only [toGraph, Noted.bind]
  cases (c.parts s c.actions).value with
  | error fault =>
    constructor
    · rintro ⟨_, _, never⟩
      cases never
    · rintro ⟨_, never⟩
      cases never
  | ok built => exact ⟨fun _ => ⟨_, rfl⟩, fun _ => ⟨_, _, rfl⟩⟩

end Chain

namespace Service

variable {c : Surroundings} {r : Request} {t : Tables} {key : String} {l : Orchestrator} {chain : Chain} {g : Graph}

-- A request to put a chain in the place of the graph of an orchestrator.
def Imports (r : Request) (key : String) : Prop := r.method = "PUT" ∧ endpoint? r.path = some (.chain key)

theorem handle_imports (imports : Imports r key) (c : Surroundings) (t : Tables) :
    handle c r t = importChain c key r.body t := by
  rw [handle_known imports.2]
  simp only [serve, write?, imports.1]

-- The draft with a graph that was rebuilt from a chain. It takes the name of the chain, if that has one.
def imported (l : Orchestrator) (chain : Chain) (g : Graph) (now : String) : Orchestrator :=
  replaced l g (if chain.name = "" then none else some chain.name) none now

-- No chain breaks the reading of a body off, so one that is not read is answered with what is wrong with it.
theorem importChain_malformed (refused : readBody (Chain.decode .request) body c.supply = .error reply) :
    ∃ complaints, importChain c key body t = (.malformed complaints, t) := by
  obtain ⟨complaints, rfl⟩ := readBody_malformed (Decode.unbroken.chain .request) refused
  exact ⟨complaints, answer_given_error refused⟩

theorem importChain_misfit (read : readBody (Chain.decode .request) body c.supply = .ok (chain, s))
    (found : ∀ s, find t key s = .ok (l, s)) (draft : l.status = .draft)
    (unbuilt : (chain.toGraph s).value = .error fault) : importChain c key body t = (.failure, t) := by
  have failed : ((chain.toGraph s).value.mapError fun _ => Reply.failure) = .error .failure := by
    rw [unbuilt]
    rfl
  rw [importChain, answer_given_ok read, answer_read_ok (findEditable_draft (found s) draft),
    answer_given_error failed]

theorem importChain_built (read : readBody (Chain.decode .request) body c.supply = .ok (chain, s))
    (found : ∀ s, find t key s = .ok (l, s)) (draft : l.status = .draft)
    (built : (chain.toGraph s).value = .ok (g, w)) :
    importChain c key body t = answer (storeAndReply (imported l chain g c.now)) t := by
  have made : ((chain.toGraph s).value.mapError fun _ => Reply.failure) = .ok (g, w) := by
    rw [built]
    rfl
  rw [importChain, answer_given_ok read, answer_read_ok (findEditable_draft (found s) draft), answer_given_ok made]
  rfl

-- What becomes of a chain that was read: it is put in the place of the graph, or the service fails and nothing changes.
structure ImportOutcome (c : Surroundings) (r : Request) (t : Tables) (l : Orchestrator) (chain : Chain) : Prop where
  misfit : (∃ kv ∈ chain.actions, ¬ kv.2.Fits) → handle c r t = (.failure, t)
  fitting : (∀ kv ∈ chain.actions, kv.2.Fits) → ∃ g, chain.Rebuilt g ∧
    ((imported l chain g c.now).isWritable = true →
      ∃ u, t.putRecord (imported l chain g c.now) = .ok u ∧ handle c r t = (.ok (imported l chain g c.now).encode, u)) ∧
    ((imported l chain g c.now).isWritable = false → handle c r t = (.failure, t))

-- Whatever requests came before and whatever draft is stored: what is answered to a body that is no chain, and to one
-- that is. A body that cannot be shown is spoken of only if it is a chain, for then nothing of it has to be shown.
theorem chain_imports (reached : Reached past t) (mem : row ∈ t.records) (reads : row.Reads l)
    (draft : l.status = .draft) (imports : Imports r row.id) (c : Surroundings) :
    (∀ reply, Shown r.body → readBody (Chain.decode .request) r.body c.supply = .error reply →
      ∃ complaints, handle c r t = (.malformed complaints, t)) ∧
    ∀ chain s, r.body.within deepestShown = true → readBody (Chain.decode .request) r.body c.supply = .ok (chain, s) →
      ImportOutcome c r t l chain := by
  have found : ∀ s, find t row.id s = .ok (l, s) := fun s => find_of_read (reached_inStep reached).1 mem (reads s) s
  obtain ⟨gives, _⟩ := (reached_sound reached).gives mem (reads c.supply)
  rw [handle_imports imports]
  refine ⟨fun reply _ refused => importChain_malformed refused, fun chain s _ read => ?_⟩
  have served := handle_imports imports c t
  have rebuilds := chain.toGraph_ok_iff s
  cases built : (chain.toGraph s).value with
  | error fault =>
    rw [built] at rebuilds
    refine ⟨fun _ => served.trans (importChain_misfit read found draft built), fun fit => ?_⟩
    obtain ⟨_, _, never⟩ := rebuilds.mpr fit
    cases never
  | ok made =>
    rw [built] at rebuilds
    rw [importChain_built read found draft built] at served
    refine ⟨fun ⟨kv, among, unfit⟩ => absurd (rebuilds.mp ⟨_, _, rfl⟩ kv among) unfit, fun _ => ?_⟩
    obtain ⟨written, refused⟩ := storeAndReply_cases t (o := imported l chain made.1 c.now) gives.stamped.1 rfl
    refine ⟨made.1, Chain.rebuilt_of_toGraph built, fun writable => ?_, fun unwritable => ?_⟩
    · obtain ⟨u, stored, done⟩ := written writable
      exact ⟨u, stored, served.trans done⟩
    · exact served.trans (refused unwritable)

-- A request to import a chain of one wait, which lasts for what is given.
def importing (value : Json) : Request :=
  let action : Json := .obj [("type", .str "delay"), ("args", .obj [("delayValue", value)])]
  { sent "/api/orchestrators/ax/chain" (.obj [("actions", .obj [("a", action)])]) with method := "PUT" }

theorem importing_imports (value : Json) : Imports (importing value) "ax" := by
  have known : endpoint? (importing .null).path = some (.chain "ax") := by decide +kernel
  exact ⟨rfl, known⟩

section
open RemoteStore

theorem wait_imported : ∃ row ∈ entrusted.records, ∃ l chain g u, row.Reads l ∧ chain.Rebuilt g ∧
    chain.actions.map (fun kv => (kv.1, kv.2.kind)) = [("a", .delay)] ∧
    entrusted.putRecord (imported l chain g (visit 'b').now) = .ok u ∧
    handle (visit 'b') (importing (.int 3)) entrusted = (.ok (imported l chain g (visit 'b').now).encode, u) := by
  obtain ⟨row, mem, key, l, reads, draft⟩ := entrusted_draft
  have imports : Imports (importing (.int 3)) row.id := key ▸ importing_imports (.int 3)
  have outcome := (chain_imports entrusted_reached mem reads draft imports (visit 'b')).2 _ _ (by decide +kernel) rfl
  have fits : Action.Fits ⟨.delay, [("delayValue", .int 3)], none, none, .null, none, .origin⟩ := fun _ => ⟨_, _, rfl⟩
  obtain ⟨g, rebuilt, stored, refused⟩ := outcome.fitting (List.forall_mem_singleton.mpr fits)
  have done : (handle (visit 'b') (importing (.int 3)) entrusted).1.status = 200 := by decide +kernel
  cases writable : (imported l _ g (visit 'b').now).isWritable with
  | true =>
    obtain ⟨u, put, answered⟩ := stored writable
    exact ⟨row, mem, l, _, g, u, reads, rebuilt, rfl, put, answered⟩
  | false =>
    rw [refused writable] at done
    cases done

-- A wait that lasts for no number is read as a part of a chain, and the service fails over it.
theorem misfit_fails : ¬ ∀ past t row l, Reached past t → row ∈ t.records → row.Reads l → l.status = .draft →
    ∀ c r chain s, Imports r row.id → readBody (Chain.decode .request) r.body c.supply = .ok (chain, s) →
      (handle c r t).1.status = 200 ∨ ((handle c r t).1.status = 422 ∧ (handle c r t).2 = t) := by
  intro always
  obtain ⟨row, mem, key, l, reads, draft⟩ := entrusted_draft
  have failed : (handle (visit 'b') (importing (.str "x")) entrusted).1.status = 500 := by decide +kernel
  rcases always _ _ row l entrusted_reached mem reads draft (visit 'b') (importing (.str "x")) _ _
    (key ▸ importing_imports (.str "x")) rfl with served | ⟨refused, _⟩
  · exact absurd (failed.symm.trans served) (by decide)
  · exact absurd (failed.symm.trans refused) (by decide)

end

end Service
end Orchestration
