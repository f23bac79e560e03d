import Orchestration.Proofs.DocumentText
import Orchestration.Proofs.Reloading

namespace Orchestration

namespace Flow

-- The document of a flow as a file may hold it, bare or as the only item of a list.
def Filed (f : Flow) (doc : Json) : Prop := doc = f.encode ∨ doc = .arr [f.encode]

variable {f : Flow} {doc : Json}

theorem load_filed (read : f.WasRead) (filed : f.Filed doc) (s : Supply) :
    load doc s = .quiet (.ok (f.loaded, s)) := by
  rcases filed with rfl | rfl
  · exact load_encode read s
  · rw [load_wrapped]
    exact load_encode read s

theorem parse_filed (handed : f.dumpFault? = none) (legible : f.encode.legible = true) (filed : f.Filed doc)
    (spelled : doc.SpelledBy text) : Json.parse text = .ok doc := by
  have shallow := faultWithin_encode handed
  rcases filed with rfl | rfl
  · exact Json.parse_spelled spelled legible (Json.faultWithin_mono shallow (by decide))
  · refine Json.parse_spelled spelled ?_ ?_
    · simp [Json.legible, Json.itemsLegible, legible]
    · have inner : Json.faultWithin 989 f.encode = none := Json.faultWithin_mono shallow (by decide)
      exact Json.faultWithin_arr.mpr fun v mem => List.mem_singleton.mp mem ▸ inner

end Flow

-- A record comes back from its document exactly if the document is handed out and its loose values are
-- finite. A flow comes back from the texts of its document as well as from the document, whichever text it is
-- and whether it stands in a list.
theorem reload_exact (g : Graph) (o : Orchestrator) (v : Version) (c : Chain) (f : Flow) :
    (WasRead Graph.decode g →
      (Reloads Graph.decode Graph.encode Graph.dumpFault? g ↔ g.dumpFault? = none ∧ g.FiniteExtras)) ∧
    (WasRead Orchestrator.decode o →
      (Reloads Orchestrator.decode Orchestrator.encode Orchestrator.dumpFault? o ↔
        o.dumpFault? = none ∧ o.graph.FiniteExtras)) ∧
    (WasRead Version.decode v →
      (Reloads Version.decode Version.encode Version.dumpFault? v ↔
        v.dumpFault? = none ∧ v.graph.FiniteExtras ∧ v.chain.FiniteValues)) ∧
    (Reloads Chain.decode Chain.encode Chain.dumpFault? c ↔ c.dumpFault? = none ∧ c.FiniteValues) ∧
    (f.WasRead → f.dumpFault? = none →
      (f.loaded = f ↔ f.toGraph.FiniteExtras) ∧
      ∀ doc, f.Filed doc →
        (∀ s, Flow.load doc s = .quiet (.ok (f.loaded, s))) ∧
        (f.encode.legible = true → ∀ text, doc.SpelledBy text → Json.parse text = .ok doc) ∧
        ∀ style : Json.Style, style.words = true ∨ doc.isFinite = true →
          doc.SpelledBy (Json.render style doc)) := by
  refine ⟨Graph.reloads_iff, Orchestrator.reloads_iff, Version.reloads_iff, Chain.reloads_iff, fun read handed => ?_⟩
  refine ⟨Flow.loaded_eq_self_iff read, fun doc filed => ?_⟩
  exact ⟨Flow.load_filed read filed, fun legible _ => Flow.parse_filed handed legible filed,
    fun _ => Json.spelledBy_render⟩

namespace Graph

-- A document of earlier days: older tags, a kind given as a type, a display id among the data, cases in place
-- of rules, a rule of numbers and a field under both of its names.
def legacy : Json := .obj [
  ("nodes", .arr [
    .obj [("id", .str "a"), ("type", .str "journey"),
      ("data", .obj [("displayId", .str "A1"), ("note", .arr [.int 1])])],
    .obj [("id", .str "b"), ("kind", .str "decision"), ("displayId", .str "A2"),
      ("data", .obj [("cases", .obj [("yes", .str "Yes")]), ("switch_field", .str "state")])],
    .obj [("id", .str "c"), ("kind", .str "conditional"),
      ("data", .obj [("rules", .arr [.obj [("value", .int 5)]])])],
    .obj [("id", .str "d"), ("kind", .str "delay"),
      ("data", .obj [("delayValue", .int 3), ("delay_value", .int 5)])]]),
  ("edges", .arr [.obj [("id", .str "e1"), ("source", .str "a"), ("target", .str "b")]])]

-- The same graph in today's shape. What is given twice keeps the value that lost as an extra.
def migrated : Graph where
  nodes := [
    ⟨"a", .origin, none, ⟨"", 0, .minutes, .startFlow ⟨""⟩, [("note", .arr [.int 1])]⟩⟩,
    ⟨"b", .origin, some "A2", ⟨"", 0, .minutes,
      .conditional ⟨"state", [⟨"yes", "Yes", "state", .equals, "yes"⟩]⟩, []⟩⟩,
    ⟨"c", .origin, none, ⟨"", 0, .minutes, .conditional ⟨"", [⟨"rule-r", "", "", .equals, "5"⟩]⟩, []⟩⟩,
    ⟨"d", .origin, none, ⟨"", 3, .days, .delay, [("delay_value", .int 5)]⟩⟩]
  edges := [⟨"e1", "a", "b", none, none⟩]

theorem legacy_read : WasRead decode migrated :=
  ⟨.document, legacy, ⟨fun _ => "r", 0⟩, ⟨fun _ => "r", 1⟩, rfl⟩

-- What is made of it: an orchestrator, a chain of one wait, and a version that holds both.
def adopted : Orchestrator := .draft "o" "Migrated" migrated

theorem adopted_read : WasRead Orchestrator.decode adopted :=
  ⟨.document, .obj ([("id", .str "o"), ("name", .str "Migrated")] ++ migrated.members), ⟨fun _ => "r", 0⟩,
    ⟨fun _ => "r", 0⟩, rfl⟩

def awaited : Chain :=
  ⟨some "o", none, "Migrated", some "d", [("d", ⟨.delay, [("delay_value", .int 5)], none, none, .null, none, .origin⟩)]⟩

def issue : Version := ⟨"o", 1, migrated, awaited, none, "today"⟩

theorem issue_read : WasRead Version.decode issue :=
  ⟨.document, issue.encode, ⟨fun _ => "r", 0⟩, ⟨fun _ => "r", 0⟩, rfl⟩

theorem migrated_reloads : WasRead decode migrated ∧ Reloads decode encode dumpFault? migrated ∧
    Reloads Orchestrator.decode Orchestrator.encode Orchestrator.dumpFault? adopted ∧
    Reloads Version.decode Version.encode Version.dumpFault? issue ∧
    Reloads Chain.decode Chain.encode Chain.dumpFault? awaited ∧
    ∀ text, migrated.encode.SpelledBy text →
      ∃ doc, Json.parse text = .ok doc ∧ ∀ s, Flow.load doc s = .quiet (.ok (.graph migrated, s)) := by
  obtain ⟨graph, orchestrator, version, chain, flow⟩ := reload_exact migrated adopted issue awaited (.graph migrated)
  have handed : migrated.dumpFault? = none := by decide +kernel
  have finite : migrated.FiniteExtras := by
    unfold FiniteExtras
    decide +kernel
  have actions : awaited.FiniteValues := by
    unfold Chain.FiniteValues
    decide +kernel
  obtain ⟨same, filed⟩ := flow legacy_read handed
  obtain ⟨loads, reads, _⟩ := filed migrated.encode (Or.inl rfl)
  refine ⟨legacy_read, (graph legacy_read).mpr ⟨handed, finite⟩, (orchestrator adopted_read).mpr ⟨handed, finite⟩,
    (version issue_read).mpr ⟨by decide +kernel, finite, actions⟩, chain.mpr ⟨by decide +kernel, actions⟩,
    fun text spelled => ⟨_, reads (by decide +kernel) text spelled, fun s => ?_⟩⟩
  rw [loads, same.mpr finite]

theorem laden_read (v : Json) : WasRead decode (laden v) :=
  ⟨.document, _, ⟨fun _ => "", 0⟩, _, laden_decoded v _⟩

-- A delay whose place is what is not a number, given as a text or as a number of a document.
def adrift (shared : Bool) : Graph := ⟨[⟨"a", ⟨.nan shared, .zero⟩, none, ⟨"", 1, .days, .delay, []⟩⟩], []⟩

theorem adrift_read : WasRead decode (adrift false) :=
  ⟨.document, .obj [("nodes", .arr [.obj [("id", .str "a"), ("kind", .str "delay"),
    ("position", .obj [("x", .str "nan")])]])], ⟨fun _ => "", 0⟩, ⟨fun _ => "", 0⟩, rfl⟩

-- What is not a number is written as one word, and read as the one that documents share.
theorem adrift_exchanged : Json.parse (Json.render .line (adrift false).encode) = .ok (adrift true).encode := by
  have shared : Json.render .line (adrift false).encode = Json.render .line (adrift true).encode := rfl
  rw [shared]
  exact Json.parse_spelled (Json.spelledBy_render (Or.inl rfl)) (by decide) (by decide +kernel)

theorem adrift_loaded (s : Supply) :
    Flow.load (adrift true).encode s = .quiet (.ok (.graph (adrift true), s)) := rfl

-- Each of the conditions is needed: what is nested too deep is not handed out, an infinite extra comes back as
-- null, and what is not a number comes back from a document but not from a text.
theorem loose_values_lost :
    (WasRead decode (laden (.nested 255)) ∧ ¬ Reloads decode encode dumpFault? (laden (.nested 255))) ∧
    (WasRead decode (laden (.float (.infinite false))) ∧
      (laden (.float (.infinite false))).dumpFault? = none ∧
      ¬ Reloads decode encode dumpFault? (laden (.float (.infinite false)))) ∧
    WasRead decode (adrift false) ∧ Reloads decode encode dumpFault? (adrift false) ∧
      ∃ doc, Json.parse (Json.render .line (adrift false).encode) = .ok doc ∧
        ∀ s, Flow.load doc s ≠ .quiet (.ok (.graph (adrift false), s)) := by
  refine ⟨⟨laden_read _, fun again => ?_⟩, ⟨laden_read _, by decide +kernel, fun again => ?_⟩, adrift_read, ?_,
    _, adrift_exchanged, fun s same => ?_⟩
  · obtain ⟨handed, _⟩ := (reloads_iff (laden_read _)).mp again
    have deep : (laden (.nested 255)).dumpFault? = some .tooDeep := by decide +kernel
    rw [deep] at handed
    cases handed
  · obtain ⟨_, finite⟩ := (reloads_iff (laden_read _)).mp again
    have extra := finite _ List.mem_cons_self
    cases extra
  · refine (reloads_iff adrift_read).mpr ⟨by decide +kernel, ?_⟩
    intro n mem
    rw [List.mem_singleton.mp mem]
    rfl
  · rw [adrift_loaded] at same
    cases same

end Graph

end Orchestration
