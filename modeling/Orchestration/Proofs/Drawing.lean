import Orchestration.Proofs.DecoderParts
import Orchestration.Service.Orchestrators

namespace Orchestration

namespace Decode

-- A reader moves on in the numbering that it is given, and never changes to another one.
def Keeps (d : Decode α) : Prop := ∀ s a t, d s = .ok (a, t) → t.name = s.name

theorem keeps_refuse (r : Refusal) : Keeps (refuse r : Decode α) := by
  intro s a t decoded
  cases decoded

theorem keeping : Inherited Keeps where
  pure a := by
    intro s b t decoded
    cases decoded
    rfl
  complain p := keeps_refuse _
  fresh := by
    intro s name t decoded
    cases decoded
    rfl
  map kept := by
    intro s b t decoded
    obtain ⟨a, read, _⟩ := map_parts decoded
    exact kept s a t read
  seq first second := by
    intro s b t decoded
    obtain ⟨g, u, a, before, after, _⟩ := seq_parts decoded
    exact (second u a t after).trans (first s g u before)
  under kept := fun s a t decoded => kept s a t (under_eq_ok.mp decoded)

end Decode

open Decode

theorem Kind.keeps_decode (k : Kind) (source : Source) (v : Json) : Keeps (k.form.decode source v) := by
  refine keeping.record fun m => ?_
  split
  · split
    · exact keeping.complain _
    · exact keeping.payload k source _
  · exact keeps_refuse _

theorem Node.keeps_decode (source : Source) (v : Json) : Keeps (Node.decode source v) := by
  have members : ∀ (k : Kind) m, Keeps (readMembers k source m) := fun k m =>
    keeping.seq (keeping.seq (keeping.seq (keeping.map (keeping.required keeping.text))
      (keeping.defaulted (keeping.position source))) (keeping.defaulted (keeping.optional keeping.text)))
      (keeping.field (k.keeps_decode .document _) (k.keeps_decode source))
  unfold decode
  split
  · exact keeping.complain _
  · split
    · exact keeping.complain _
    · split
      · exact keeping.under (members _ _)
      · exact keeping.complain _
    · exact keeping.complain _

theorem Graph.keeps_readMembers (source : Source) (m : Members) : Keeps (readMembers source m) := by
  have nodes : ∀ v, Keeps (decodeNodes source v) := by
    intro v
    unfold decodeNodes
    split
    · exact keeping.items (Node.keeps_decode source) 0 _
    · exact keeping.complain _
  exact keeping.seq (keeping.map (keeping.defaulted nodes)) (keeping.defaulted (keeping.list (keeping.edge source)))

theorem Orchestrator.keeps_decode (source : Source) (v : Json) : Keeps (Orchestrator.decode source v) := by
  have text : ∀ v, Keeps (optional Decode.text v) := keeping.optional keeping.text
  refine keeping.record fun m => keeping.seq (keeping.seq (keeping.seq (keeping.seq (keeping.seq (keeping.seq
    (keeping.seq (keeping.seq (keeping.seq (keeping.seq (keeping.map (Graph.keeps_readMembers source m)) ?id) ?name)
    ?description) ?status) ?score) ?errors) ?last) ?version) ?created) ?updated
  case id | name => exact keeping.required keeping.text
  case description => exact keeping.defaulted keeping.text
  case status => exact keeping.defaulted (keeping.choice _)
  case score => exact keeping.defaulted keeping.number
  case errors => exact keeping.defaulted keeping.integer
  case version => exact keeping.defaulted (keeping.optional keeping.integer)
  case last | created | updated => exact keeping.defaulted text

theorem Version.keeps_decode (source : Source) (v : Json) : Keeps (Version.decode source v) := by
  refine keeping.record fun m => keeping.seq (keeping.seq (keeping.seq (keeping.seq (keeping.seq (keeping.seq
    (keeping.map ?of) ?number) ?nodes) ?edges) ?chain) ?published) ?created
  case of | created => exact keeping.required keeping.text
  case number => exact keeping.required keeping.integer
  case nodes => exact keeping.required (keeping.list (Node.keeps_decode source))
  case edges => exact keeping.required (keeping.list (keeping.edge source))
  case chain => exact keeping.required (keeping.chain source)
  case published => exact keeping.defaulted (keeping.optional keeping.text)

namespace Service

theorem CreateBody.keeps_decode (v : Json) : Keeps (CreateBody.decode v) :=
  keeping.record fun m => keeping.seq (keeping.seq (keeping.map (Graph.keeps_readMembers .request m))
    (keeping.required keeping.text)) (keeping.defaulted keeping.text)

theorem read_of_readBody {decode : Json → Decode α} (read : readBody decode body s = .ok r) :
    decode body s = .ok r := by
  cases body with
  | null => cases read
  | bool _ | int _ | float _ | str _ | arr _ | obj _ =>
    simp only [readBody] at read
    split at read
    · rename_i done
      cases read
      exact under_eq_ok.mp done
    · cases read
    · cases read

end Service
end Orchestration
