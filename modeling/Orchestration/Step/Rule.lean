import Orchestration.Decode.Scalar
import Orchestration.Step.Kind

namespace Orchestration

structure Rule where
  id : String
  label : String
  field : String
  operator : Comparison
  value : String
  deriving DecidableEq, Repr

namespace Rule

def title : String := "Rule"

-- A rule that comes without an id is given a fresh one.
def freshId : Decode String := fun s => .ok s.ruleId

-- Texts of a rule may also be given as numbers.
def decode (source : Source) (v : Json) : Decode Rule :=
  Decode.record source v fun m =>
    Rule.mk <$> Decode.field m (.same "id") freshId Decode.textOrNumber
      <*> Decode.field m (.same "label") (pure "") Decode.textOrNumber
      <*> Decode.field m (.same "field") (pure "") Decode.textOrNumber
      <*> Decode.field m (.same "operator") (pure .equals) (Decode.choice Comparison.ofTag?)
      <*> Decode.field m (.same "value") (pure "") Decode.textOrNumber

def members (r : Rule) : Members :=
  [("id", .str r.id), ("label", .str r.label), ("field", .str r.field),
    ("operator", .str r.operator.tag), ("value", .str r.value)]

def encode (r : Rule) : Json := .obj r.members

theorem decode_encode (source : Source) (r : Rule) (s : Supply) :
    decode source r.encode s = .ok (r, s) := by
  obtain ⟨id, label, field, operator, value⟩ := r
  simp [decode, encode, members, Decode.record, Decode.field, FieldName.given?, FieldName.same,
    Keyed.find?, List.lookup_cons, Decode.under, Decode.textOrNumber, Decode.choice, Seq.seq,
    Functor.map, Decode.both, Decode.map, Decode.pure, Comparison.ofTag?_tag]

end Rule
end Orchestration
