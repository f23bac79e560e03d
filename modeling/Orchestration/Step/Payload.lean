import Orchestration.Json.Dump
import Orchestration.Step.Rule

namespace Orchestration

-- A label, a delay, and the details of a kind. Members that no field takes are kept as extras, behind the fields and
-- in the order in which they came.
structure Payload (δ : Type) where
  label : String
  delayValue : Int
  delayUnit : DelayUnit
  details : δ
  extras : Members

-- The shape of one kind of payload.
structure Form (δ : Type) where
  title : String
  -- The delay of a payload that gives none.
  delayValue : Int
  delayUnit : DelayUnit
  fields : List FieldName
  read : Source → Members → Decode δ
  write : δ → Members
  -- Brings the members of an older payload into today's shape.
  migrate : Members → Except Refusal Members

namespace Payload

def baseFields : List FieldName :=
  [.same "label", ⟨"delayValue", "delay_value"⟩, ⟨"delayUnit", "delay_unit"⟩]

def map (f : α → β) (p : Payload α) : Payload β := { p with details := f p.details }

-- Why a payload cannot be handed out. Nothing prescribes the shape of its extras.
def dumpFault? (p : Payload δ) : Option Json.DumpFault := Json.looseFaults? p.extras

end Payload

namespace Form

-- The form of a payload that has a label and a delay only.
def bare : Form Unit :=
  { title := "NodeData", delayValue := 0, delayUnit := .minutes, fields := [],
    read := fun _ _ => pure (), write := fun _ => [], migrate := .ok }

def lift (form : Form α) (f : α → β) (write : β → Members) : Form β :=
  { form with read := fun source m => f <$> form.read source m, write := write }

def allFields (form : Form δ) : List FieldName := Payload.baseFields ++ form.fields

def readMembers (form : Form δ) (source : Source) (m : Members) : Decode (Payload δ) :=
  Payload.mk <$> Decode.field m (.same "label") (pure "") Decode.text
    <*> Decode.field m ⟨"delayValue", "delay_value"⟩ (pure form.delayValue) Decode.integer
    <*> Decode.field m ⟨"delayUnit", "delay_unit"⟩ (pure form.delayUnit) (Decode.choice DelayUnit.ofTag?)
    <*> form.read source m
    <*> pure (m.extras form.allFields)

-- Reads a payload. A key with half of a surrogate pair is the only thing that is complained of
-- then, for extras are kept under their keys.
def decode (form : Form δ) (source : Source) (v : Json) : Decode (Payload δ) :=
  Decode.record source v fun m =>
    match form.migrate m with
    | .ok m =>
        if m.any fun (key, _) => Text.hasHalf key then Decode.complain .brokenText
        else form.readMembers source m
    | .error r => Decode.refuse r

def members (form : Form δ) (p : Payload δ) : Members :=
  [("label", .str p.label), ("delayValue", .int p.delayValue), ("delayUnit", .str p.delayUnit.tag)] ++
    form.write p.details ++ p.extras

-- The members as they are handed out: in extras a number that is not finite becomes null.
def handed (form : Form δ) (p : Payload δ) : Members :=
  form.members { p with extras := Json.finiteMembers p.extras }

def encode (form : Form δ) (p : Payload δ) : Json := .obj (form.handed p)

def wireKey (form : Form δ) (key : String) : String :=
  match form.allFields.find? (·.plain == key) with
  | some f => f.wire
  | none => key

def merge (form : Form δ) (p : Payload δ) (patch : Members) : Decode (Payload δ) :=
  form.decode .document
    (.obj ((form.members p).update (patch.map fun (k, v) => (form.wireKey k, v))))

def initial (form : Form δ) : Decode (Payload δ) := form.decode .document (.obj [])

end Form
end Orchestration
