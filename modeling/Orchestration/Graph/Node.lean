import Orchestration.Rejection
import Orchestration.Step.Details

namespace Orchestration

structure Position where
  x : Binary64
  y : Binary64
  deriving DecidableEq, Repr

namespace Position

def title : String := "Position"

def origin : Position := ⟨Binary64.zero, Binary64.zero⟩

def decode (source : Source) (v : Json) : Decode Position :=
  Decode.record source v fun m =>
    Position.mk <$> Decode.field m (.same "x") (pure Binary64.zero) Decode.number
      <*> Decode.field m (.same "y") (pure Binary64.zero) Decode.number

def encode (p : Position) : Json := .obj [("x", .float p.x), ("y", .float p.y)]

theorem decode_encode (source : Source) (p : Position) (s : Supply) :
    decode source p.encode s = .ok (p, s) := by
  obtain ⟨x, y⟩ := p
  simp [decode, encode, Decode.record, Decode.field, FieldName.given?, FieldName.same,
    Keyed.find?, List.lookup_cons, Decode.under, Decode.number, Seq.seq,
    Functor.map, Decode.both, Decode.map, Decode.pure]

end Position

structure Node where
  id : String
  position : Position
  -- The label that the structure of the graph gives. It never identifies a node.
  displayId : Option String
  payload : Payload Details

namespace Node

def titleOf : Kind → String
  | .trigger => "TriggerNode"
  | .startFlow => "StartFlowNode"
  | .conditional => "ConditionalNode"
  | .humanApproval => "HumanApprovalNode"
  | .notification => "NotificationNode"
  | .tagMutation => "TagMutationNode"
  | .delay => "DelayNode"
  | .registerEmployee => "RegisterEmployeeNode"
  | .systemUpdate => "SystemUpdateNode"
  | .csvUpload => "CsvUploadNode"
  | .triggerWorkflow => "TriggerWorkflowNode"

-- The title of nodes of any kind: a choice of all kinds.
def title : String := "tagged-union[" ++ String.intercalate "," (Kind.all.map titleOf) ++ "]"

def kind (n : Node) : Kind := n.payload.kind

def readMembers (kind : Kind) (source : Source) (m : Members) : Decode Node :=
  Node.mk <$> Decode.required m (.same "id") Decode.text
    <*> Decode.field m (.same "position") (pure Position.origin) (Position.decode source)
    <*> Decode.field m ⟨"displayId", "display_id"⟩ (pure none) (Decode.optional Decode.text)
    <*> Decode.field m (.same "data") kind.form.initial (kind.form.decode source)

def decode (source : Source) (v : Json) : Decode Node :=
  match v.members? with
  | none => Decode.complain .notAttributes
  | some m =>
      match m.find? "kind" with
      | none => Decode.complain .untagged
      | some (.str tag) =>
          match Kind.ofTag? tag with
          | some kind => Decode.under (.key tag) (readMembers kind source m)
          | none => Decode.complain .unknownTag
      | some _ => Decode.complain .unknownTag

def encode (n : Node) : Json :=
  .obj [("id", .str n.id), ("position", n.position.encode), ("displayId", .ofText? n.displayId),
    ("kind", .str n.kind.tag), ("data", n.payload.encode)]

def dumpFault? (n : Node) : Option Json.DumpFault := n.payload.dumpFault?

-- Whether the document of a node is not too deep to be written out as text, where it is followed
-- value by value as a whole.
def fits (n : Node) : Bool := (Json.looseFault? n.encode).isNone

-- The kind of a stored node, from either of the members that may hold it.
def storedKind (m : Members) : Option Json :=
  let kind := (m.find? "kind").getD .null
  let tag := if kind.isNull then (m.find? "type").getD .null else kind
  match tag with
  | .null => none
  | .str s => some (.str (Kind.currentTag s))
  | v => some v

-- Brings a stored node into today's shape: the kind may stand under `type` and may be an
-- older tag, and a display id inside the data is dropped.
def normalize (v : Json) : Json :=
  match v.members? with
  | none => v
  | some m =>
      let rest : Members := (m.erase "kind").erase "type"
      let tagged : Members := match storedKind m with
        | some kind => rest.insert "kind" kind
        | none => rest
      match (tagged.find? "data").bind Json.members? with
      | some data =>
          .obj (if data.has "displayId" then tagged.insert "data" (.obj (data.erase "displayId"))
            else tagged)
      | none => .obj tagged

inductive BuildFault where
  | kind (fault : Kind.Fault)
  | rejected (r : Rejection)
  deriving Repr

-- A value that is given, or the empty object.
def orEmpty (v : Json) : Json := if v.isGiven then v else .obj []

-- Builds a node from loose values. The kind is looked at first.
def build (id kind data position : Json) (s : Supply) : Except BuildFault (Node × Supply) :=
  match Kind.parse kind with
  | .error fault => .error (.kind fault)
  | .ok kind =>
      let document : Json := .obj [("id", id), ("kind", .str kind.tag), ("data", orEmpty data),
        ("position", orEmpty position)]
      match Decode.load title (decode .document document) s with
      | .ok built => .ok built
      | .error r => .error (.rejected r)

end Node
end Orchestration
