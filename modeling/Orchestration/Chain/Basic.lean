import Orchestration.Graph.Basic

namespace Orchestration

structure Action where
  kind : Kind
  args : Members
  nextAction : Option String
  -- The handle of the edge that became the pointer.
  nextHandle : Option String
  fallback : Json
  delayDay : Option Int
  position : Position

namespace Action

def decodePosition (source : Source) (v : Json) : Decode Position :=
  Decode.record source v fun m =>
    Decode.field m (.same "position") (pure Position.origin) (Position.decode source)

def decode (source : Source) (v : Json) : Decode Action :=
  Decode.record source v fun m =>
    Action.mk <$> Decode.required m (.same "type")
        (Decode.choice fun tag => Kind.ofTag? (Kind.currentTag tag))
      <*> Decode.field m (.same "args") (pure []) Decode.object
      <*> Decode.field m ⟨"nextAction", "next_action"⟩ (pure none) (Decode.optional Decode.text)
      <*> Decode.field m ⟨"nextHandle", "next_handle"⟩ (pure none) (Decode.optional Decode.text)
      <*> Decode.field m (.same "fallback") (pure .null) pure
      <*> Decode.field m ⟨"delayDay", "delay_day"⟩ (pure none) (Decode.optional Decode.integer)
      <*> Decode.field m (.same "ui") (pure Position.origin) (decodePosition source)

-- In the arguments and the fallback a number that is not finite becomes null.
def encode (a : Action) : Json :=
  .obj [("type", .str a.kind.tag), ("args", .obj (Json.finiteMembers a.args)),
    ("nextAction", .ofText? a.nextAction), ("nextHandle", .ofText? a.nextHandle),
    ("fallback", a.fallback.finiteOnly), ("delayDay", .ofInt? a.delayDay),
    ("ui", .obj [("position", a.position.encode)])]

def dumpFault? (a : Action) : Option Json.DumpFault :=
  match Json.looseFaults? a.args with
  | some fault => some fault
  | none => Json.looseFault? a.fallback

end Action

structure Chain where
  id : Option String
  workspaceId : Option String
  name : String
  firstAction : Option String
  actions : Keyed Action

namespace Chain

def title : String := "ActionChain"

def decode (source : Source) (v : Json) : Decode Chain :=
  Decode.record source v fun m =>
    Chain.mk <$> Decode.field m ⟨"_id", "id"⟩ (pure none) (Decode.optional Decode.text)
      <*> Decode.field m ⟨"workspaceId", "workspace_id"⟩ (pure none) (Decode.optional Decode.text)
      <*> Decode.field m (.same "name") (pure "") Decode.text
      <*> Decode.field m ⟨"firstAction", "first_action"⟩ (pure none) (Decode.optional Decode.text)
      <*> Decode.field m (.same "actions") (pure []) (Decode.mapOf (Action.decode source))

def encode (c : Chain) : Json :=
  .obj [("_id", .ofText? c.id), ("workspaceId", .ofText? c.workspaceId), ("name", .str c.name),
    ("firstAction", .ofText? c.firstAction),
    ("actions", .obj (c.actions.map fun (key, a) => (key, a.encode)))]

def dumpFault? (c : Chain) : Option Json.DumpFault :=
  c.actions.findSome? fun (key, a) => if Text.hasHalf key then some .brokenKey else a.dumpFault?

-- Whether a chain can be written out as text.
def isWritable (c : Chain) : Bool := c.dumpFault?.isNone && !c.encode.hasHalf

end Chain
end Orchestration
