import Orchestration.Step.Payload

namespace Orchestration

structure Trigger where
  method : String
  endpoint : String
  authType : Option String
  integrationId : Option String
  integrationActive : Bool
  deriving DecidableEq, Repr

structure StartFlow where
  -- The flow that is started, an id of the catalog.
  journeyId : String
  deriving DecidableEq, Repr

structure Conditional where
  switchField : String
  rules : List Rule
  deriving DecidableEq, Repr

structure HumanApproval where
  assignee : String
  description : String
  -- In hours.
  timeout : Int
  deriving DecidableEq, Repr

structure Notification where
  channel : Channel
  audience : List String
  recipients : String
  message : String
  templateId : Option String
  deriving DecidableEq, Repr

structure TagMutation where
  addTag : String
  removeTag : String
  deriving DecidableEq, Repr

structure RegisterEmployee where
  system : String
  deriving DecidableEq, Repr

structure SystemUpdate where
  system : String
  action : String
  payload : String
  deriving DecidableEq, Repr

structure CsvUpload where
  templateId : Option String
  fileName : Option String
  deriving DecidableEq, Repr

structure TriggerWorkflow where
  workflowId : String
  deriving DecidableEq, Repr

namespace Trigger

def write (d : Trigger) : Members :=
  [("method", .str d.method), ("endpoint", .str d.endpoint), ("authType", .ofText? d.authType),
    ("integrationId", .ofText? d.integrationId), ("integrationActive", .bool d.integrationActive)]

def form : Form Trigger :=
  { title := "TriggerData", delayValue := 0, delayUnit := .minutes,
    fields := [.same "method", .same "endpoint", ⟨"authType", "auth_type"⟩,
      ⟨"integrationId", "integration_id"⟩, ⟨"integrationActive", "integration_active"⟩],
    read := fun _ m =>
      Trigger.mk <$> Decode.field m (.same "method") (pure "POST") Decode.text
        <*> Decode.field m (.same "endpoint") (pure "") Decode.text
        <*> Decode.field m ⟨"authType", "auth_type"⟩ (pure none) (Decode.optional Decode.text)
        <*> Decode.field m ⟨"integrationId", "integration_id"⟩ (pure none) (Decode.optional Decode.text)
        <*> Decode.field m ⟨"integrationActive", "integration_active"⟩ (pure false) Decode.bool,
    write := write, migrate := .ok }

end Trigger

namespace StartFlow

def write (d : StartFlow) : Members := [("journeyId", .str d.journeyId)]

def form : Form StartFlow :=
  { title := "StartFlowData", delayValue := 0, delayUnit := .minutes,
    fields := [⟨"journeyId", "journey_id"⟩],
    read := fun _ m =>
      StartFlow.mk <$> Decode.field m ⟨"journeyId", "journey_id"⟩ (pure "") Decode.text,
    write := write, migrate := .ok }

end StartFlow

namespace Conditional

def write (d : Conditional) : Members :=
  [("switchField", .str d.switchField), ("rules", .arr (d.rules.map Rule.encode))]

-- The rule for one case of the older form, in which a case was a value and a label.
def ruleOfCase (field : Json) (value : String) (label : Json) : Json :=
  .obj [("id", .str value), ("label", .str (Json.shown label)), ("field", field),
    ("operator", .str Comparison.equals.tag), ("value", .str value)]

def migrate (m : Members) : Except Refusal Members :=
  let cases := (m.find? "cases").getD .null
  let rules := (m.find? "rules").getD .null
  if !cases.isGiven || rules.isGiven then .ok m
  else match cases with
    | .obj cases =>
        let field := (m.find? "switchField").getD ((m.find? "switch_field").getD (.str ""))
        .ok ((m.erase "cases").insert "rules"
          (.arr (cases.map fun (value, label) => ruleOfCase field value label)))
    | _ => .error .malformedCases

def form : Form Conditional :=
  { title := "ConditionalData", delayValue := 0, delayUnit := .minutes,
    fields := [⟨"switchField", "switch_field"⟩, .same "rules"],
    read := fun source m =>
      Conditional.mk <$> Decode.field m ⟨"switchField", "switch_field"⟩ (pure "") Decode.text
        <*> Decode.field m (.same "rules") (pure []) (Decode.list (Rule.decode source)),
    write := write, migrate := migrate }

end Conditional

namespace HumanApproval

def write (d : HumanApproval) : Members :=
  [("assignee", .str d.assignee), ("description", .str d.description), ("timeout", .int d.timeout)]

def form : Form HumanApproval :=
  { title := "HumanApprovalData", delayValue := 0, delayUnit := .minutes,
    fields := [.same "assignee", .same "description", .same "timeout"],
    read := fun _ m =>
      HumanApproval.mk <$> Decode.field m (.same "assignee") (pure "") Decode.text
        <*> Decode.field m (.same "description") (pure "") Decode.text
        <*> Decode.field m (.same "timeout") (pure 24) Decode.integer,
    write := write, migrate := .ok }

end HumanApproval

namespace Notification

def write (d : Notification) : Members :=
  [("channel", .str d.channel.tag), ("audience", .arr (d.audience.map .str)),
    ("recipients", .str d.recipients), ("message", .str d.message),
    ("templateId", .ofText? d.templateId)]

-- The audiences in a text that lists them between commas. Blank ones are left out.
def audienceOfText (s : String) : List String :=
  ((s.splitOn ",").map Text.strip).filter (· != "")

def decodeAudience : Json → Decode (List String)
  | .str s => pure (audienceOfText s)
  | v => Decode.list Decode.text v

def form : Form Notification :=
  { title := "NotificationData", delayValue := 0, delayUnit := .minutes,
    fields := [.same "channel", .same "audience", .same "recipients", .same "message",
      ⟨"templateId", "template_id"⟩],
    read := fun _ m =>
      Notification.mk <$> Decode.field m (.same "channel") (pure .email) (Decode.choice Channel.ofTag?)
        <*> Decode.field m (.same "audience") (pure []) decodeAudience
        <*> Decode.field m (.same "recipients") (pure "") Decode.text
        <*> Decode.field m (.same "message") (pure "") Decode.text
        <*> Decode.field m ⟨"templateId", "template_id"⟩ (pure none) (Decode.optional Decode.text),
    write := write, migrate := .ok }

end Notification

namespace TagMutation

def write (d : TagMutation) : Members :=
  [("addTag", .str d.addTag), ("removeTag", .str d.removeTag)]

def form : Form TagMutation :=
  { title := "TagMutationData", delayValue := 0, delayUnit := .minutes,
    fields := [⟨"addTag", "add_tag"⟩, ⟨"removeTag", "remove_tag"⟩],
    read := fun _ m =>
      TagMutation.mk <$> Decode.field m ⟨"addTag", "add_tag"⟩ (pure "") Decode.text
        <*> Decode.field m ⟨"removeTag", "remove_tag"⟩ (pure "") Decode.text,
    write := write, migrate := .ok }

end TagMutation

def delayForm : Form Unit :=
  { Form.bare with title := "DelayData", delayValue := 1, delayUnit := .days }

namespace RegisterEmployee

def write (d : RegisterEmployee) : Members := [("system", .str d.system)]

def form : Form RegisterEmployee :=
  { title := "RegisterEmployeeData", delayValue := 0, delayUnit := .minutes,
    fields := [.same "system"],
    read := fun _ m =>
      RegisterEmployee.mk <$> Decode.field m (.same "system") (pure "") Decode.text,
    write := write, migrate := .ok }

end RegisterEmployee

namespace SystemUpdate

def write (d : SystemUpdate) : Members :=
  [("system", .str d.system), ("action", .str d.action), ("payload", .str d.payload)]

def form : Form SystemUpdate :=
  { title := "SystemUpdateData", delayValue := 0, delayUnit := .minutes,
    fields := [.same "system", .same "action", .same "payload"],
    read := fun _ m =>
      SystemUpdate.mk <$> Decode.field m (.same "system") (pure "") Decode.text
        <*> Decode.field m (.same "action") (pure "") Decode.text
        <*> Decode.field m (.same "payload") (pure "") Decode.text,
    write := write, migrate := .ok }

end SystemUpdate

namespace CsvUpload

def write (d : CsvUpload) : Members :=
  [("templateId", .ofText? d.templateId), ("fileName", .ofText? d.fileName)]

def form : Form CsvUpload :=
  { title := "CsvUploadData", delayValue := 0, delayUnit := .minutes,
    fields := [⟨"templateId", "template_id"⟩, ⟨"fileName", "file_name"⟩],
    read := fun _ m =>
      CsvUpload.mk <$> Decode.field m ⟨"templateId", "template_id"⟩ (pure none) (Decode.optional Decode.text)
        <*> Decode.field m ⟨"fileName", "file_name"⟩ (pure none) (Decode.optional Decode.text),
    write := write, migrate := .ok }

end CsvUpload

namespace TriggerWorkflow

def write (d : TriggerWorkflow) : Members := [("workflowId", .str d.workflowId)]

def form : Form TriggerWorkflow :=
  { title := "TriggerWorkflowData", delayValue := 0, delayUnit := .minutes,
    fields := [⟨"workflowId", "workflow_id"⟩],
    read := fun _ m =>
      TriggerWorkflow.mk <$> Decode.field m ⟨"workflowId", "workflow_id"⟩ (pure "") Decode.text,
    write := write, migrate := .ok }

end TriggerWorkflow

inductive Details where
  | trigger (d : Trigger)
  | startFlow (d : StartFlow)
  | conditional (d : Conditional)
  | humanApproval (d : HumanApproval)
  | notification (d : Notification)
  | tagMutation (d : TagMutation)
  | delay
  | registerEmployee (d : RegisterEmployee)
  | systemUpdate (d : SystemUpdate)
  | csvUpload (d : CsvUpload)
  | triggerWorkflow (d : TriggerWorkflow)
  deriving DecidableEq, Repr

namespace Details

def kind : Details → Kind
  | .trigger _ => .trigger
  | .startFlow _ => .startFlow
  | .conditional _ => .conditional
  | .humanApproval _ => .humanApproval
  | .notification _ => .notification
  | .tagMutation _ => .tagMutation
  | .delay => .delay
  | .registerEmployee _ => .registerEmployee
  | .systemUpdate _ => .systemUpdate
  | .csvUpload _ => .csvUpload
  | .triggerWorkflow _ => .triggerWorkflow

def write : Details → Members
  | .trigger d => d.write
  | .startFlow d => d.write
  | .conditional d => d.write
  | .humanApproval d => d.write
  | .notification d => d.write
  | .tagMutation d => d.write
  | .delay => []
  | .registerEmployee d => d.write
  | .systemUpdate d => d.write
  | .csvUpload d => d.write
  | .triggerWorkflow d => d.write

end Details

def Kind.form : Kind → Form Details
  | .trigger => Trigger.form.lift .trigger Details.write
  | .startFlow => StartFlow.form.lift .startFlow Details.write
  | .conditional => Conditional.form.lift .conditional Details.write
  | .humanApproval => HumanApproval.form.lift .humanApproval Details.write
  | .notification => Notification.form.lift .notification Details.write
  | .tagMutation => TagMutation.form.lift .tagMutation Details.write
  | .delay => delayForm.lift (fun _ => .delay) Details.write
  | .registerEmployee => RegisterEmployee.form.lift .registerEmployee Details.write
  | .systemUpdate => SystemUpdate.form.lift .systemUpdate Details.write
  | .csvUpload => CsvUpload.form.lift .csvUpload Details.write
  | .triggerWorkflow => TriggerWorkflow.form.lift .triggerWorkflow Details.write

namespace Payload

def kind (p : Payload Details) : Kind := p.details.kind

def encode (p : Payload Details) : Json := p.kind.form.encode p

-- The rules of a conditional step; none for any other kind.
def rules (p : Payload Details) : List Rule :=
  match p.details with
  | .conditional c => c.rules
  | _ => []

def merge (p : Payload Details) (patch : Members) : Decode (Payload Details) :=
  p.kind.form.merge p patch

end Payload
end Orchestration
