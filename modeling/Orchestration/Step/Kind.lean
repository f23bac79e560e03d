import Orchestration.Json.Display

namespace Orchestration

inductive Kind where
  | trigger
  | startFlow
  | conditional
  | humanApproval
  | notification
  | tagMutation
  | delay
  | registerEmployee
  | systemUpdate
  | csvUpload
  | triggerWorkflow
  deriving DecidableEq, Repr

namespace Kind

def all : List Kind :=
  [.trigger, .startFlow, .conditional, .humanApproval, .notification, .tagMutation, .delay,
    .registerEmployee, .systemUpdate, .csvUpload, .triggerWorkflow]

def tag : Kind → String
  | .trigger => "trigger"
  | .startFlow => "start_flow"
  | .conditional => "conditional"
  | .humanApproval => "human_approval"
  | .notification => "notification"
  | .tagMutation => "tag_mutation"
  | .delay => "delay"
  | .registerEmployee => "register_employee"
  | .systemUpdate => "system_update"
  | .csvUpload => "csv_upload"
  | .triggerWorkflow => "trigger_workflow"

def ofTag? (tag : String) : Option Kind := all.find? (·.tag == tag)

-- Older tags and the tags that replaced them.
def formerTags : List (String × String) :=
  [("startFlow", "start_flow"), ("journey", "start_flow"), ("decision", "conditional"),
    ("humanInTheLoop", "human_approval"), ("setTag", "tag_mutation"), ("tagManager", "tag_mutation"),
    ("registerEmployee", "register_employee"), ("systemUpdate", "system_update"),
    ("csvUpload", "csv_upload"), ("triggerWorkflow", "trigger_workflow")]

def currentTag (tag : String) : String := (formerTags.lookup tag).getD tag

inductive Fault where
  | unknown (value : Json)
  | notTag
  deriving Repr

def Fault.message : Fault → String
  | .unknown value => "Unknown node kind: " ++ Json.shown value
  | .notTag => "A node kind must be a plain value"

def parse : Json → Except Fault Kind
  | .str s =>
      match ofTag? (currentTag s) with
      | some kind => .ok kind
      | none => .error (.unknown (.str s))
  | .arr _ => .error .notTag
  | .obj _ => .error .notTag
  | v => .error (.unknown v)

-- Kinds that can be the entry of a workflow.
def isStart : Kind → Bool
  | .trigger => true
  | .startFlow => true
  | _ => false

-- Kinds whose outgoing edges have to name a branch.
def isBranching : Kind → Bool
  | .conditional => true
  | .humanApproval => true
  | _ => false

theorem ofTag?_tag (kind : Kind) : ofTag? kind.tag = some kind := by
  cases kind <;> decide

theorem eq_of_tag {j k : Kind} (same : j.tag = k.tag) : j = k := by
  have read := congrArg ofTag? same
  rw [ofTag?_tag, ofTag?_tag] at read
  exact Option.some.inj read

theorem tag_of_ofTag? {name : String} {kind : Kind} (known : ofTag? name = some kind) : kind.tag = name := by
  simpa using List.find?_some known

theorem currentTag_tag (kind : Kind) : currentTag kind.tag = kind.tag := by
  cases kind <;> decide

theorem parse_tag (kind : Kind) : parse (.str kind.tag) = .ok kind := by
  simp [parse, currentTag_tag, ofTag?_tag]

end Kind

inductive DelayUnit where
  | minutes
  | hours
  | days
  deriving DecidableEq, Repr

namespace DelayUnit

def tag : DelayUnit → String
  | .minutes => "minutes"
  | .hours => "hours"
  | .days => "days"

def ofTag? (tag : String) : Option DelayUnit := [minutes, hours, days].find? (·.tag == tag)

theorem ofTag?_tag (unit : DelayUnit) : ofTag? unit.tag = some unit := by
  cases unit <;> decide

theorem eq_of_tag {a b : DelayUnit} (same : a.tag = b.tag) : a = b := by
  have read := congrArg ofTag? same
  rw [ofTag?_tag, ofTag?_tag] at read
  exact Option.some.inj read

end DelayUnit

inductive Channel where
  | email
  | slack
  | teams
  | whatsapp
  | sms
  | telegram
  deriving DecidableEq, Repr

namespace Channel

def tag : Channel → String
  | .email => "email"
  | .slack => "slack"
  | .teams => "teams"
  | .whatsapp => "whatsapp"
  | .sms => "sms"
  | .telegram => "telegram"

def ofTag? (tag : String) : Option Channel :=
  [email, slack, teams, whatsapp, sms, telegram].find? (·.tag == tag)

theorem ofTag?_tag (channel : Channel) : ofTag? channel.tag = some channel := by
  cases channel <;> decide

end Channel

inductive Comparison where
  | equals
  | notEquals
  | gt
  | lt
  | gte
  | lte
  | contains
  deriving DecidableEq, Repr

namespace Comparison

def tag : Comparison → String
  | .equals => "equals"
  | .notEquals => "not_equals"
  | .gt => "gt"
  | .lt => "lt"
  | .gte => "gte"
  | .lte => "lte"
  | .contains => "contains"

def ofTag? (tag : String) : Option Comparison :=
  [equals, notEquals, gt, lt, gte, lte, contains].find? (·.tag == tag)

theorem ofTag?_tag (comparison : Comparison) : ofTag? comparison.tag = some comparison := by
  cases comparison <;> decide

end Comparison
end Orchestration
