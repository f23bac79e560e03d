import Orchestration.Branch
import Orchestration.Catalog
import Orchestration.Step.RuleEdit

namespace Orchestration

def internalAudiences : List String := ["employee", "leader", "people_ops"]

def externalAudiences : List String := ["candidate", "vendor"]

def knownAudiences : List String := internalAudiences ++ externalAudiences

structure Subject where
  id : String
  label : String
  deriving DecidableEq, Repr

def Subject.description (s : Subject) : String :=
  if s.label = "" then s.id else "'" ++ s.label ++ "' (" ++ s.id ++ ")"

def Node.subject (n : Node) : Subject := ⟨n.id, n.payload.label⟩

inductive Issue where
  | emptyGraph
  | repeatedNodeId (id : String)
  | repeatedEdgeId (id : String)
  | negativeDelay (node : Subject)
  | missingTargetFlow (node : Subject)
  | unknownTargetFlow (node : Subject) (journeyId : String)
  | missingSwitchField (node : Subject)
  | tooManyRules (node : Subject) (count : Nat)
  | repeatedRuleId (node : Subject) (ruleId : String)
  | reservedRuleId (node : Subject)
  | unknownAudience (node : Subject) (audience : List String)
  | noInternalAudience (node : Subject)
  | missingWorkflow (node : Subject)
  | nonPositiveDelay (node : Subject)
  | emptyTagMutation (node : Subject)
  | missingEndpoint (edgeId : String) (ids : List String)
  | noBranchChosen (edgeId : String) (source : Subject)
  | unknownBranch (edgeId : String) (source : Subject) (handle : String)
  deriving DecidableEq, Repr

namespace Issue

def code : Issue → String
  | .emptyGraph => "empty_graph"
  | .repeatedNodeId _ => "duplicate_node_id"
  | .repeatedEdgeId _ => "duplicate_edge_id"
  | .negativeDelay _ => "invalid_delay"
  | .missingTargetFlow _ => "missing_target_flow"
  | .unknownTargetFlow .. => "unknown_target_flow"
  | .missingSwitchField _ => "missing_switch_field"
  | .tooManyRules .. => "too_many_rules"
  | .repeatedRuleId .. => "duplicate_rule_id"
  | .reservedRuleId _ => "reserved_rule_id"
  | .unknownAudience .. => "unknown_audience"
  | .noInternalAudience _ => "no_internal_audience"
  | .missingWorkflow _ => "missing_workflow"
  | .nonPositiveDelay _ => "invalid_delay"
  | .emptyTagMutation _ => "empty_tag_mutation"
  | .missingEndpoint .. => "missing_endpoint"
  | .noBranchChosen .. => "dangling_branch"
  | .unknownBranch .. => "dangling_branch"

def message : Issue → String
  | .emptyGraph => "Workflow must contain at least one node"
  | .repeatedNodeId id => "More than one node uses the id '" ++ id ++ "'"
  | .repeatedEdgeId id => "More than one edge uses the id '" ++ id ++ "'"
  | .negativeDelay n => "Node " ++ n.description ++ " has a negative delay"
  | .missingTargetFlow n => "Start flow node " ++ n.description ++ " must select a target flow"
  | .unknownTargetFlow n journey =>
      "Start flow node " ++ n.description ++ " targets unknown flow '" ++ journey ++ "'"
  | .missingSwitchField n =>
      "Conditional node " ++ n.description ++ " must name the field it branches on"
  | .tooManyRules n count =>
      "Conditional node " ++ n.description ++ " has " ++ toString count ++ " rules; at most " ++
        toString Conditional.maxRules ++ " are allowed"
  | .repeatedRuleId n rule =>
      "Conditional node " ++ n.description ++ " has more than one rule with id '" ++ rule ++ "'"
  | .reservedRuleId n =>
      "Conditional node " ++ n.description ++ " uses the reserved fallback handle '" ++
        Branch.fallbackHandle ++ "' as a rule id"
  | .unknownAudience n audience =>
      "Notification node " ++ n.description ++ " has unrecognized audience: " ++
        String.intercalate ", " audience
  | .noInternalAudience n =>
      "Notification node " ++ n.description ++ " must target at least one internal audience (" ++
        String.intercalate ", " internalAudiences ++ ")"
  | .missingWorkflow n => "Trigger workflow node " ++ n.description ++ " must select a workflow"
  | .nonPositiveDelay n => "Delay node " ++ n.description ++ " must wait a positive amount of time"
  | .emptyTagMutation n => "Tag node " ++ n.description ++ " must add or remove a tag"
  | .missingEndpoint edge ids =>
      "Edge " ++ edge ++ " references missing node(s): " ++ String.intercalate ", " ids
  | .noBranchChosen edge source =>
      "Edge " ++ edge ++ " leaves " ++ source.description ++ " without choosing a branch"
  | .unknownBranch edge source handle =>
      "Edge " ++ edge ++ " from " ++ source.description ++ " references unknown branch '" ++
        handle ++ "' (dangling branch)"

def nodeId? : Issue → Option String
  | .repeatedNodeId id => some id
  | .negativeDelay n | .missingTargetFlow n | .unknownTargetFlow n _ | .missingSwitchField n
  | .tooManyRules n _ | .repeatedRuleId n _ | .reservedRuleId n | .unknownAudience n _
  | .noInternalAudience n | .missingWorkflow n | .nonPositiveDelay n | .emptyTagMutation n
  | .noBranchChosen _ n | .unknownBranch _ n _ => some n.id
  | _ => none

def edgeId? : Issue → Option String
  | .repeatedEdgeId id | .missingEndpoint id _ | .noBranchChosen id _ | .unknownBranch id _ _ =>
      some id
  | _ => none

def encode (i : Issue) : Json :=
  .obj [("code", .str i.code), ("message", .str i.message), ("node_id", .ofText? i.nodeId?),
    ("edge_id", .ofText? i.edgeId?)]

-- An issue, if a condition holds.
def when (condition : Bool) (i : Issue) : List Issue := if condition then [i] else []

def ofStartFlow (n : Subject) (d : StartFlow) (catalog : Option Catalog) : List Issue :=
  let journey := Text.strip d.journeyId
  if journey = "" then [.missingTargetFlow n]
  else match catalog with
    | none => []
    | some c => when (!c.has journey) (.unknownTargetFlow n journey)

def ofConditional (n : Subject) (d : Conditional) : List Issue :=
  when (Text.isBlankText d.switchField) (.missingSwitchField n) ++
    when (Conditional.maxRules < d.rules.length) (.tooManyRules n d.rules.length) ++
    d.sharedIds.map (.repeatedRuleId n) ++
    when (d.rules.any (·.id == Branch.fallbackHandle)) (.reservedRuleId n)

def ofNotification (n : Subject) (d : Notification) : List Issue :=
  let unknown := d.audience.filter (!knownAudiences.contains ·)
  when (!unknown.isEmpty) (.unknownAudience n unknown) ++
    when (!d.audience.any (internalAudiences.contains ·)) (.noInternalAudience n)

def ofDetails (n : Subject) (delayValue : Int) (catalog : Option Catalog) : Details → List Issue
  | .startFlow d => ofStartFlow n d catalog
  | .conditional d => ofConditional n d
  | .notification d => ofNotification n d
  | .triggerWorkflow d => when (Text.isBlankText d.workflowId) (.missingWorkflow n)
  | .delay => when (delayValue ≤ 0) (.nonPositiveDelay n)
  | .tagMutation d =>
      when (Text.isBlankText d.addTag && Text.isBlankText d.removeTag) (.emptyTagMutation n)
  | _ => []

def ofNode (catalog : Option Catalog) (n : Node) : List Issue :=
  when (n.payload.delayValue < 0) (.negativeDelay n.subject) ++
    ofDetails n.subject n.payload.delayValue catalog n.payload.details

-- The issues of an edge. Where ids repeat, the last node stands for the id.
def ofEdge (g : Graph) (e : Edge) : List Issue :=
  let missing := [e.source, e.target].filter (!g.hasNode ·)
  if !missing.isEmpty then [.missingEndpoint e.id missing]
  else match g.lastNode? e.source with
    | none => []
    | some source =>
        if source.accepts e.sourceHandle then []
        else match e.sourceHandle with
          | none => [.noBranchChosen e.id source.subject]
          | some handle => [.unknownBranch e.id source.subject handle]

-- The texts that occur more than once, in the order in which they first occur.
def repeated (xs : List String) : List String := xs.eraseDups.filter (1 < xs.count ·)

end Issue

namespace Graph

-- Every issue of a graph. Of a graph without nodes nothing else is said.
def issues (g : Graph) (catalog : Option Catalog) : List Issue :=
  if g.nodes.isEmpty then [.emptyGraph]
  else
    (Issue.repeated (g.nodes.map Node.id)).map .repeatedNodeId ++
      (Issue.repeated (g.edges.map Edge.id)).map .repeatedEdgeId ++
      g.nodes.flatMap (Issue.ofNode catalog) ++ g.edges.flatMap (Issue.ofEdge g)

def problems (g : Graph) (catalog : Option Catalog) : List String :=
  (g.issues catalog).map Issue.message

def canPublish (g : Graph) (catalog : Option Catalog) : Bool := (g.issues catalog).isEmpty

theorem canPublish_iff (g : Graph) (catalog : Option Catalog) :
    g.canPublish catalog = true ↔ g.issues catalog = [] := by
  simp [canPublish]

end Graph
end Orchestration
