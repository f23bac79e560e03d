import Orchestration.Execution.Basic
import Orchestration.Sort.Natural
import Orchestration.Instant.Reader

namespace Orchestration

structure Activity where
  nodeId : String
  nodeLabel : String
  successes : Nat
  warnings : Nat
  errors : Nat
  deriving DecidableEq, Repr

namespace Activity

def total (a : Activity) : Nat := a.successes + a.warnings + a.errors

def encode (a : Activity) : Json :=
  .obj [("node_id", .str a.nodeId), ("node_label", .str a.nodeLabel),
    ("success_count", .int a.successes), ("warning_count", .int a.warnings),
    ("error_count", .int a.errors)]

-- More errors come first; among equals the ids decide.
def before (a b : Activity) : Bool :=
  b.errors < a.errors || (a.errors == b.errors && a.nodeId < b.nodeId)

end Activity

structure Summary where
  total : Nat
  successes : Nat
  warnings : Nat
  errors : Nat
  score : Binary64
  lastExecution : Option String
  byNode : List Activity
  deriving DecidableEq, Repr

namespace Event

def countOf (status : EventStatus) (events : List Event) : Nat :=
  (events.filter (·.status == status)).length

def labelOf (events : List Event) : String :=
  ((events.map Event.nodeLabel).find? (· != "")).getD ""

def activity (events : List Event) (nodeId : String) : Activity :=
  let own := events.filter (·.nodeId == nodeId)
  ⟨nodeId, labelOf own, countOf .success own, countOf .warning own, countOf .error own⟩

-- The first of the greatest, with regard to a value for each.
def firstGreatest (value : α → β) (lt : β → β → Bool) : List α → Option α
  | [] => none
  | x :: rest => some (rest.foldl (fun best y => if lt (value best) (value y) then y else best) x)

-- The instants of timestamps, if each is one and all are of one kind.
def instants? (timestamps : List String) : Option (List (String × Instant)) := do
  let read ← timestamps.mapM fun t => (Instant.parse t).map fun i => (t, i)
  if read.all (·.2.absolute) || read.all (!·.2.absolute) then some read else none

-- The latest timestamp. Timestamps that cannot all be compared as instants are compared as
-- texts.
def latest? (timestamps : List String) : Option String :=
  match instants? timestamps with
  | some read => (firstGreatest (·.2.micros) (fun a b : Int => a < b) read).map (·.1)
  | none => firstGreatest (fun t => t) (fun a b : String => a < b) timestamps

def score (total errors : Nat) : Binary64 :=
  ((Binary64.ofQuotient false (total - errors) total).scaleBy 100).roundToTenth

def summarize (events : List Event) : Summary :=
  let errors := countOf .error events
  { total := events.length
    successes := countOf .success events
    warnings := countOf .warning events
    errors := errors
    score := if events.isEmpty then Binary64.ofInt 100 else score events.length errors
    lastExecution := latest? (events.map Event.timestamp)
    byNode := Sort.sort Activity.before
      ((events.map Event.nodeId).eraseDups.map (activity events)) }

end Event

namespace Summary

def members (s : Summary) : Members :=
  [("total", .int s.total), ("success_count", .int s.successes), ("warning_count", .int s.warnings),
    ("error_count", .int s.errors), ("execution_health", .float s.score),
    ("last_execution", .ofText? s.lastExecution), ("by_node", .arr (s.byNode.map Activity.encode))]

def encode (s : Summary) : Json := .obj s.members

end Summary

example : Event.score 3 1 = Binary64.ofDecimal false 667 (-1) ∧ Event.score 8 0 = Binary64.ofInt 100 := by
  decide +kernel

end Orchestration
