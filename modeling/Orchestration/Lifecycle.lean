import Orchestration.DisplayId.Walk
import Orchestration.Graph.Snapshot
import Orchestration.Issue
import Orchestration.Record

namespace Orchestration

-- An orchestrator is a draft, published, and in the end archived. Publishing is the one place where issues block.
inductive LifecycleFault where
  | notEditable (id : String) (status : Status)
  | notTriggerable (id : String) (status : Status)
  | publishArchived (id : String)
  | publishInvalid (id : String) (problems : List String)
  | notPublished (id : String)
  | alreadyArchived (id : String)
  | notCopied
  | notCompiled (fault : Json.DumpFault)
  deriving DecidableEq, Repr

namespace LifecycleFault

def message : LifecycleFault → String
  | .notEditable id status =>
      "Orchestrator " ++ id ++ " is " ++ status.tag ++ "; unpublish it before editing"
  | .notTriggerable id status =>
      "Orchestrator " ++ id ++ " is " ++ status.tag ++ "; only published orchestrators can be triggered"
  | .publishArchived id => "Orchestrator " ++ id ++ " is archived"
  | .publishInvalid id problems =>
      "Orchestrator " ++ id ++ " has " ++ toString problems.length ++ " validation error(s)"
  | .notPublished id => "Orchestrator " ++ id ++ " is not published"
  | .alreadyArchived id => "Orchestrator " ++ id ++ " is already archived"
  | .notCopied => "The graph is nested too deep to be copied"
  | .notCompiled fault => fault.message

def problems : LifecycleFault → List String
  | .publishInvalid _ problems => problems
  | _ => []

end LifecycleFault

namespace Orchestrator

def ensureEditable (o : Orchestrator) : Except LifecycleFault Unit :=
  if o.status = .draft then .ok () else .error (.notEditable o.id o.status)

def ensureTriggerable (o : Orchestrator) : Except LifecycleFault Unit :=
  if o.status = .published then .ok () else .error (.notTriggerable o.id o.status)

def relabel (o : Orchestrator) : Orchestrator := { o with graph := o.graph.relabel.graph }

def takeVersion (o : Orchestrator) (number : Int) (chain : Chain) (now : String) : Version :=
  { orchestratorId := o.id
    number := number
    graph := o.graph
    chain := chain
    publishedAt := some now
    createdAt := now }

structure Publication where
  orchestrator : Orchestrator
  version : Version

-- Publishes under a version number, unless the orchestrator is archived or has issues, or no
-- copy or no chain can be made of it.
def publish (o : Orchestrator) (number : Int) (catalog : Option Catalog) (now : String) :
    Noted (Except LifecycleFault Publication) :=
  if o.status = .archived then .quiet (.error (.publishArchived o.id))
  else
    let problems := o.graph.problems catalog
    if problems.isEmpty then
      let labeled := o.relabel
      if !labeled.graph.isCopyable then .quiet (.error .notCopied)
      else (labeled.toChain none).bind fun
        | .error fault => .quiet (.error (.notCompiled fault))
        | .ok chain =>
            let published :=
              { labeled with status := .published, publishedVersion := some number, updatedAt := some now }
            ⟨.ok ⟨published, labeled.takeVersion number chain now⟩,
              [.info ("published orchestrator " ++ o.id ++ " as version " ++ toString number)]⟩
    else .quiet (.error (.publishInvalid o.id problems))

def unpublish (o : Orchestrator) (now : String) : Noted (Except LifecycleFault Orchestrator) :=
  if o.status = .published then
    ⟨.ok { o with status := .draft, updatedAt := some now },
      [.info ("unpublished orchestrator " ++ o.id)]⟩
  else .quiet (.error (.notPublished o.id))

def archive (o : Orchestrator) (now : String) : Noted (Except LifecycleFault Orchestrator) :=
  if o.status = .archived then .quiet (.error (.alreadyArchived o.id))
  else
    ⟨.ok { o with status := .archived, updatedAt := some now },
      [.info ("archived orchestrator " ++ o.id)]⟩

end Orchestrator
end Orchestration
