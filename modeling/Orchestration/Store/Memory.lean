import Orchestration.Graph.Snapshot
import Orchestration.Record

namespace Orchestration

-- Orchestrators under their ids, in the order in which the ids first came. One that cannot be copied is not kept.
structure MemoryStore where
  records : Keyed Orchestrator

namespace MemoryStore

def empty : MemoryStore := ⟨[]⟩

def load? (s : MemoryStore) (id : String) : Option Orchestrator := s.records.find? id

def save? (s : MemoryStore) (o : Orchestrator) : Option MemoryStore :=
  if o.graph.isCopyable then some ⟨s.records.insert o.id o⟩ else none

def ids (s : MemoryStore) : List String := s.records.map (·.1)

end MemoryStore
end Orchestration
