import Orchestration.Graph.Basic

namespace Orchestration

-- A conditional step has one branch for each rule, in order, and always ends with the fallback. A rule whose id is
-- taken by an earlier rule or by the fallback gives no branch.
structure Branch where
  handle : String
  label : String
  deriving DecidableEq, Repr

namespace Branch

-- The handle of the fallback, which no rule may use.
def fallbackHandle : String := "else-handle"

def fallback : Branch := ⟨fallbackHandle, "Default"⟩

def approved : Branch := ⟨"approved", "Approved"⟩

def rejected : Branch := ⟨"rejected", "Rejected"⟩

-- The single branch of a step that does not branch.
def next : Branch := ⟨"success", "Next"⟩

-- A rule without a label is called by its place in the list, counted from one.
def ruleLabel (index : Nat) (r : Rule) : String :=
  if r.label = "" then "Rule " ++ toString (index + 1) else r.label

-- The branches of the rules from `index` on whose ids are not among the taken ones.
def ofRules (taken : List String) (index : Nat) : List Rule → List Branch
  | [] => []
  | r :: rest =>
      if taken.contains r.id then ofRules taken (index + 1) rest
      else ⟨r.id, ruleLabel index r⟩ :: ofRules (r.id :: taken) (index + 1) rest

end Branch

def Conditional.branches (c : Conditional) : List Branch :=
  Branch.ofRules [Branch.fallbackHandle] 0 c.rules ++ [Branch.fallback]

-- The ids that two or more rules share. They come in the order in which the second use
-- of each is met.
def Conditional.sharedIds (c : Conditional) : List String :=
  go [] [] c.rules
where
  go (seen shared : List String) : List Rule → List String
    | [] => []
    | r :: rest =>
        if seen.contains r.id && !shared.contains r.id then r.id :: go seen (r.id :: shared) rest
        else go (r.id :: seen) shared rest

namespace Node

def branches (n : Node) : List Branch :=
  match n.payload.details with
  | .conditional c => c.branches
  | .humanApproval _ => [.approved, .rejected]
  | _ => [.next]

-- Whether an edge may leave the node through a handle, or without one.
def accepts (n : Node) : Option String → Bool
  | none => !n.kind.isBranching
  | some handle => n.branches.any (·.handle == handle)

-- The label of an edge that leaves through a handle. Steps that do not branch give none.
def branchLabel (n : Node) : Option String → Option String
  | none => none
  | some handle =>
      if n.kind.isBranching then (n.branches.find? (·.handle == handle)).map Branch.label else none

end Node

namespace Branch

theorem ofRules_handles_not_taken {taken : List String} {index : Nat} {rules : List Rule}
    {b : Branch} (h : b ∈ ofRules taken index rules) : b.handle ∉ taken := by
  induction rules generalizing taken index with
  | nil => simp [ofRules] at h
  | cons r rest ih =>
    simp only [ofRules] at h
    split at h
    · exact ih h
    · rename_i free
      rcases List.mem_cons.1 h with rfl | h
      · simpa using free
      · exact fun mem => ih h (List.mem_cons_of_mem _ mem)

theorem ofRules_handles_nodup (taken : List String) (index : Nat) (rules : List Rule) :
    ((ofRules taken index rules).map Branch.handle).Nodup := by
  induction rules generalizing taken index with
  | nil => simp [ofRules]
  | cons r rest ih =>
    unfold ofRules
    split
    · exact ih taken (index + 1)
    · rw [List.map_cons, List.nodup_cons]
      refine ⟨fun mem => ?_, ih (r.id :: taken) (index + 1)⟩
      obtain ⟨b, hb, same⟩ := List.mem_map.1 mem
      exact ofRules_handles_not_taken hb (same ▸ List.mem_cons_self)

end Branch
end Orchestration
