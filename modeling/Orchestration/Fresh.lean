namespace Orchestration

-- Nobody here makes up a name. A numbering of names is given, counted from one, and how many of them are taken.
-- Names are drawn in order.
structure Supply where
  name : Nat → String
  drawn : Nat

namespace Supply

def draw (s : Supply) : String × Supply :=
  (s.name (s.drawn + 1), { s with drawn := s.drawn + 1 })

-- The part of a name that ids of nodes and rules carry.
def short (name : String) : String := String.ofList (name.toList.take 8)

def nodeId (s : Supply) : String × Supply :=
  let (name, s) := s.draw
  ("node-" ++ short name, s)

def ruleId (s : Supply) : String × Supply :=
  let (name, s) := s.draw
  ("rule-" ++ short name, s)

end Supply
end Orchestration
