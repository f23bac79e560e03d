import Orchestration.Chain.Compile

namespace Orchestration.Chain

-- Pointers that lead nowhere are dropped, and a first action that is not the entry of the graph is lost, for a graph
-- has no field for its entry. Both are told in notices. Nodes are built one after the other, so one that cannot be
-- built ends the rebuilding after the notices for those before it.
def edgeOf (c : Chain) (key : String) (a : Action) : Noted (Option Edge) :=
  match a.nextAction with
  | none => .quiet none
  | some target =>
      if target = "" then .quiet none
      else if c.actions.has target then
        .quiet (some ⟨Edge.conventionalId key target none, key, target, a.nextHandle, none⟩)
      else
        ⟨none, [.warning ("action " ++ key ++ " points at unknown next action " ++ target ++
          "; edge skipped")]⟩

def parts (c : Chain) (s : Supply) : Keyed Action →
    Noted (Except Node.BuildFault ((List Node × List Edge) × Supply))
  | [] => .quiet (.ok (([], []), s))
  | (key, a) :: rest =>
      match Node.build (.str key) (.str a.kind.tag) (.obj a.args) a.position.encode s with
      | .error fault => .quiet (.error fault)
      | .ok (n, s) =>
          (c.edgeOf key a).bind fun edge =>
            (parts c s rest).map fun
              | .ok ((ns, es), s) => .ok ((n :: ns, edge.toList ++ es), s)
              | .error fault => .error fault

def entryNotice (first entry : Option String) : List Notice :=
  match first with
  | none => []
  | some f =>
      if f = "" || entry == some f then []
      else [.warning ("chain starts at " ++ f ++ " but the rebuilt graph enters at " ++
        Json.shown (.ofText? entry))]

def toGraph (c : Chain) (s : Supply) : Noted (Except Node.BuildFault (Graph × Supply)) :=
  (c.parts s c.actions).bind fun
    | .error fault => .quiet (.error fault)
    | .ok ((nodes, edges), s) =>
        let g : Graph := ⟨nodes, edges⟩
        ⟨.ok (g, s), entryNotice c.firstAction g.entry?⟩

end Orchestration.Chain
