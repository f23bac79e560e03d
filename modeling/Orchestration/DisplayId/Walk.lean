import Orchestration.DisplayId.Letters
import Orchestration.DisplayId.Order

namespace Orchestration

-- Each root that is still free opens a new letter. From a node its first free child goes on with the letter, and
-- every other free child opens one of its own. A label is a branch, counted from zero, and a number in it, counted
-- from one.
structure DisplayId where
  branch : Nat
  number : Nat
  deriving DecidableEq, Repr

namespace DisplayId

def text (d : DisplayId) : String := Letters.ofIndex d.branch ++ toString d.number

-- Where a walk stands: what it has claimed, what is free, how many branches are open.
structure Walk where
  claimed : Keyed DisplayId
  free : List String
  opened : Nat

namespace Walk

def start (ids : List String) : Walk := ⟨[], ids, 0⟩

-- The number that the next node of a branch gets.
def nextNumber (w : Walk) (branch : Nat) : Nat :=
  (w.claimed.filter (·.2.branch == branch)).length + 1

def claim (w : Walk) (id : String) (branch : Nat) : Walk :=
  { w with claimed := w.claimed ++ [(id, ⟨branch, w.nextNumber branch⟩)], free := w.free.erase id }

def openBranch (w : Walk) : Nat × Walk := (w.opened, { w with opened := w.opened + 1 })

-- Claims the free ones among the children of a node, and gives them with their branches.
-- Once one of them has continued the branch of the node, the others open new ones.
def spread (w : Walk) (branch : Nat) (continued : Bool) : List String → Walk × List (String × Nat)
  | [] => (w, [])
  | c :: rest =>
      if c ∉ w.free then spread w branch continued rest
      else if continued then
        let (fresh, w) := w.openBranch
        let (w, more) := spread (w.claim c fresh) branch true rest
        (w, (c, fresh) :: more)
      else
        let (w, more) := spread (w.claim c branch) branch true rest
        (w, (c, branch) :: more)

theorem length_spread (w : Walk) (branch : Nat) (continued : Bool) (cs : List String) :
    (w.spread branch continued cs).1.free.length + (w.spread branch continued cs).2.length =
      w.free.length := by
  induction cs generalizing w continued with
  | nil => simp [spread]
  | cons c rest ih =>
    unfold spread
    split
    · exact ih w continued
    · rename_i mem
      have mem : c ∈ w.free := by simpa using mem
      have pos := List.length_pos_of_mem mem
      have shorter := List.length_erase_of_mem mem
      cases continued with
      | true =>
        have := ih (w.openBranch.2.claim c w.openBranch.1) true
        simp only [openBranch, claim] at this ⊢
        simp only [if_true, List.length_cons]
        omega
      | false =>
        have := ih (w.claim c branch) true
        simp only [claim] at this ⊢
        simp only [Bool.false_eq_true, if_false, List.length_cons]
        omega

-- Walks on from the nodes in the queue, first in, first out, until it is empty.
def drain (children : String → List String) (w : Walk) : List (String × Nat) → Walk
  | [] => w
  | (id, branch) :: queue =>
      drain children (w.spread branch false (children id)).1
        (queue ++ (w.spread branch false (children id)).2)
termination_by queue => w.free.length + queue.length
decreasing_by
  have := length_spread w branch false (children id)
  simp only [List.length_append, List.length_cons]
  omega

def fromRoot (children : String → List String) (w : Walk) (root : String) : Walk :=
  if root ∈ w.free then
    let (fresh, w) := w.openBranch
    drain children (w.claim root fresh) [(root, fresh)]
  else w

end Walk
end DisplayId

namespace Graph

def walk (g : Graph) : DisplayId.Walk :=
  (g.roots.map Node.id).foldl (DisplayId.Walk.fromRoot g.children) (DisplayId.Walk.start g.ids)

def displayIds (g : Graph) : Keyed (Option String) :=
  let claimed := g.walk.claimed
  g.ids.map fun id => (id, (claimed.find? id).map DisplayId.text)

-- A graph that carries fresh display ids, and the ids whose display id was another one.
structure Relabeled where
  graph : Graph
  changed : List String

def relabel (g : Graph) : Relabeled :=
  let claimed := g.walk.claimed
  let fresh (n : Node) : Option String := (claimed.find? n.id).map DisplayId.text
  { graph := { g with nodes := g.nodes.map fun n => { n with displayId := fresh n } },
    changed := (g.nodes.filter fun n => n.displayId != fresh n).map Node.id }

end Graph
end Orchestration
