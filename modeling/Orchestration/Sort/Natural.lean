import Orchestration.Sort.Merge
import Orchestration.Sort.Run

namespace Orchestration.Sort

-- Natural runs are found and merged, the deeper first that a perfectly balanced tree over the list would join. Where
-- some elements cannot be compared the result depends on which ones are, so the runs and the order of merges are
-- fixed here.
variable {α : Type}

-- Lists shorter than this are one run.
def longRun : Nat := 64

def leastRun (size : Nat) (carry : Nat) : Nat :=
  if _h : longRun ≤ size then leastRun (size / 2) (max carry (size % 2)) else size + carry
termination_by size
decreasing_by simp only [longRun] at _h; omega

-- The depth at which a balanced tree over `size` leaves parts two middles, which are given
-- with the size as multiples of one half.
def depthFrom (size : Nat) : Nat → Nat → Nat → Nat
  | 0, _, _ => 0
  | fuel + 1, a, b =>
      if size ≤ a then 1 + depthFrom size fuel (2 * (a - size)) (2 * (b - size))
      else if size ≤ b then 1
      else 1 + depthFrom size fuel (2 * a) (2 * b)

def depth (start left right size : Nat) : Nat :=
  depthFrom size (size + 1) (2 * start + left) (2 * start + left + (left + right))

structure Pending (α : Type) where
  items : List α
  depth : Nat

-- The runs that wait, the last one first, and how patient merges have become.
structure Stack (α : Type) where
  runs : List (Pending α)
  patience : Nat

namespace Stack

def start : Stack α := ⟨[], shortStretch⟩

def items (s : Stack α) : List α := s.runs.reverse.flatMap Pending.items

def before (runs : List (Pending α)) : Nat := runs.foldl (fun n r => n + r.items.length) 0

-- Merges the last two runs as long as they are joined deeper than a depth.
def collapse (lt : α → α → Bool) (depth : Nat) (patience : Nat) :
    List (Pending α) → Stack α
  | last :: previous :: rest =>
      if depth < previous.depth then
        let (merged, patience) := merge lt patience previous.items last.items
        collapse lt depth patience (⟨merged, previous.depth⟩ :: rest)
      else ⟨last :: previous :: rest, patience⟩
  | runs => ⟨runs, patience⟩
termination_by runs => runs.length

-- Notes the depth at which the last run is joined to the one that comes.
def mark (depth : Nat) : List (Pending α) → List (Pending α)
  | last :: rest => { last with depth := depth } :: rest
  | [] => []

-- Adds a run at the end, of a list of `size` elements. Earlier runs are merged first where
-- they are joined deeper.
def push (lt : α → α → Bool) (size : Nat) (s : Stack α) (run : List α) : Stack α :=
  match s.runs with
  | [] => { s with runs := [⟨run, 0⟩] }
  | last :: rest =>
      let depth := depth (before rest) last.items.length run.length size
      let s := collapse lt depth s.patience (last :: rest)
      { s with runs := ⟨run, 0⟩ :: mark depth s.runs }

-- Merges all runs into one. Of the last three the outer ones are compared, so that the
-- shorter one is merged first.
def mergeAll (lt : α → α → Bool) (patience : Nat) : List (Pending α) → List α
  | [] => []
  | [only] => only.items
  | [last, previous] => (merge lt patience previous.items last.items).1
  | last :: previous :: third :: rest =>
      if third.items.length < last.items.length then
        let (merged, patience) := merge lt patience third.items previous.items
        mergeAll lt patience (last :: ⟨merged, third.depth⟩ :: rest)
      else
        let (merged, patience) := merge lt patience previous.items last.items
        mergeAll lt patience (⟨merged, previous.depth⟩ :: third :: rest)
termination_by runs => runs.length

end Stack

def stackRuns (lt : α → α → Bool) (size : Nat) (s : Stack α) (xs : List α) : Stack α :=
  match xs with
  | [] => s
  | x :: rest =>
      let found := nextRun lt (leastRun size 0) (x :: rest)
      stackRuns lt size (s.push lt size found.1) found.2
termination_by xs.length
decreasing_by exact length_nextRun_rest lt _ (List.cons_ne_nil x rest)

def sort (lt : α → α → Bool) (xs : List α) : List α :=
  let s := stackRuns lt xs.length .start xs
  Stack.mergeAll lt s.patience s.runs

-- The first element that none before or after it was found to precede.
def least? (lt : α → α → Bool) : List α → Option α
  | [] => none
  | x :: rest => some (rest.foldl (fun best y => if lt y best then y else best) x)

namespace Stack

theorem items_cons (last : Pending α) (rest : List (Pending α)) (patience : Nat) :
    items ⟨last :: rest, patience⟩ = items ⟨rest, patience⟩ ++ last.items := by
  simp [items]

theorem collapse_perm (lt : α → α → Bool) (depth patience : Nat) (runs : List (Pending α)) :
    (collapse lt depth patience runs).items.Perm (items ⟨runs, patience⟩) := by
  fun_induction collapse lt depth patience runs with
  | case1 patience last previous rest deeper merged patience' result ih =>
    refine ih.trans ?_
    have joined := merge_perm lt patience previous.items last.items
    rw [result] at joined
    simp only [items_cons, List.append_assoc]
    exact joined.append_left _
  | case2 => exact List.Perm.refl _
  | case3 => exact List.Perm.refl _

theorem items_mark (depth : Nat) (runs : List (Pending α)) (patience : Nat) :
    items ⟨mark depth runs, patience⟩ = items ⟨runs, patience⟩ := by
  cases runs with
  | nil => rfl
  | cons last rest => simp [mark, items_cons]

theorem push_perm (lt : α → α → Bool) (size : Nat) (s : Stack α) (run : List α) :
    (s.push lt size run).items.Perm (s.items ++ run) := by
  obtain ⟨runs, patience⟩ := s
  cases runs with
  | nil => simp [push, items]
  | cons last rest =>
    simp only [push, items_cons, items_mark]
    exact (collapse_perm lt _ patience (last :: rest)).append_right _ |>.trans
      (by rw [items_cons])

theorem mergeAll_perm (lt : α → α → Bool) (patience : Nat) (runs : List (Pending α)) :
    (mergeAll lt patience runs).Perm (items ⟨runs, patience⟩) := by
  fun_induction mergeAll lt patience runs with
  | case1 => exact List.Perm.refl _
  | case2 => simp [items]
  | case3 patience last previous =>
    simpa [items] using merge_perm lt patience previous.items last.items
  | case4 patience last previous third rest shorter merged patience' result ih =>
    refine ih.trans ?_
    have joined := merge_perm lt patience third.items previous.items
    rw [result] at joined
    simp only [items_cons]
    refine List.Perm.append_right last.items ?_
    rw [List.append_assoc]
    exact joined.append_left _
  | case5 patience last previous third rest longer merged patience' result ih =>
    refine ih.trans ?_
    have joined := merge_perm lt patience previous.items last.items
    rw [result] at joined
    simp only [items_cons]
    rw [List.append_assoc _ previous.items]
    exact joined.append_left _

end Stack

theorem stackRuns_perm (lt : α → α → Bool) (size : Nat) (s : Stack α) (xs : List α) :
    (stackRuns lt size s xs).items.Perm (s.items ++ xs) := by
  fun_induction stackRuns lt size s xs with
  | case1 s => simp
  | case2 s x rest found ih =>
    refine ih.trans (((Stack.push_perm lt size s found.1).append_right _).trans ?_)
    rw [List.append_assoc]
    exact (nextRun_perm lt _ (x :: rest)).append_left _

theorem sort_perm (lt : α → α → Bool) (xs : List α) : (sort lt xs).Perm xs := by
  refine (Stack.mergeAll_perm lt _ _).trans ?_
  simpa [Stack.start, Stack.items] using stackRuns_perm lt xs.length .start xs

theorem foldl_least_mem {lt : α → α → Bool} (best : α) (xs : List α) :
    xs.foldl (fun best y => if lt y best then y else best) best ∈ best :: xs := by
  induction xs generalizing best with
  | nil => exact List.mem_cons_self
  | cons x rest ih =>
    rw [List.foldl_cons]
    rcases List.mem_cons.mp (ih (if lt x best then x else best)) with same | later
    · rw [same]
      by_cases better : lt x best = true
      · simp [better]
      · simp [better]
    · exact List.mem_cons_of_mem _ (List.mem_cons_of_mem _ later)

theorem least_mem {lt : α → α → Bool} {xs : List α} (found : least? lt xs = some x) : x ∈ xs := by
  cases xs with
  | nil => cases found
  | cons y rest =>
    simp only [least?, Option.some.injEq] at found
    exact found ▸ foldl_least_mem y rest

example : sort (· < ·) [3, 1, 2, 5, 4] = [1, 2, 3, 4, 5] := by decide +kernel
example : sort (fun (a b : Nat × Nat) => a.1 < b.1) [(2, 0), (1, 0), (2, 1), (1, 1)] =
    [(1, 0), (1, 1), (2, 0), (2, 1)] := by decide +kernel
example : leastRun 63 0 = 63 ∧ leastRun 64 0 = 32 ∧ leastRun 65 0 = 33 := by decide +kernel

end Orchestration.Sort
