import Orchestration.Sort.Search

namespace Orchestration.Sort

variable {α : Type}

-- The longest start of `previous :: rest` in which each element precedes the one before it,
-- without `previous` itself.
def descending (lt : α → α → Bool) (previous : α) : List α → List α
  | [] => []
  | x :: rest => if lt x previous then x :: descending lt x rest else []

-- The longest start in which no element precedes the one before it.
def ascending (lt : α → α → Bool) (previous : α) : List α → List α
  | [] => []
  | x :: rest => if lt x previous then [] else x :: ascending lt x rest

-- The run at the start of a list in ascending order. A run that descends strictly is turned
-- round.
def firstRun (lt : α → α → Bool) : List α → List α
  | [] => []
  | [x] => [x]
  | x :: y :: rest =>
      if lt y x then (x :: descending lt x (y :: rest)).reverse
      else x :: ascending lt x (y :: rest)

-- Inserts an element behind all that it does not precede, as far as bisection looks.
def insert (lt : α → α → Bool) (sorted : List α) (x : α) : List α :=
  sorted.insertIdx (bisect false (fun y => !lt x y) sorted.toArray 0 sorted.length) x

def nextRun (lt : α → α → Bool) (size : Nat) (xs : List α) : List α × List α :=
  let run := firstRun lt xs
  let rest := xs.drop run.length
  ((rest.take (size - run.length)).foldl (insert lt) run, rest.drop (size - run.length))

theorem descending_append (lt : α → α → Bool) (previous : α) (xs : List α) :
    descending lt previous xs ++ xs.drop (descending lt previous xs).length = xs := by
  induction xs generalizing previous with
  | nil => rfl
  | cons x rest ih =>
    unfold descending
    split
    · simp [ih x]
    · rfl

theorem ascending_append (lt : α → α → Bool) (previous : α) (xs : List α) :
    ascending lt previous xs ++ xs.drop (ascending lt previous xs).length = xs := by
  induction xs generalizing previous with
  | nil => rfl
  | cons x rest ih =>
    unfold ascending
    split
    · rfl
    · simp [ih x]

theorem firstRun_perm (lt : α → α → Bool) (xs : List α) :
    (firstRun lt xs ++ xs.drop (firstRun lt xs).length).Perm xs := by
  match xs with
  | [] => exact List.Perm.refl _
  | [x] => exact List.Perm.refl _
  | x :: y :: rest =>
    simp only [firstRun]
    split
    · have whole := descending_append lt x (y :: rest)
      simp only [List.length_reverse, List.length_cons, List.drop_succ_cons]
      refine ((List.reverse_perm _).append_right _).trans ?_
      rw [List.cons_append, whole]
    · have whole := ascending_append lt x (y :: rest)
      simp only [List.length_cons, List.drop_succ_cons, List.cons_append]
      rw [whole]

theorem firstRun_ne_nil (lt : α → α → Bool) {xs : List α} (h : xs ≠ []) : firstRun lt xs ≠ [] := by
  match xs with
  | [] => exact absurd rfl h
  | [x] => simp [firstRun]
  | x :: y :: rest =>
    simp only [firstRun]
    split <;> simp

theorem insert_perm (lt : α → α → Bool) (sorted : List α) (x : α) :
    (insert lt sorted x).Perm (x :: sorted) :=
  List.perm_insertIdx x sorted (bisect_le false _ sorted.toArray (Nat.zero_le _))

theorem foldl_insert_perm (lt : α → α → Bool) (sorted xs : List α) :
    (xs.foldl (insert lt) sorted).Perm (xs ++ sorted) := by
  induction xs generalizing sorted with
  | nil => exact List.Perm.refl _
  | cons x rest ih =>
    exact (ih (insert lt sorted x)).trans
      (((insert_perm lt sorted x).append_left rest).trans List.perm_middle)

theorem nextRun_perm (lt : α → α → Bool) (size : Nat) (xs : List α) :
    ((nextRun lt size xs).1 ++ (nextRun lt size xs).2).Perm xs := by
  simp only [nextRun]
  refine ((foldl_insert_perm lt _ _).append_right _).trans ?_
  refine (List.perm_append_comm.append_right _).trans ?_
  rw [List.append_assoc, List.take_append_drop]
  exact firstRun_perm lt xs

theorem length_nextRun_rest (lt : α → α → Bool) (size : Nat) {xs : List α} (h : xs ≠ []) :
    (nextRun lt size xs).2.length < xs.length := by
  have some := List.length_pos_iff.2 (firstRun_ne_nil lt h)
  have all := List.length_pos_iff.2 h
  simp only [nextRun, List.length_drop]
  omega

end Orchestration.Sort
