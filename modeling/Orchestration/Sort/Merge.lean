import Orchestration.Sort.Search

namespace Orchestration.Sort

-- The smaller run is guarded: once a single element of it is left, it goes behind all that remains of the other.
-- Elements are taken one by one until one run has won often enough, then in stretches whose length is sought. A
-- merge from the back takes both runs from the last element on, and gives its result so.
variable {α : Type}

inductive Side where
  | front
  | back
  deriving DecidableEq, Repr

def shortStretch : Nat := 7

inductive Phase where
  -- Takes one element, after so many in a row from the left or from the right run.
  | single (fromLeft fromRight : Nat)
  | stretchLeft
  | oneRight (stretch : Nat)
  | stretchRight (stretch : Nat)
  | oneLeft (stretch stretch' : Nat)
  | review (stretch stretch' : Nat)

-- The order of phases between two elements that are taken.
def Phase.rank : Phase → Nat
  | .review .. => 2
  | .stretchLeft => 1
  | .stretchRight _ => 1
  | _ => 0

-- The end of a merge in which one run is used up but for its guard.
def finish? (side : Side) (left right : List α) : Option (List α) :=
  match side, left, right with
  | .front, [], right => some right
  | .front, [x], right => some (right ++ [x])
  | .front, left, [] => some left
  | .back, left, [] => some left
  | .back, left, [y] => some (left ++ [y])
  | .back, [], right => some right
  | _, _, _ => none

-- Merges what is left of two runs. `first y x` says that `y` of the right run is taken before
-- `x` of the left one, and `patience` how often one run has to win. The patience at the end comes
-- with the merged elements.
def mergeFrom (side : Side) (first : α → α → Bool) (phase : Phase) (patience : Nat)
    (left right : List α) : List α × Nat :=
  match finish? side left right with
  | some rest => (rest, patience)
  | none =>
      match left, right with
      | x :: left', y :: right' =>
          match phase with
          | .single fromLeft fromRight =>
              if first y x then
                let next := if patience ≤ fromRight + 1 then .stretchLeft else .single 0 (fromRight + 1)
                let (rest, patience) := mergeFrom side first next patience (x :: left') right'
                (y :: rest, patience)
              else
                let next := if patience ≤ fromLeft + 1 then .stretchLeft else .single (fromLeft + 1) 0
                let (rest, patience) := mergeFrom side first next patience left' (y :: right')
                (x :: rest, patience)
          | .stretchLeft =>
              let n := reach (side == .back) (fun x => !first y x) (x :: left')
              let (rest, patience) :=
                mergeFrom side first (.oneRight n) patience ((x :: left').drop n) (y :: right')
              ((x :: left').take n ++ rest, patience)
          | .oneRight n =>
              let (rest, patience) := mergeFrom side first (.stretchRight n) patience (x :: left') right'
              (y :: rest, patience)
          | .stretchRight n =>
              let m := reach (side == .back) (fun y => first y x) (y :: right')
              let (rest, patience) :=
                mergeFrom side first (.oneLeft n m) patience (x :: left') ((y :: right').drop m)
              ((y :: right').take m ++ rest, patience)
          | .oneLeft n m =>
              let (rest, patience) := mergeFrom side first (.review n m) patience left' (y :: right')
              (x :: rest, patience)
          | .review n m =>
              if shortStretch ≤ n || shortStretch ≤ m then
                mergeFrom side first .stretchLeft (max 1 (patience - 1)) (x :: left') (y :: right')
              else mergeFrom side first (.single 0 0) (patience + 1) (x :: left') (y :: right')
      | left, right => (left ++ right, patience)
termination_by (left.length + right.length, phase.rank)
decreasing_by
  all_goals simp only [List.length_cons, List.length_drop, Phase.rank, Prod.lex_def, true_and]; omega

-- Merges a run with the one behind it. What of the left run stays in front and what of the
-- right run stays behind is found first; the rest is merged from the end of the smaller one.
def merge (lt : α → α → Bool) (patience : Nat) (left right : List α) : List α × Nat :=
  match right with
  | [] => (left, patience)
  | y :: _ =>
      let kept := reach false (fun x => !lt y x) left
      match (left.drop kept).getLast? with
      | none => (left ++ right, patience)
      | some x =>
          let stays := reach true (fun y => !lt y x) right.reverse
          let moved := right.take (right.length - stays)
          let (merged, patience) := mergeInner (left.drop kept) moved
          (left.take kept ++ merged ++ right.drop (right.length - stays), patience)
where
  -- The first element that is taken is known: it is the first of the right run, or from the
  -- back the last of the left one.
  mergeInner (left right : List α) : List α × Nat :=
    if left.length ≤ right.length then
      match right with
      | [] => (left, patience)
      | y :: right =>
          let (rest, patience) := mergeFrom .front lt (.single 0 0) patience left right
          (y :: rest, patience)
    else
      match left.reverse with
      | [] => (right, patience)
      | x :: left =>
          let (rest, patience) :=
            mergeFrom .back (fun y x => !lt y x) (.single 0 0) patience left right.reverse
          ((x :: rest).reverse, patience)

theorem finish?_perm {side : Side} {left right rest : List α}
    (h : finish? side left right = some rest) : rest.Perm (left ++ right) := by
  unfold finish? at h
  split at h <;> simp only [Option.some.injEq, reduceCtorEq] at h <;> subst h
  all_goals first
    | exact List.Perm.refl _
    | exact List.perm_append_comm
    | simp

theorem finish?_of_apart {side : Side} {left right : List α}
    (apart : ∀ x left' y right', left = x :: left' → right = y :: right' → False) :
    finish? side left right ≠ none := by
  rcases left with _ | ⟨x, left⟩
  · cases side <;> rcases right with _ | ⟨y, _ | ⟨y', right⟩⟩ <;> simp [finish?]
  · rcases right with _ | ⟨y, right⟩
    · cases side <;> cases left <;> simp [finish?]
    · exact (apart _ _ _ _ rfl rfl).elim

theorem perm_takeRight {rest left right : List α} (y : α) (h : rest.Perm (left ++ right)) :
    (y :: rest).Perm (left ++ y :: right) :=
  (h.cons y).trans List.perm_middle.symm

theorem perm_stretchLeft {rest left right : List α} (n : Nat) (h : rest.Perm (left.drop n ++ right)) :
    (left.take n ++ rest).Perm (left ++ right) := by
  have whole := h.append_left (left.take n)
  rwa [← List.append_assoc, List.take_append_drop] at whole

theorem perm_stretchRight {rest left right : List α} (n : Nat) (h : rest.Perm (left ++ right.drop n)) :
    (right.take n ++ rest).Perm (left ++ right) :=
  (perm_stretchLeft n (h.trans List.perm_append_comm)).trans List.perm_append_comm

theorem mergeFrom_perm (side : Side) (first : α → α → Bool) (phase : Phase) (patience : Nat)
    (left right : List α) :
    (mergeFrom side first phase patience left right).1.Perm (left ++ right) := by
  fun_induction mergeFrom side first phase patience left right with
  | case1 phase patience left right rest done => exact finish?_perm done
  | case2 _ _ _ y _ _ _ _ _ _ _ result _ ih => rw [result] at ih; exact perm_takeRight y ih
  | case3 _ x _ _ _ _ _ _ _ _ _ result _ ih => rw [result] at ih; exact ih.cons x
  | case4 _ _ _ _ _ n _ _ result _ ih => rw [result] at ih; exact perm_stretchLeft n ih
  | case5 _ _ _ y _ _ _ _ result _ ih => rw [result] at ih; exact perm_takeRight y ih
  | case6 _ _ _ _ _ _ n _ _ result _ ih => rw [result] at ih; exact perm_stretchRight n ih
  | case7 _ x _ _ _ _ _ _ _ result _ ih => rw [result] at ih; exact ih.cons x
  | case8 _ _ _ _ _ _ _ _ _ ih => exact ih
  | case9 _ _ _ _ _ _ _ _ _ ih => exact ih
  | case10 => exact List.Perm.refl _

theorem mergeInner_perm (lt : α → α → Bool) (patience : Nat) (left right : List α) :
    (merge.mergeInner lt patience left right).1.Perm (left ++ right) := by
  unfold merge.mergeInner
  split
  · cases right with
    | nil => simp
    | cons y right => exact perm_takeRight y (mergeFrom_perm _ _ _ _ _ _)
  · split
    · rename_i none
      simp [List.reverse_eq_nil_iff.1 none]
    · rename_i x rest some
      have whole : left.reverse.reverse = (x :: rest).reverse := by rw [some]
      rw [List.reverse_reverse] at whole
      rw [whole]
      refine (List.reverse_perm _).trans (((mergeFrom_perm _ _ _ _ _ _).cons x).trans ?_)
      exact ((List.reverse_perm (x :: rest)).symm).append (List.reverse_perm right)

theorem merge_perm (lt : α → α → Bool) (patience : Nat) (left right : List α) :
    (merge lt patience left right).1.Perm (left ++ right) := by
  unfold merge
  split
  · simp
  · rename_i y rest
    simp only
    split
    · exact List.Perm.refl _
    · rw [List.append_assoc]
      refine perm_stretchLeft _ ?_
      refine ((mergeInner_perm lt patience _ _).append_right _).trans ?_
      rw [List.append_assoc, List.take_append_drop]

end Orchestration.Sort
