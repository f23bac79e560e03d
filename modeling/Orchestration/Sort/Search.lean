namespace Orchestration.Sort

-- Where those in front have the property all searches find the same number. Where a comparison is not consistent it
-- depends on which elements are looked at, so these are fixed here.
variable {α : Type}

-- The middle of the places from `low` on and below `high`: of two, the later one, and the
-- earlier one among elements that are given from the last to the first.
def middle (turned : Bool) (low high : Nat) : Nat :=
  low + (high - low - (if turned then 1 else 0)) / 2

theorem low_le_middle (turned : Bool) (low high : Nat) : low ≤ middle turned low high :=
  Nat.le_add_right _ _

theorem middle_lt_high (turned : Bool) {low high : Nat} (h : low < high) :
    middle turned low high < high := by
  unfold middle
  split <;> omega

-- The number of elements with a property, which is known to be in `low..high`.
def bisect (turned : Bool) (p : α → Bool) (xs : Array α) (low high : Nat) : Nat :=
  if _h : low < high then
    match xs[middle turned low high]? with
    | none => low
    | some x =>
        if p x then bisect turned p xs (middle turned low high + 1) high
        else bisect turned p xs low (middle turned low high)
  else low
termination_by high - low
decreasing_by
  all_goals
    have := low_le_middle turned low high
    have := middle_lt_high turned _h
    omega

theorem bisect_le (turned : Bool) (p : α → Bool) (xs : Array α) {low high : Nat} (h : low ≤ high) :
    bisect turned p xs low high ≤ high := by
  fun_induction bisect turned p xs low high with
  | case1 low high inside none => exact h
  | case2 low high inside x some has ih => exact ih (middle_lt_high turned inside)
  | case3 low high inside x some lacks ih =>
    exact Nat.le_trans (ih (low_le_middle turned low high))
      (Nat.le_of_lt (middle_lt_high turned inside))
  | case4 low high outside => exact h

-- The last place that was found to have the property, and one that was not or the end: the
-- places after the first one double.
def leap (p : α → Bool) (xs : Array α) (last next : Nat) : Nat × Nat :=
  if _h : next < xs.size then
    if p xs[next] then leap p xs next (2 * next + 1) else (last, next)
  else (last, xs.size)
termination_by xs.size - next

theorem leap_le (p : α → Bool) (xs : Array α) (last next : Nat) :
    (leap p xs last next).2 ≤ xs.size := by
  fun_induction leap p xs last next with
  | case1 last next inside has ih => exact ih
  | case2 last next inside lacks => exact Nat.le_of_lt inside
  | case3 last next outside => exact Nat.le_refl _

theorem leap_lt (p : α → Bool) (xs : Array α) {last next : Nat} (h : last < next)
    (inside : last < xs.size) : (leap p xs last next).1 < (leap p xs last next).2 := by
  fun_induction leap p xs last next with
  | case1 last next within has ih => exact ih (by omega) within
  | case2 last next within lacks => exact h
  | case3 last next outside => exact inside

-- The number of elements in front with a property, sought from the first one on.
def reach (turned : Bool) (p : α → Bool) (elements : List α) : Nat :=
  match elements with
  | [] => 0
  | x :: _ =>
      if p x then
        let xs := elements.toArray
        let found := leap p xs 0 1
        bisect turned p xs (found.1 + 1) found.2
      else 0

example : reach false (· < 5) [1, 2, 3, 4, 5, 6, 7] = 4 ∧ reach true (· < 5) [1, 2, 3, 4] = 4 := by
  decide +kernel

end Orchestration.Sort
