import Mathlib.Data.List.InsertIdx
import Orchestration.Sort.Natural

namespace Orchestration.Sort

-- The sort sees its elements only through the comparison, so nothing here asks for an order.
variable {α β : Type} (f : α → β)

section Search

theorem bisect_map (turned : Bool) (p : β → Bool) (xs : List α) (low high : Nat) :
    bisect turned p (xs.map f).toArray low high = bisect turned (p ∘ f) xs.toArray low high := by
  fun_induction bisect turned (p ∘ f) xs.toArray low high with
  | case1 low high inside none =>
    rw [bisect, dif_pos inside]
    simp_all
  | case2 low high inside x some has ih =>
    rw [bisect, dif_pos inside]
    simp_all
  | case3 low high inside x some lacks ih =>
    rw [bisect, dif_pos inside]
    simp_all
  | case4 low high outside =>
    rw [bisect, dif_neg outside]

theorem leap_map (p : β → Bool) (xs : List α) (last next : Nat) :
    leap p (xs.map f).toArray last next = leap (p ∘ f) xs.toArray last next := by
  have size : (xs.map f).toArray.size = xs.toArray.size := by simp
  fun_induction leap (p ∘ f) xs.toArray last next with
  | case1 last next inside has ih =>
    rw [leap, dif_pos (size ▸ inside), if_pos (by simpa using has), ih]
  | case2 last next inside lacks =>
    rw [leap, dif_pos (size ▸ inside), if_neg (by simpa using lacks)]
  | case3 last next outside =>
    rw [leap, dif_neg (size ▸ outside), size]

theorem reach_map (turned : Bool) (p : β → Bool) (xs : List α) :
    reach turned p (xs.map f) = reach turned (p ∘ f) xs := by
  cases xs with
  | nil => rfl
  | cons x rest =>
    have leaps := leap_map f p (x :: rest) 0 1
    have counts := bisect_map f turned p (x :: rest)
    simp only [List.map_cons] at leaps counts
    simp only [reach, List.map_cons, Function.comp_apply, leaps, counts]

end Search

section Merge

theorem finish?_map (side : Side) (left right : List α) :
    finish? side (left.map f) (right.map f) = (finish? side left right).map (List.map f) := by
  unfold finish?
  cases side <;> rcases left with _ | ⟨x, _ | ⟨x', left⟩⟩ <;> rcases right with _ | ⟨y, _ | ⟨y', right⟩⟩ <;> simp

variable {first : α → α → Bool} {first' : β → β → Bool}

theorem mergeFrom_map (kept : ∀ y x, first' (f y) (f x) = first y x) (side : Side) (phase : Phase)
    (patience : Nat) (left right : List α) :
    mergeFrom side first' phase patience (left.map f) (right.map f) =
      Prod.map (List.map f) id (mergeFrom side first phase patience left right) := by
  fun_induction mergeFrom side first phase patience left right with
  | case1 phase patience left right rest done =>
    rw [mergeFrom.eq_def, finish?_map, done]
    rfl
  | case2 patience x left y right fromLeft fromRight before next rest patience' result more ih =>
    rw [result] at ih
    rw [mergeFrom.eq_def, finish?_map, more]
    simp only [List.map_cons, next, dite_eq_ite] at ih
    simp only [Option.map_none, List.map_cons, kept, before, if_true, ih, Prod.map_apply]
  | case3 patience x left y right fromLeft fromRight behind next rest patience' result more ih =>
    rw [result] at ih
    rw [mergeFrom.eq_def, finish?_map, more]
    simp only [List.map_cons, next, dite_eq_ite] at ih
    simp only [Option.map_none, List.map_cons, kept, behind, Bool.false_eq_true, if_false, ih, Prod.map_apply]
  | case4 patience x left y right count rest patience' result more ih =>
    rw [mergeFrom.eq_def, finish?_map, more]
    have counts : reach (side == .back) (fun z => !first' (f y) z) (f x :: left.map f) = count := by
      rw [← List.map_cons, reach_map]
      simp only [Function.comp_def, kept, count]
    simp only [result, List.map_cons, Prod.map_apply, List.map_drop] at ih
    simp only [Option.map_none, List.map_cons, counts, ih, Prod.map_apply, List.map_append, List.map_take]
  | case5 patience x left y right count rest patience' result more ih =>
    rw [mergeFrom.eq_def, finish?_map, more]
    simp only [result, List.map_cons, Prod.map_apply] at ih
    simp only [Option.map_none, List.map_cons, ih, Prod.map_apply]
  | case6 patience x left y right count count' rest patience' result more ih =>
    rw [mergeFrom.eq_def, finish?_map, more]
    have counts : reach (side == .back) (fun z => first' z (f x)) (f y :: right.map f) = count' := by
      rw [← List.map_cons, reach_map]
      simp only [Function.comp_def, kept, count']
    simp only [result, List.map_cons, Prod.map_apply, List.map_drop] at ih
    simp only [Option.map_none, List.map_cons, counts, ih, Prod.map_apply, List.map_append, List.map_take]
  | case7 patience x left y right count count' rest patience' result more ih =>
    rw [mergeFrom.eq_def, finish?_map, more]
    simp only [result, List.map_cons, Prod.map_apply] at ih
    simp only [Option.map_none, List.map_cons, ih, Prod.map_apply]
  | case8 patience x left y right count count' long more ih =>
    rw [mergeFrom.eq_def, finish?_map, more]
    simpa only [Option.map_none, List.map_cons, long, if_true] using ih
  | case9 patience x left y right count count' short more ih =>
    rw [mergeFrom.eq_def, finish?_map, more]
    simpa only [Option.map_none, List.map_cons, short, Bool.false_eq_true, if_false] using ih
  | case10 phase patience left right apart more => exact absurd more (finish?_of_apart apart)

variable {lt : α → α → Bool} {lt' : β → β → Bool}

theorem mergeInner_map (kept : ∀ a b, lt' (f a) (f b) = lt a b) (patience : Nat) (left right : List α) :
    merge.mergeInner lt' patience (left.map f) (right.map f) =
      Prod.map (List.map f) id (merge.mergeInner lt patience left right) := by
  unfold merge.mergeInner
  simp only [List.length_map, ← List.map_reverse]
  split
  · cases right with
    | nil => rfl
    | cons y right => simp [mergeFrom_map f kept]
  · cases left.reverse with
    | nil => rfl
    | cons x left =>
      have inner : mergeFrom .back (fun y x => !lt' y x) (.single 0 0) patience (left.map f) (right.reverse.map f) =
          Prod.map (List.map f) id (mergeFrom .back (fun y x => !lt y x) (.single 0 0) patience left right.reverse) :=
        mergeFrom_map f (fun y x => by rw [kept]) _ _ _ _ _
      rw [List.map_reverse] at inner
      simp [inner]

theorem merge_map (kept : ∀ a b, lt' (f a) (f b) = lt a b) (patience : Nat) (left right : List α) :
    merge lt' patience (left.map f) (right.map f) =
      Prod.map (List.map f) id (merge lt patience left right) := by
  cases right with
  | nil => rfl
  | cons y right =>
    unfold merge
    simp only [List.map_cons, reach_map, Function.comp_def, kept, ← List.map_drop, List.getLast?_map]
    cases (left.drop (reach false (fun x => !lt y x) left)).getLast? with
    | none => simp
    | some x =>
      simp only [Option.map_some, ← List.map_cons, ← List.map_reverse, reach_map, Function.comp_def, kept, List.length_map, ← List.map_take, ← List.map_drop, mergeInner_map f kept]
      simp

end Merge

section Runs

variable {lt : α → α → Bool} {lt' : β → β → Bool}

theorem descending_map (kept : ∀ a b, lt' (f a) (f b) = lt a b) (previous : α) (xs : List α) :
    descending lt' (f previous) (xs.map f) = (descending lt previous xs).map f := by
  induction xs generalizing previous with
  | nil => rfl
  | cons x rest ih =>
    simp only [List.map_cons, descending, kept, ih]
    split <;> rfl

theorem ascending_map (kept : ∀ a b, lt' (f a) (f b) = lt a b) (previous : α) (xs : List α) :
    ascending lt' (f previous) (xs.map f) = (ascending lt previous xs).map f := by
  induction xs generalizing previous with
  | nil => rfl
  | cons x rest ih =>
    simp only [List.map_cons, ascending, kept, ih]
    split <;> rfl

theorem firstRun_map (kept : ∀ a b, lt' (f a) (f b) = lt a b) (xs : List α) :
    firstRun lt' (xs.map f) = (firstRun lt xs).map f := by
  match xs with
  | [] => rfl
  | [x] => rfl
  | x :: y :: rest =>
    have falls := descending_map f kept x (y :: rest)
    have rises := ascending_map f kept x (y :: rest)
    simp only [List.map_cons] at falls rises
    simp only [List.map_cons, firstRun, kept, falls, rises]
    split <;> simp

theorem insert_map (kept : ∀ a b, lt' (f a) (f b) = lt a b) (sorted : List α) (x : α) :
    insert lt' (sorted.map f) (f x) = (insert lt sorted x).map f := by
  simp only [insert, bisect_map, Function.comp_def, kept, List.length_map, List.map_insertIdx]

theorem foldl_insert_map (kept : ∀ a b, lt' (f a) (f b) = lt a b) (sorted xs : List α) :
    (xs.map f).foldl (insert lt') (sorted.map f) = (xs.foldl (insert lt) sorted).map f := by
  induction xs generalizing sorted with
  | nil => rfl
  | cons x rest ih => rw [List.map_cons, List.foldl_cons, insert_map f kept, ih, List.foldl_cons]

theorem nextRun_map (kept : ∀ a b, lt' (f a) (f b) = lt a b) (size : Nat) (xs : List α) :
    nextRun lt' size (xs.map f) = Prod.map (List.map f) (List.map f) (nextRun lt size xs) := by
  simp only [nextRun, firstRun_map f kept, List.length_map, ← List.map_drop, ← List.map_take,
    foldl_insert_map f kept, Prod.map_apply]

end Runs

section Stack

variable {lt : α → α → Bool} {lt' : β → β → Bool}

def Pending.map (r : Pending α) : Pending β := ⟨r.items.map f, r.depth⟩

def Stack.map (s : Stack α) : Stack β := ⟨s.runs.map (Pending.map f), s.patience⟩

theorem Stack.collapse_map (kept : ∀ a b, lt' (f a) (f b) = lt a b) (depth patience : Nat)
    (runs : List (Pending α)) :
    collapse lt' depth patience (runs.map (Pending.map f)) = (collapse lt depth patience runs).map f := by
  fun_induction collapse lt depth patience runs with
  | case1 patience last previous rest deeper merged patience' result ih =>
    rw [List.map_cons, List.map_cons, collapse]
    rw [if_pos (by exact deeper)]
    simp only [Pending.map, merge_map f kept, result, Prod.map_apply]
    exact ih
  | case2 patience last previous rest shallow =>
    rw [List.map_cons, List.map_cons, collapse]
    rw [if_neg (by exact shallow)]
    rfl
  | case3 patience runs single =>
    rw [collapse.eq_def]
    rcases runs with _ | ⟨last, _ | ⟨previous, rest⟩⟩
    · rfl
    · rfl
    · exact (single _ _ _ rfl).elim

theorem Stack.before_map (runs : List (Pending α)) : before (runs.map (Pending.map f)) = before runs := by
  simp [before, List.foldl_map, Pending.map]

theorem Stack.mark_map (depth : Nat) (runs : List (Pending α)) :
    mark depth (runs.map (Pending.map f)) = (mark depth runs).map (Pending.map f) := by
  cases runs <;> rfl

theorem Stack.push_map (kept : ∀ a b, lt' (f a) (f b) = lt a b) (size : Nat) (s : Stack α) (run : List α) :
    (s.map f).push lt' size (run.map f) = (s.push lt size run).map f := by
  obtain ⟨runs, patience⟩ := s
  cases runs with
  | nil => rfl
  | cons last rest =>
    have collapsed := fun depth => collapse_map f kept depth patience (last :: rest)
    simp only [List.map_cons, Pending.map] at collapsed
    simp only [Stack.map, push, List.map_cons, before_map, Pending.map, List.length_map, collapsed, mark_map]

theorem Stack.mergeAll_map (kept : ∀ a b, lt' (f a) (f b) = lt a b) (patience : Nat) (runs : List (Pending α)) :
    mergeAll lt' patience (runs.map (Pending.map f)) = (mergeAll lt patience runs).map f := by
  fun_induction mergeAll lt patience runs with
  | case1 => simp [mergeAll]
  | case2 patience only => simp [mergeAll, Pending.map]
  | case3 patience last previous => simp [mergeAll, Pending.map, merge_map f kept]
  | case4 patience last previous third rest shorter merged patience' result ih =>
    rw [List.map_cons, List.map_cons, List.map_cons, mergeAll, if_pos (by simpa [Pending.map] using shorter)]
    simp only [Pending.map, merge_map f kept, result, Prod.map_apply]
    exact ih
  | case5 patience last previous third rest longer merged patience' result ih =>
    rw [List.map_cons, List.map_cons, List.map_cons, mergeAll, if_neg (by simpa [Pending.map] using longer)]
    simp only [Pending.map, merge_map f kept, result, Prod.map_apply]
    exact ih

theorem stackRuns_map (kept : ∀ a b, lt' (f a) (f b) = lt a b) (size : Nat) (s : Stack α) (xs : List α) :
    stackRuns lt' size (s.map f) (xs.map f) = (stackRuns lt size s xs).map f := by
  fun_induction stackRuns lt size s xs with
  | case1 s => simp [stackRuns]
  | case2 s x rest found ih =>
    rw [List.map_cons, stackRuns, ← List.map_cons]
    simp only [nextRun_map f kept, Prod.map_fst, Prod.map_snd, Stack.push_map f kept]
    exact ih

end Stack

variable {lt : α → α → Bool} {lt' : β → β → Bool}

theorem sort_map (kept : ∀ a b, lt' (f a) (f b) = lt a b) (xs : List α) :
    sort lt' (xs.map f) = (sort lt xs).map f := by
  have stacked := stackRuns_map f kept xs.length .start xs
  have start : (Stack.start : Stack α).map f = .start := rfl
  rw [start] at stacked
  simp only [sort, List.length_map, stacked]
  exact Stack.mergeAll_map f kept _ _

theorem least?_map (kept : ∀ a b, lt' (f a) (f b) = lt a b) (xs : List α) :
    least? lt' (xs.map f) = (least? lt xs).map f := by
  cases xs with
  | nil => rfl
  | cons x rest =>
    simp only [List.map_cons, least?, Option.map_some, Option.some.injEq, List.foldl_map]
    induction rest generalizing x with
    | nil => rfl
    | cons y rest ih =>
      rw [List.foldl_cons, List.foldl_cons, ← ih, kept]
      split <;> rfl

section Members

variable {xs : List α} (kept : ∀ a ∈ xs, ∀ b ∈ xs, lt' (f a) (f b) = lt a b)

include kept

-- Comparisons need to be kept only among the elements that are sorted: these are sorted with the
-- knowledge that they are among them.
theorem sort_map_of_mem : sort lt' (xs.map f) = (sort lt xs).map f := by
  have plain : sort lt (xs.attach.map Subtype.val) =
      (sort (fun a b : {x // x ∈ xs} => lt a.val b.val) xs.attach).map Subtype.val :=
    sort_map Subtype.val (fun _ _ => rfl) xs.attach
  have image : sort lt' (xs.attach.map (f ∘ Subtype.val)) =
      (sort (fun a b : {x // x ∈ xs} => lt a.val b.val) xs.attach).map (f ∘ Subtype.val) :=
    sort_map (f ∘ Subtype.val) (fun a b => kept a.val a.property b.val b.property) xs.attach
  rw [List.attach_map_subtype_val] at plain
  rw [← List.map_map, ← List.map_map, List.attach_map_subtype_val, ← plain] at image
  exact image

theorem least?_map_of_mem : least? lt' (xs.map f) = (least? lt xs).map f := by
  have plain : least? lt (xs.attach.map Subtype.val) =
      (least? (fun a b : {x // x ∈ xs} => lt a.val b.val) xs.attach).map Subtype.val :=
    least?_map Subtype.val (fun _ _ => rfl) xs.attach
  have image : least? lt' (xs.attach.map (f ∘ Subtype.val)) =
      (least? (fun a b : {x // x ∈ xs} => lt a.val b.val) xs.attach).map (f ∘ Subtype.val) :=
    least?_map (f ∘ Subtype.val) (fun a b => kept a.val a.property b.val b.property) xs.attach
  rw [List.attach_map_subtype_val] at plain
  rw [← List.map_map, ← Option.map_map, List.attach_map_subtype_val, ← plain] at image
  exact image

end Members

end Orchestration.Sort
