import Mathlib.Data.List.InsertIdx
import Mathlib.Order.Lattice
import Orchestration.Sort.Natural

namespace Orchestration.Sort

-- Searches are read as statements on what is in front of a place and what is behind it. From the front the smaller
-- element comes first, from the back the larger one, and the run that is guarded ends with an element that may come
-- last.
variable {α : Type}

-- What is not preceded is in order: by `not preceded` the elements are ranked, with ties.
structure Compares (lt : α → α → Bool) : Prop where
  asymm : lt a b = true → lt b a = false
  trans : lt b a = false → lt c b = false → lt c a = false

def Ordered (lt : α → α → Bool) (xs : List α) : Prop := xs.Pairwise fun a b => lt b a = false

section Search

-- The elements with a property are in front of those without it.
def Fronted (p : α → Bool) (xs : List α) : Prop := xs.Pairwise fun a b => p b = true → p a = true

-- What is known of a place that is sought: it is neither before `low` nor behind `high`.
structure Between (p : α → Bool) (xs : List α) (low high : Nat) : Prop where
  before : ∀ x ∈ xs.take low, p x = true
  behind : ∀ x ∈ xs.drop high, p x = false

theorem before_of_has {p : α → Bool} {xs : List α} (fronted : Fronted p xs) (at_place : xs[place]? = some x)
    (has : p x = true) : ∀ y ∈ xs.take (place + 1), p y = true := by
  obtain ⟨inside, rfl⟩ := List.getElem?_eq_some_iff.mp at_place
  have whole := fronted
  rw [Fronted, ← List.take_append_drop place xs, List.drop_eq_getElem_cons inside, List.pairwise_append] at whole
  intro y mem
  rw [List.take_succ_eq_append_getElem inside, List.mem_append, List.mem_singleton] at mem
  rcases mem with early | rfl
  · exact whole.2.2 y early _ List.mem_cons_self has
  · exact has

theorem behind_of_lacks {p : α → Bool} {xs : List α} (fronted : Fronted p xs) (at_place : xs[place]? = some x)
    (lacks : p x = false) : ∀ y ∈ xs.drop place, p y = false := by
  obtain ⟨inside, rfl⟩ := List.getElem?_eq_some_iff.mp at_place
  have rest := fronted.sublist (List.drop_sublist place xs)
  rw [List.drop_eq_getElem_cons inside] at rest ⊢
  intro y mem
  rcases List.mem_cons.mp mem with rfl | late
  · exact lacks
  · exact Bool.eq_false_iff.mpr fun has => by simp [List.rel_of_pairwise_cons rest late has] at lacks

theorem bisect_between (turned : Bool) {p : α → Bool} {xs : List α} (fronted : Fronted p xs)
    (ordered : low ≤ high) (inside : high ≤ xs.length) (between : Between p xs low high) :
    Between p xs (bisect turned p xs.toArray low high) (bisect turned p xs.toArray low high) := by
  fun_induction bisect turned p xs.toArray low high with
  | case1 low high smaller none =>
    have known := middle_lt_high turned smaller
    simp only [List.getElem?_toArray, List.getElem?_eq_none_iff] at none
    omega
  | case2 low high smaller x some has ih =>
    exact ih (middle_lt_high turned smaller) inside
      ⟨before_of_has fronted (by simpa using some) has, between.behind⟩
  | case3 low high smaller x some lacks ih =>
    have bound := middle_lt_high turned smaller
    exact ih (low_le_middle turned low high) (by omega)
      ⟨between.before, behind_of_lacks fronted (by simpa using some) (by simpa using lacks)⟩
  | case4 low high met =>
    cases Nat.le_antisymm ordered (Nat.le_of_not_lt met)
    exact between

theorem leap_between {p : α → Bool} {xs : List α} (fronted : Fronted p xs)
    (before : ∀ x ∈ xs.take (last + 1), p x = true) :
    Between p xs ((leap p xs.toArray last next).1 + 1) (leap p xs.toArray last next).2 := by
  fun_induction leap p xs.toArray last next with
  | case1 last next inside has ih =>
    exact ih (before_of_has fronted (List.getElem?_eq_getElem inside) has)
  | case2 last next inside lacks =>
    exact ⟨before, behind_of_lacks fronted (List.getElem?_eq_getElem inside) (by simpa using lacks)⟩
  | case3 last next outside => exact ⟨before, by simp⟩

theorem reach_between (turned : Bool) {p : α → Bool} {xs : List α} (fronted : Fronted p xs) :
    Between p xs (reach turned p xs) (reach turned p xs) := by
  cases xs with
  | nil => exact ⟨by simp, by simp⟩
  | cons x rest =>
    simp only [reach]
    split
    · rename_i has
      have order : (leap p (x :: rest).toArray 0 1).1 < (leap p (x :: rest).toArray 0 1).2 :=
        leap_lt p (x :: rest).toArray Nat.zero_lt_one (by simp)
      have size := leap_le p (x :: rest).toArray 0 1
      have between : Between p (x :: rest) ((leap p (x :: rest).toArray 0 1).1 + 1) (leap p (x :: rest).toArray 0 1).2 :=
        leap_between fronted (by simpa using has)
      exact bisect_between turned fronted order (by simpa using size) between
    · rename_i lacks
      have first : (x :: rest)[0]? = some x := rfl
      exact ⟨by simp, behind_of_lacks fronted first (by simpa using lacks)⟩

end Search

section Merge

-- In the order `R` of a merge `first y x` decides between `y` of the right run and `x` of the
-- left one, and it decides alike for what comes later in a run.
structure Ranks (R : α → α → Prop) (first : α → α → Bool) : Prop where
  trans : R a b → R b c → R a c
  right : first y x = true → R y x
  left : first y x = false → R x y
  later_left : R a b → first y a = true → first y b = true
  later_right : R a b → first b x = true → first a x = true

variable {R : α → α → Prop} {first : α → α → Bool}

-- The guard of a run may come behind all of the other run.
def Guarded (R : α → α → Prop) : Side → List α → List α → Prop
  | .front, left, right => ∀ x ∈ left.getLast?, ∀ y ∈ right, R y x
  | .back, left, right => ∀ y ∈ right.getLast?, ∀ x ∈ left, R x y

theorem last_of_suffix {rest xs : List α} (suffix : rest <:+ xs) (last : x ∈ rest.getLast?) : x ∈ xs.getLast? := by
  obtain ⟨before, rfl⟩ := suffix
  rw [List.getLast?_append, Option.mem_def.mp last]
  rfl

theorem Guarded.suffix {side : Side} {left right left' right' : List α} (guarded : Guarded R side left right)
    (fewer : left' <:+ left) (fewer' : right' <:+ right) : Guarded R side left' right' := by
  cases side with
  | front => exact fun x last y mem => guarded x (last_of_suffix fewer last) y (fewer'.subset mem)
  | back => exact fun y last x mem => guarded y (last_of_suffix fewer' last) x (fewer.subset mem)

-- What is settled already when a stretch has been taken: the other run goes on.
def Phase.Ready (first : α → α → Bool) : Phase → List α → List α → Prop
  | .oneRight _, x :: _, y :: _ => first y x = true
  | .oneLeft .., x :: _, y :: _ => first y x = false
  | _, _, _ => True

theorem finish?_pairwise {side : Side} {left right rest : List α} (done : finish? side left right = some rest)
    (inLeft : left.Pairwise R) (inRight : right.Pairwise R) (guarded : Guarded R side left right) :
    rest.Pairwise R := by
  unfold finish? at done
  split at done <;> simp only [Option.some.injEq, reduceCtorEq] at done <;> subst done
  · exact inRight
  · rename_i x
    exact List.pairwise_append.mpr ⟨inRight, inLeft, fun y mem z last =>
      List.mem_singleton.mp last ▸ guarded x rfl y mem⟩
  · exact inLeft
  · exact inLeft
  · rename_i y
    exact List.pairwise_append.mpr ⟨inLeft, inRight, fun x mem z last =>
      List.mem_singleton.mp last ▸ guarded y rfl x mem⟩
  · exact inRight

theorem rank_all {xs : List α} (ranks : Ranks R first) (within : (x :: xs).Pairwise R) (before : R z x) :
    ∀ y ∈ x :: xs, R z y := by
  intro y mem
  rcases List.mem_cons.mp mem with rfl | late
  · exact before
  · exact ranks.trans before (List.rel_of_pairwise_cons within late)

theorem cons_merged {rest left right : List α} (perm : rest.Perm (left ++ right)) (sorted : rest.Pairwise R)
    (inLeft : ∀ z ∈ left, R x z) (inRight : ∀ z ∈ right, R x z) : (x :: rest).Pairwise R := by
  refine List.pairwise_cons.mpr ⟨fun z mem => ?_, sorted⟩
  rcases List.mem_append.mp (perm.mem_iff.mp mem) with own | other
  · exact inLeft z own
  · exact inRight z other

-- So is a stretch of one run that is in front of the other run.
theorem stretch_merged {rest run other : List α} (n : Nat) (perm : rest.Perm (run.drop n ++ other))
    (sorted : rest.Pairwise R) (within : run.Pairwise R) (before : ∀ x ∈ run.take n, ∀ y ∈ other, R x y) :
    (run.take n ++ rest).Pairwise R := by
  rw [← List.take_append_drop n run, List.pairwise_append] at within
  refine List.pairwise_append.mpr ⟨within.1, sorted, fun x mem y among => ?_⟩
  rcases List.mem_append.mp (perm.mem_iff.mp among) with own | apart
  · exact within.2.2 x mem y own
  · exact before x mem y apart

theorem mergeFrom_pairwise (ranks : Ranks R first) (side : Side) (phase : Phase) (patience : Nat)
    {left right : List α} (inLeft : left.Pairwise R) (inRight : right.Pairwise R)
    (guarded : Guarded R side left right) (ready : phase.Ready first left right) :
    (mergeFrom side first phase patience left right).1.Pairwise R := by
  fun_induction mergeFrom side first phase patience left right with
  | case1 phase patience left right rest done => exact finish?_pairwise done inLeft inRight guarded
  | case2 patience x left y right fromLeft fromRight wins next rest patience' result more ih =>
    have perm := mergeFrom_perm side first next patience (x :: left) right
    have sorted := ih inLeft inRight.of_cons (guarded.suffix List.suffix_rfl (List.suffix_cons y right))
      (by unfold next; split <;> trivial)
    rw [result] at perm sorted
    exact cons_merged perm sorted (rank_all ranks inLeft (ranks.right wins)) (fun _ => List.rel_of_pairwise_cons inRight)
  | case3 patience x left y right fromLeft fromRight wins next rest patience' result more ih =>
    have perm := mergeFrom_perm side first next patience left (y :: right)
    have sorted := ih inLeft.of_cons inRight (guarded.suffix (List.suffix_cons x left) List.suffix_rfl)
      (by unfold next; split <;> trivial)
    rw [result] at perm sorted
    exact cons_merged perm sorted (fun _ => List.rel_of_pairwise_cons inLeft)
      (rank_all ranks inRight (ranks.left (by simpa using wins)))
  | case4 patience x left y right count rest patience' result more ih =>
    have fronted : Fronted (fun z => !first y z) (x :: left) := inLeft.imp fun before => by
      simpa [← Bool.not_eq_true] using mt (ranks.later_left before)
    have between := reach_between (side == .back) fronted
    have perm := mergeFrom_perm side first (.oneRight count) patience ((x :: left).drop count) (y :: right)
    have ready : (Phase.oneRight count).Ready first ((x :: left).drop count) (y :: right) := by
      cases dropped : (x :: left).drop count with
      | nil => trivial
      | cons z _ =>
        change first y z = true
        simpa using between.behind z (dropped ▸ List.mem_cons_self)
    have sorted := ih (inLeft.sublist (List.drop_sublist ..)) inRight
      (guarded.suffix (List.drop_suffix ..) List.suffix_rfl) ready
    rw [result] at perm sorted
    exact stretch_merged count perm sorted inLeft fun z mem =>
      rank_all ranks inRight (ranks.left (by simpa using between.before z mem))
  | case5 patience x left y right count rest patience' result more ih =>
    have perm := mergeFrom_perm side first (.stretchRight count) patience (x :: left) right
    have sorted := ih inLeft inRight.of_cons (guarded.suffix List.suffix_rfl (List.suffix_cons y right)) trivial
    rw [result] at perm sorted
    exact cons_merged perm sorted (rank_all ranks inLeft (ranks.right ready)) (fun _ => List.rel_of_pairwise_cons inRight)
  | case6 patience x left y right count count' rest patience' result more ih =>
    have fronted : Fronted (fun z => first z x) (y :: right) := inRight.imp ranks.later_right
    have between := reach_between (side == .back) fronted
    have perm := mergeFrom_perm side first (.oneLeft count count') patience (x :: left) ((y :: right).drop count')
    have ready : (Phase.oneLeft count count').Ready first (x :: left) ((y :: right).drop count') := by
      cases dropped : (y :: right).drop count' with
      | nil => trivial
      | cons z _ => exact between.behind z (dropped ▸ List.mem_cons_self)
    have sorted := ih inLeft (inRight.sublist (List.drop_sublist ..))
      (guarded.suffix List.suffix_rfl (List.drop_suffix ..)) ready
    rw [result] at perm sorted
    exact stretch_merged count' (perm.trans List.perm_append_comm) sorted inRight fun z mem =>
      rank_all ranks inLeft (ranks.right (between.before z mem))
  | case7 patience x left y right count count' rest patience' result more ih =>
    have perm := mergeFrom_perm side first (.review count count') patience left (y :: right)
    have sorted := ih inLeft.of_cons inRight (guarded.suffix (List.suffix_cons x left) List.suffix_rfl) trivial
    rw [result] at perm sorted
    exact cons_merged perm sorted (fun _ => List.rel_of_pairwise_cons inLeft) (rank_all ranks inRight (ranks.left ready))
  | case8 patience x left y right count count' long more ih => exact ih inLeft inRight guarded trivial
  | case9 patience x left y right count count' short more ih => exact ih inLeft inRight guarded trivial
  | case10 phase patience left right apart more => exact absurd more (finish?_of_apart apart)

end Merge

section Order

variable {lt : α → α → Bool}

theorem Compares.irrefl (compares : Compares lt) (a : α) : lt a a = false := by
  by_contra precedes
  exact precedes (compares.asymm (Bool.not_eq_false _ ▸ precedes))

theorem Compares.front (compares : Compares lt) : Ranks (fun a b => lt b a = false) lt where
  trans := compares.trans
  right := compares.asymm
  left := fun behind => behind
  later_left := fun before wins => by
    by_contra loses
    simp [compares.trans before (Bool.not_eq_true _ ▸ loses)] at wins
  later_right := fun before wins => by
    by_contra loses
    simp [compares.trans (Bool.not_eq_true _ ▸ loses) before] at wins

theorem Compares.back (compares : Compares lt) : Ranks (fun a b => lt a b = false) (fun y x => !lt y x) where
  trans := fun before behind => compares.trans behind before
  right := fun wins => by simpa using wins
  left := fun loses => compares.asymm (by simpa using loses)
  later_left := fun before wins => by simpa using compares.trans before (by simpa using wins)
  later_right := fun before wins => by simpa using compares.trans (by simpa using wins) before

-- The runs that are merged in the end overlap wholly: the first element comes from the right one, the
-- last from the left one.
theorem mergeInner_ordered (compares : Compares lt) (patience : Nat) {left right : List α}
    (inLeft : Ordered lt left) (inRight : Ordered lt right)
    (least : ∀ y ∈ right.head?, ∀ x ∈ left, lt y x = true)
    (greatest : ∀ x ∈ left.getLast?, ∀ y ∈ right, lt y x = true) :
    Ordered lt (merge.mergeInner lt patience left right).1 := by
  unfold merge.mergeInner
  split
  · cases right with
    | nil => exact inLeft
    | cons y right =>
      have guarded : Guarded (fun a b => lt b a = false) .front left right := fun x last z mem =>
        compares.asymm (greatest x last z (List.mem_cons_of_mem _ mem))
      have sorted := mergeFrom_pairwise compares.front .front (.single 0 0) patience inLeft inRight.of_cons guarded trivial
      exact cons_merged (mergeFrom_perm ..) sorted (fun x mem => compares.asymm (least y rfl x mem))
        (fun _ => List.rel_of_pairwise_cons inRight)
  · split
    · exact inRight
    · rename_i x rest turned
      have own : (x :: rest).Pairwise fun a b => lt a b = false := turned ▸ List.pairwise_reverse.mpr inLeft
      have other : right.reverse.Pairwise fun a b => lt a b = false := List.pairwise_reverse.mpr inRight
      have last : left.getLast? = some x := by rw [← List.head?_reverse, turned, List.head?_cons]
      have members : ∀ z ∈ rest, z ∈ left := fun z mem => by
        rw [← List.mem_reverse, turned]
        exact List.mem_cons_of_mem _ mem
      have guarded : Guarded (fun a b => lt a b = false) .back rest right.reverse := fun y last z mem =>
        compares.asymm (least y (by rwa [List.getLast?_reverse] at last) z (members z mem))
      have sorted := mergeFrom_pairwise compares.back .back (.single 0 0) patience own.of_cons other guarded trivial
      refine List.pairwise_reverse.mpr (cons_merged (mergeFrom_perm ..) sorted (fun _ => List.rel_of_pairwise_cons own) ?_)
      exact fun z mem => compares.asymm (greatest x last z (List.mem_reverse.mp mem))

theorem last_ordered (compares : Compares lt) {xs : List α} (sorted : Ordered lt xs) (last : xs.getLast? = some x) :
    ∀ y ∈ xs, lt x y = false := by
  obtain ⟨before, rfl⟩ := List.getLast?_eq_some_iff.mp last
  intro y mem
  rcases List.mem_append.mp mem with early | same
  · exact (List.pairwise_append.mp sorted).2.2 y early x List.mem_cons_self
  · exact List.mem_singleton.mp same ▸ compares.irrefl x

theorem joined_ordered (compares : Compares lt) (patience size : Nat) {left right : List α}
    (inLeft : Ordered lt left) (inRight : Ordered lt right) (last : left.getLast? = some x)
    (least : ∀ y ∈ right.head?, ∀ a ∈ left, lt y a = true) (moved : ∀ z ∈ right.take size, lt z x = true)
    (stays : ∀ z ∈ right.drop size, lt z x = false) :
    Ordered lt ((merge.mergeInner lt patience left (right.take size)).1 ++ right.drop size) := by
  have parts := inRight
  rw [Ordered, ← List.take_append_drop size right, List.pairwise_append] at parts
  obtain ⟨inMoved, inRest, apart⟩ := parts
  have first : ∀ y ∈ (right.take size).head?, y ∈ right.head? := by
    intro y mem
    rw [List.head?_take] at mem
    split at mem
    · cases mem
    · exact mem
  have greatest : ∀ a ∈ left.getLast?, ∀ z ∈ right.take size, lt z a = true := by
    intro a final
    cases last.symm.trans final
    exact moved
  have merged := mergeInner_ordered compares patience inLeft inMoved (fun y mem => least y (first y mem)) greatest
  refine List.pairwise_append.mpr ⟨merged, inRest, fun a mem z among => ?_⟩
  rcases List.mem_append.mp ((mergeInner_perm ..).mem_iff.mp mem) with own | other
  · exact compares.trans (last_ordered compares inLeft last a own) (stays z among)
  · exact apart a other z among

theorem merge_ordered (compares : Compares lt) (patience : Nat) {left right : List α}
    (inLeft : Ordered lt left) (inRight : Ordered lt right) : Ordered lt (merge lt patience left right).1 := by
  unfold merge
  split
  · exact inLeft
  · rename_i y more
    have least : ∀ z ∈ y :: more, lt z y = false := rank_all compares.front inRight (compares.irrefl y)
    have fronted : Fronted (fun x => !lt y x) left := inLeft.imp fun before has => by
      simpa using compares.trans before (by simpa using has)
    have start := reach_between false fronted
    generalize reach false (fun x => !lt y x) left = kept at *
    have apart : ∀ x ∈ left.take kept, ∀ z ∈ y :: more, lt z x = false :=
      fun x mem z among => compares.trans (by simpa using start.before x mem) (least z among)
    simp only
    split
    · rename_i ended
      have none := List.getLast?_eq_none_iff.mp ended
      have all : left.take kept = left := List.take_of_length_le (List.drop_eq_nil_iff.mp none)
      exact List.pairwise_append.mpr ⟨inLeft, inRight, all ▸ apart⟩
    · rename_i x last
      have fronted : Fronted (fun z => !lt z x) (y :: more).reverse :=
        (List.pairwise_reverse.mpr inRight).imp fun before has => by
          simpa using compares.trans (by simpa using has) before
      have ends := reach_between true fronted
      generalize reach true (fun z => !lt z x) (y :: more).reverse = stays at *
      have moved : ∀ z ∈ (y :: more).take ((y :: more).length - stays), lt z x = true := by
        intro z mem
        have behind := ends.behind z (by rw [List.drop_reverse]; exact List.mem_reverse.mpr mem)
        simpa using behind
      have rest : ∀ z ∈ (y :: more).drop ((y :: more).length - stays), lt z x = false := by
        intro z mem
        have before := ends.before z (by rw [List.take_reverse]; exact List.mem_reverse.mpr mem)
        simpa using before
      generalize (y :: more).length - stays = size at *
      have joined := joined_ordered compares patience size (inLeft.sublist (List.drop_sublist kept left)) inRight last
        (fun z same a mem => by cases same; simpa using start.behind a mem) moved rest
      have perm := (mergeInner_perm lt patience (left.drop kept) ((y :: more).take size)).append_right
        ((y :: more).drop size)
      rw [List.append_assoc, List.take_append_drop] at perm
      rw [List.append_assoc]
      exact stretch_merged kept perm joined inLeft apart

end Order

section Runs

variable {lt : α → α → Bool}

theorem descending_ordered (compares : Compares lt) (previous : α) (xs : List α) :
    (previous :: descending lt previous xs).Pairwise fun a b => lt a b = false := by
  induction xs generalizing previous with
  | nil => exact List.pairwise_singleton ..
  | cons x rest ih =>
    unfold descending
    split
    · rename_i falls
      exact List.pairwise_cons.mpr ⟨rank_all compares.back (ih x) (compares.asymm falls), ih x⟩
    · exact List.pairwise_singleton ..

theorem ascending_ordered (compares : Compares lt) (previous : α) (xs : List α) :
    Ordered lt (previous :: ascending lt previous xs) := by
  induction xs generalizing previous with
  | nil => exact List.pairwise_singleton ..
  | cons x rest ih =>
    unfold ascending
    split
    · exact List.pairwise_singleton ..
    · rename_i rises
      exact List.pairwise_cons.mpr ⟨rank_all compares.front (ih x) (by simpa using rises), ih x⟩

theorem firstRun_ordered (compares : Compares lt) (xs : List α) : Ordered lt (firstRun lt xs) := by
  match xs with
  | [] => exact .nil
  | [x] => exact List.pairwise_singleton ..
  | x :: y :: rest =>
    simp only [firstRun]
    split
    · exact List.pairwise_reverse.mpr (descending_ordered compares x (y :: rest))
    · exact ascending_ordered compares x (y :: rest)

theorem insertIdx_eq {xs : List α} (inside : n ≤ xs.length) (x : α) :
    xs.insertIdx n x = xs.take n ++ x :: xs.drop n := by
  induction n generalizing xs with
  | zero => rfl
  | succ n ih =>
    cases xs with
    | nil => cases inside
    | cons y rest => simp [ih (Nat.le_of_succ_le_succ inside)]

theorem insert_ordered (compares : Compares lt) {sorted : List α} (inOrder : Ordered lt sorted) (x : α) :
    Ordered lt (insert lt sorted x) := by
  have fronted : Fronted (fun y => !lt x y) sorted := inOrder.imp fun before has => by
    simpa using compares.trans before (by simpa using has)
  have found := bisect_between false fronted (Nat.zero_le _) (Nat.le_refl _) ⟨by simp, by simp⟩
  have inside := bisect_le false (fun y => !lt x y) sorted.toArray (Nat.zero_le sorted.length)
  unfold insert
  generalize bisect false (fun y => !lt x y) sorted.toArray 0 sorted.length = place at *
  rw [insertIdx_eq inside]
  have behind : Ordered lt (x :: sorted.drop place) := List.pairwise_cons.mpr
    ⟨fun y mem => compares.asymm (by simpa using found.behind y mem), inOrder.sublist (List.drop_sublist ..)⟩
  exact stretch_merged place (List.perm_append_singleton x _).symm behind inOrder fun y mem z last =>
    List.mem_singleton.mp last ▸ by simpa using found.before y mem

theorem foldl_insert_ordered (compares : Compares lt) {sorted : List α} (inOrder : Ordered lt sorted) (xs : List α) :
    Ordered lt (xs.foldl (insert lt) sorted) := by
  induction xs generalizing sorted with
  | nil => exact inOrder
  | cons x rest ih => exact ih (insert_ordered compares inOrder x)

theorem nextRun_ordered (compares : Compares lt) (size : Nat) (xs : List α) : Ordered lt (nextRun lt size xs).1 :=
  foldl_insert_ordered compares (firstRun_ordered compares xs) _

end Runs

section Stack

variable {lt : α → α → Bool}

-- Every run that waits is in order.
def Stacked (lt : α → α → Bool) (runs : List (Pending α)) : Prop := ∀ r ∈ runs, Ordered lt r.items

theorem Stacked.joined (compares : Compares lt) {before last : Pending α} {runs rest : List (Pending α)}
    (stacked : Stacked lt runs) (mem : before ∈ runs) (mem' : last ∈ runs)
    (joined : merge lt patience before.items last.items = (merged, patience')) (kept : Stacked lt rest) :
    Stacked lt (⟨merged, deep⟩ :: rest) := by
  have ordered := merge_ordered compares patience (stacked before mem) (stacked last mem')
  rw [joined] at ordered
  exact List.forall_mem_cons.mpr ⟨ordered, kept⟩

theorem collapse_stacked (compares : Compares lt) {depth patience : Nat} {runs : List (Pending α)}
    (stacked : Stacked lt runs) : Stacked lt (Stack.collapse lt depth patience runs).runs := by
  fun_induction Stack.collapse lt depth patience runs with
  | case1 patience last previous rest deeper merged patience' result ih =>
    exact ih (stacked.joined compares (by simp) (by simp) result fun r mem => stacked r (by simp [mem]))
  | case2 => exact stacked
  | case3 => exact stacked

theorem mark_stacked {runs : List (Pending α)} (stacked : Stacked lt runs) (depth : Nat) :
    Stacked lt (Stack.mark depth runs) := by
  cases runs with
  | nil => exact stacked
  | cons last rest => exact List.forall_mem_cons.mpr (List.forall_mem_cons.mp stacked)

theorem push_stacked (compares : Compares lt) (size : Nat) {s : Stack α} {run : List α}
    (stacked : Stacked lt s.runs) (inOrder : Ordered lt run) : Stacked lt (s.push lt size run).runs := by
  obtain ⟨runs, patience⟩ := s
  cases runs with
  | nil => exact List.forall_mem_singleton.mpr inOrder
  | cons last rest =>
    exact List.forall_mem_cons.mpr ⟨inOrder, mark_stacked (collapse_stacked compares stacked) _⟩

theorem stackRuns_stacked (compares : Compares lt) (size : Nat) {s : Stack α} {xs : List α}
    (stacked : Stacked lt s.runs) : Stacked lt (stackRuns lt size s xs).runs := by
  fun_induction stackRuns lt size s xs with
  | case1 s => exact stacked
  | case2 s x rest found ih => exact ih (push_stacked compares size stacked (nextRun_ordered compares _ _))

theorem mergeAll_ordered (compares : Compares lt) {patience : Nat} {runs : List (Pending α)}
    (stacked : Stacked lt runs) : Ordered lt (Stack.mergeAll lt patience runs) := by
  fun_induction Stack.mergeAll lt patience runs with
  | case1 => exact .nil
  | case2 patience only => exact stacked only List.mem_cons_self
  | case3 patience last previous => exact merge_ordered compares _ (stacked previous (by simp)) (stacked last (by simp))
  | case4 patience last previous third rest shorter merged patience' result ih =>
    have joined : Stacked lt (⟨merged, third.depth⟩ :: rest) :=
      stacked.joined compares (by simp) (by simp) result fun r mem => stacked r (by simp [mem])
    exact ih (List.forall_mem_cons.mpr ⟨stacked last (by simp), joined⟩)
  | case5 patience last previous third rest longer merged patience' result ih =>
    exact ih (stacked.joined compares (by simp) (by simp) result fun r mem => stacked r (by simp_all))

end Stack

variable {lt : α → α → Bool}

theorem sort_ordered (compares : Compares lt) (xs : List α) : Ordered lt (sort lt xs) :=
  mergeAll_ordered compares (stackRuns_stacked compares _ fun _ mem => absurd mem List.not_mem_nil)

-- Without ties the order in which the elements came is not seen.
theorem sort_eq_of_perm (compares : Compares lt) {xs ys : List α} (perm : xs.Perm ys)
    (tie : ∀ a ∈ xs, ∀ b ∈ xs, lt a b = false → lt b a = false → a = b) : sort lt xs = sort lt ys := by
  have perm' : (sort lt xs).Perm (sort lt ys) := (sort_perm lt xs).trans (perm.trans (sort_perm lt ys).symm)
  refine List.Perm.eq_of_pairwise (fun a b mem mem' behind before => ?_) (sort_ordered compares xs)
    (sort_ordered compares ys) perm'
  exact tie a ((sort_perm lt xs).mem_iff.mp mem) b (perm.mem_iff.mpr ((sort_perm lt ys).mem_iff.mp mem')) before behind

theorem foldl_least (compares : Compares lt) (best : α) (xs : List α) :
    ∀ y ∈ best :: xs, lt y (xs.foldl (fun best y => if lt y best then y else best) best) = false := by
  induction xs generalizing best with
  | nil => exact List.forall_mem_singleton.mpr (compares.irrefl best)
  | cons x rest ih =>
    rw [List.foldl_cons]
    have later := ih (if lt x best then x else best)
    have chosen := later _ List.mem_cons_self
    refine List.forall_mem_cons.mpr ⟨?_, List.forall_mem_cons.mpr
      ⟨?_, fun y mem => later y (List.mem_cons_of_mem _ mem)⟩⟩
    · refine compares.trans chosen ?_
      split
      · exact compares.asymm ‹_›
      · exact compares.irrefl best
    · refine compares.trans chosen ?_
      split
      · exact compares.irrefl x
      · simpa using ‹¬lt x best = true›

theorem least?_least (compares : Compares lt) {xs : List α} (found : least? lt xs = some x) :
    ∀ y ∈ xs, lt y x = false := by
  cases xs with
  | nil => exact fun _ mem => absurd mem List.not_mem_nil
  | cons first rest => exact Option.some.inj found ▸ foldl_least compares first rest

theorem least?_eq_of_perm (compares : Compares lt) {xs ys : List α} (perm : xs.Perm ys)
    (tie : ∀ a ∈ xs, ∀ b ∈ xs, lt a b = false → lt b a = false → a = b) : least? lt xs = least? lt ys := by
  cases left : least? lt xs with
  | none =>
    cases xs with
    | nil => rw [List.nil_perm.mp perm]; rfl
    | cons _ _ => cases left
  | some a =>
    cases right : least? lt ys with
    | none =>
      cases ys with
      | nil => rw [List.perm_nil.mp perm] at left; cases left
      | cons _ _ => cases right
    | some b =>
      have other : b ∈ xs := perm.mem_iff.mpr (least_mem right)
      exact congrArg some (tie a (least_mem left) b other (least?_least compares right a (perm.mem_iff.mp (least_mem left)))
        (least?_least compares left b other))

section Linear

variable {κ : Type} [LinearOrder κ]

theorem compares_linear : Compares fun a b : κ => decide (a < b) where
  asymm := fun before => by simpa using le_of_lt (of_decide_eq_true before)
  trans := fun before behind => by
    simp only [decide_eq_false_iff_not, not_lt] at *
    exact le_trans before behind

-- Elements are compared by a rank.
theorem compares_rank (rank : α → κ) : Compares fun a b => decide (rank a < rank b) where
  asymm := compares_linear.asymm
  trans := compares_linear.trans

theorem sort_linear_eq {xs ys : List κ} (perm : xs.Perm ys) :
    sort (fun a b => decide (a < b)) xs = sort (fun a b => decide (a < b)) ys := by
  refine sort_eq_of_perm compares_linear perm fun a _ b _ before behind => ?_
  exact le_antisymm (by simpa using behind) (by simpa using before)

theorem least?_linear_eq {xs ys : List κ} (perm : xs.Perm ys) :
    least? (fun a b => decide (a < b)) xs = least? (fun a b => decide (a < b)) ys := by
  refine least?_eq_of_perm compares_linear perm fun a _ b _ before behind => ?_
  exact le_antisymm (by simpa using behind) (by simpa using before)

end Linear

end Orchestration.Sort
