import Orchestration.Json.Dump
import Orchestration.Proofs.Finite

namespace Orchestration.Json

theorem itemsFault_none {levels : Nat} {items : List Json} :
    itemsFault levels items = none ↔ ∀ v ∈ items, faultWithin levels v = none := by
  induction items with
  | nil => simp [itemsFault]
  | cons v rest ih =>
    rw [List.forall_mem_cons, ← ih]
    cases first : faultWithin levels v <;> simp [itemsFault, first]

theorem membersFault_none {levels : Nat} {m : Members} :
    membersFault levels m = none ↔
      ∀ kv ∈ m, Text.hasHalf kv.1 = false ∧ faultWithin levels kv.2 = none := by
  induction m with
  | nil => simp [membersFault]
  | cons kv rest ih =>
    obtain ⟨key, v⟩ := kv
    rw [List.forall_mem_cons, ← ih]
    cases half : Text.hasHalf key <;> cases first : faultWithin levels v <;>
      simp [membersFault, half, first]

theorem faultWithin_arr {levels : Nat} {items : List Json} :
    faultWithin (levels + 1) (.arr items) = none ↔ ∀ v ∈ items, faultWithin levels v = none := by
  rw [faultWithin, itemsFault_none]

theorem faultWithin_obj {levels : Nat} {m : Members} :
    faultWithin (levels + 1) (.obj m) = none ↔
      ∀ kv ∈ m, Text.hasHalf kv.1 = false ∧ faultWithin levels kv.2 = none := by
  rw [faultWithin, membersFault_none]

@[simp] theorem faultWithin_null (levels : Nat) : faultWithin (levels + 1) .null = none := rfl
@[simp] theorem faultWithin_bool (levels : Nat) (b : Bool) : faultWithin (levels + 1) (.bool b) = none := rfl
@[simp] theorem faultWithin_int (levels : Nat) (n : Int) : faultWithin (levels + 1) (.int n) = none := rfl
@[simp] theorem faultWithin_float (levels : Nat) (x : Binary64) : faultWithin (levels + 1) (.float x) = none := rfl
@[simp] theorem faultWithin_str (levels : Nat) (s : String) : faultWithin (levels + 1) (.str s) = none := rfl

@[simp] theorem faultWithin_ofText (levels : Nat) (o : Option String) :
    faultWithin (levels + 1) (.ofText? o) = none := by
  cases o <;> rfl

@[simp] theorem faultWithin_ofInt (levels : Nat) (o : Option Int) : faultWithin (levels + 1) (.ofInt? o) = none := by
  cases o <;> rfl

theorem faultWithin_mono {levels more : Nat} {v : Json} (fits : faultWithin levels v = none)
    (less : levels ≤ more) : faultWithin more v = none := by
  induction levels generalizing more v with
  | zero =>
    rw [faultWithin] at fits
    cases fits
  | succ levels ih =>
    obtain ⟨more, rfl⟩ : ∃ below, more = below + 1 := ⟨more - 1, by omega⟩
    have less : levels ≤ more := by omega
    cases v with
    | arr items =>
      rw [faultWithin_arr] at fits ⊢
      exact fun v mem => ih (fits v mem) less
    | obj m =>
      rw [faultWithin_obj] at fits ⊢
      exact fun kv mem => ⟨(fits kv mem).1, ih (fits kv mem).2 less⟩
    | null | bool _ | int _ | float _ | str _ => rfl

theorem membersFault_mono {levels more : Nat} {m : Members} (fits : membersFault levels m = none)
    (less : levels ≤ more) : membersFault more m = none := by
  rw [membersFault_none] at fits ⊢
  exact fun kv mem => ⟨(fits kv mem).1, faultWithin_mono (fits kv mem).2 less⟩

theorem faultWithin_finiteOnly {levels : Nat} {v : Json} :
    faultWithin levels v.finiteOnly = none ↔ faultWithin levels v = none := by
  induction levels generalizing v with
  | zero => simp [faultWithin]
  | succ levels ih =>
    cases v with
    | float x => cases finite : x.isFinite <;> simp [finiteOnly, finite, faultWithin]
    | arr items =>
      rw [finiteOnly, faultWithin_arr, faultWithin_arr, finiteItems_eq_map, List.forall_mem_map]
      simp only [ih]
    | obj m =>
      rw [finiteOnly, faultWithin_obj, faultWithin_obj, finiteMembers_eq_map, List.forall_mem_map]
      simp only [ih]
    | null | bool _ | int _ | str _ => rfl

theorem membersFault_finite {levels : Nat} {m : Members} :
    membersFault levels (finiteMembers m) = none ↔ membersFault levels m = none := by
  rw [membersFault_none, membersFault_none, finiteMembers_eq_map, List.forall_mem_map]
  simp only [faultWithin_finiteOnly]

theorem membersFault_append {levels : Nat} {m more : Members} :
    membersFault levels (m ++ more) = none ↔ membersFault levels m = none ∧ membersFault levels more = none := by
  simp only [membersFault_none, List.forall_mem_append]

theorem faultWithin_texts (levels : Nat) (texts : List String) :
    faultWithin (levels + 2) (.arr (texts.map .str)) = none := by
  rw [faultWithin_arr, List.forall_mem_map]
  exact fun _ _ => rfl

theorem itemsWithin_iff {levels : Nat} {items : List Json} :
    itemsWithin (levels + 1) items = true ↔ ∀ v ∈ items, within levels v = true := by
  induction items with
  | nil => simp [itemsWithin]
  | cons v rest ih => rw [itemsWithin, Bool.and_eq_true, ih, List.forall_mem_cons]

theorem membersWithin_iff {levels : Nat} {m : Members} :
    membersWithin (levels + 1) m = true ↔ ∀ kv ∈ m, within levels kv.2 = true := by
  induction m with
  | nil => simp [membersWithin]
  | cons kv rest ih => rw [membersWithin, Bool.and_eq_true, ih, List.forall_mem_cons]

theorem within_arr {levels : Nat} {items : List Json} :
    within (levels + 1) (.arr items) = true ↔ ∀ v ∈ items, within levels v = true := by
  rw [within, itemsWithin_iff]

theorem within_obj {levels : Nat} {m : Members} :
    within (levels + 1) (.obj m) = true ↔ ∀ kv ∈ m, within levels kv.2 = true := by
  rw [within, membersWithin_iff]

theorem within_ofText (levels : Nat) (o : Option String) : within levels (.ofText? o) = true := by
  cases o <;> simp [ofText?, within]

theorem within_ofInt (levels : Nat) (o : Option Int) : within levels (.ofInt? o) = true := by
  cases o <;> simp [ofInt?, within]

theorem within_finiteOnly {levels : Nat} {v : Json} : within levels v.finiteOnly = within levels v := by
  induction levels generalizing v with
  | zero =>
    cases v with
    | float x => cases finite : x.isFinite <;> simp [finiteOnly, finite, within]
    | arr items => cases items <;> simp [finiteOnly, finiteItems, within, itemsWithin]
    | obj m => cases m <;> simp [finiteOnly, finiteMembers, within, membersWithin]
    | null | bool _ | int _ | str _ => rfl
  | succ levels ih =>
    cases v with
    | float x => cases finite : x.isFinite <;> simp [finiteOnly, finite, within]
    | arr items =>
      rw [finiteOnly, Bool.eq_iff_iff, within_arr, within_arr, finiteItems_eq_map, List.forall_mem_map]
      simp only [ih]
    | obj m =>
      rw [finiteOnly, Bool.eq_iff_iff, within_obj, within_obj, finiteMembers_eq_map, List.forall_mem_map]
      simp only [ih]
    | null | bool _ | int _ | str _ => rfl

theorem itemsHalf_eq_false {items : List Json} : itemsHalf items = false ↔ ∀ v ∈ items, v.hasHalf = false := by
  induction items with
  | nil => simp [itemsHalf]
  | cons v rest ih => rw [itemsHalf, Bool.or_eq_false_iff, ih, List.forall_mem_cons]

theorem membersHalf_eq_false {m : Members} :
    membersHalf m = false ↔ ∀ kv ∈ m, Text.hasHalf kv.1 = false ∧ kv.2.hasHalf = false := by
  induction m with
  | nil => simp [membersHalf]
  | cons kv rest ih =>
    rw [membersHalf, Bool.or_eq_false_iff, Bool.or_eq_false_iff, ih, List.forall_mem_cons]

theorem hasHalf_arr {items : List Json} : (Json.arr items).hasHalf = false ↔ ∀ v ∈ items, v.hasHalf = false := by
  rw [hasHalf, itemsHalf_eq_false]

theorem hasHalf_obj {m : Members} :
    (Json.obj m).hasHalf = false ↔ ∀ kv ∈ m, Text.hasHalf kv.1 = false ∧ kv.2.hasHalf = false := by
  rw [hasHalf, membersHalf_eq_false]

-- What lies so many levels down takes one level more when it is handed out, for it takes one itself.
theorem faultWithin_of_within {levels more : Nat} {v : Json} (shallow : within levels v = true)
    (whole : v.hasHalf = false) (less : levels < more) : faultWithin more v = none := by
  obtain ⟨more, rfl⟩ : ∃ below, more = below + 1 := ⟨more - 1, by omega⟩
  induction levels generalizing more v with
  | zero =>
    cases v with
    | arr items => cases items <;> simp_all [within, itemsWithin, faultWithin, itemsFault]
    | obj m => cases m <;> simp_all [within, membersWithin, faultWithin, membersFault]
    | null | bool _ | int _ | float _ | str _ => rfl
  | succ levels ih =>
    obtain ⟨more, rfl⟩ : ∃ below, more = below + 1 := ⟨more - 1, by omega⟩
    have less : levels < more + 1 := by omega
    cases v with
    | arr items =>
      rw [within_arr] at shallow
      rw [hasHalf_arr] at whole
      rw [faultWithin_arr]
      exact fun v mem => ih (shallow v mem) (whole v mem) more less
    | obj m =>
      rw [within_obj] at shallow
      rw [hasHalf_obj] at whole
      rw [faultWithin_obj]
      exact fun kv mem => ⟨(whole kv mem).1, ih (shallow kv mem) (whole kv mem).2 more less⟩
    | null | bool _ | int _ | float _ | str _ => rfl

theorem within_of_faultWithin {levels more : Nat} {v : Json} (fits : faultWithin levels v = none)
    (less : levels ≤ more + 1) : within more v = true := by
  induction levels generalizing more v with
  | zero =>
    rw [faultWithin] at fits
    cases fits
  | succ levels ih =>
    cases v with
    | arr items =>
      rw [faultWithin_arr] at fits
      cases more with
      | zero =>
        cases items with
        | nil => rfl
        | cons v rest =>
          have first := fits v List.mem_cons_self
          rw [show levels = 0 by omega, faultWithin] at first
          cases first
      | succ more =>
        rw [within_arr]
        exact fun v mem => ih (fits v mem) (by omega)
    | obj m =>
      rw [faultWithin_obj] at fits
      cases more with
      | zero =>
        cases m with
        | nil => rfl
        | cons kv rest =>
          have first := (fits kv List.mem_cons_self).2
          rw [show levels = 0 by omega, faultWithin] at first
          cases first
      | succ more =>
        rw [within_obj]
        exact fun kv mem => ih (fits kv mem).2 (by omega)
    | null | bool _ | int _ | float _ | str _ => simp [within]

end Orchestration.Json
