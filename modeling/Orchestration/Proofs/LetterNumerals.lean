import Mathlib.Data.List.Induction
import Mathlib.Data.List.Shortlex
import Orchestration.Proofs.DisplayIds

namespace Orchestration.Letters

-- How letters are written, beginning with the last one: from a number that is left and from what was written of it,
-- until nothing is left.
inductive Writes : Nat → List Char → List Char → Prop where
  | done : Writes 0 written written
  | turn : Writes (left / 26) (letter (left % 26) :: written) text → Writes (left + 1) written text

theorem writes_digits (n : Nat) (written : List Char) : Writes n written (digits n ++ written) := by
  induction n using digits.induct generalizing written with
  | case1 =>
    rw [digits]
    exact .done
  | case2 n positive ih =>
    obtain ⟨left, rfl⟩ := Nat.exists_eq_succ_of_ne_zero positive
    have rest := ih (letter (left % 26) :: written)
    rw [digits, if_neg positive, List.append_assoc]
    exact .turn rest

theorem Writes.unique (writes : Writes n written text) (other : Writes n written text') : text = text' := by
  induction writes with
  | done =>
    cases other
    rfl
  | turn _ ih =>
    cases other with
    | turn rest => exact ih rest

def IsCapital (c : Char) : Prop := 'A' ≤ c ∧ c ≤ 'Z'

instance : DecidablePred IsCapital := fun _ => inferInstanceAs (Decidable (_ ∧ _))

theorem isCapital_iff {c : Char} : IsCapital c ↔ 65 ≤ c.toNat ∧ c.toNat ≤ 90 := Iff.rfl

theorem isCapital_letter {digit : Nat} (small : digit < 26) : IsCapital (letter digit) := by
  rw [isCapital_iff, toNat_letter small]
  omega

theorem IsCapital.letter_eq (capital : IsCapital c) : letter (c.toNat - 65) = c := by
  obtain ⟨first, last⟩ := isCapital_iff.mp capital
  rw [letter, Nat.add_sub_cancel' first, Char.ofNat_toNat]

theorem digits_value (capitals : ∀ c ∈ text, IsCapital c) : digits (value text) = text := by
  induction text using List.reverseRecOn with
  | nil => simp [value, digits]
  | append_singleton before c ih =>
    have capital := capitals c (by simp)
    obtain ⟨first, last⟩ := isCapital_iff.mp capital
    have left : (26 * value before + (c.toNat - 64) - 1) / 26 = value before := by omega
    have digit : (26 * value before + (c.toNat - 64) - 1) % 26 = c.toNat - 65 := by omega
    rw [value_append, digits, if_neg (by omega), left, digit, capital.letter_eq,
      ih fun d mem => capitals d (List.mem_append_left _ mem)]

theorem value_pos (some : text ≠ []) (capitals : ∀ c ∈ text, IsCapital c) : 0 < value text := by
  rw [Nat.pos_iff_ne_zero]
  intro none
  have empty := digits_value capitals
  rw [none, digits, if_pos rfl] at empty
  exact some empty.symm

theorem letter_lt {a b : Nat} (less : a < b) (small : b < 26) : letter a < letter b := by
  have codes : (letter a).toNat < (letter b).toNat := by
    rw [toNat_letter (by omega), toNat_letter small]
    omega
  exact codes

-- Where two lists of one length differ, it does not matter what stands behind them.
theorem lex_append {r : α → α → Prop} {s t : List α} (before : List.Lex r s t) (even : s.length = t.length)
    (u v : List α) : List.Lex r (s ++ u) (t ++ v) := by
  induction before with
  | nil => cases even
  | cons _ ih => exact .cons (ih (Nat.succ.inj even))
  | rel less => exact .rel less

-- A smaller number has either less in front of its last letter, or the same and a smaller last letter.
theorem digits_before {m n : Nat} (less : m < n) : List.Shortlex (· < ·) (digits m) (digits n) := by
  induction n using digits.induct generalizing m with
  | case1 => cases less
  | case2 n positive ih =>
    by_cases zero : m = 0
    · subst zero
      refine .of_length_lt ?_
      rw [digits, if_pos rfl]
      exact List.length_pos_of_ne_nil (digits_ne_nil positive)
    · rw [digits, if_neg zero, digits.eq_def n, if_neg positive]
      have carried : (m - 1) / 26 < (n - 1) / 26 ∨
          (m - 1) / 26 = (n - 1) / 26 ∧ (m - 1) % 26 < (n - 1) % 26 := by omega
      rcases carried with front | ⟨same, last⟩
      · rcases List.shortlex_def.mp (ih front) with shorter | ⟨even, before⟩
        · exact .of_length_lt (by simpa using shorter)
        · exact .of_lex (by simpa using even) (lex_append before even _ _)
      · rw [same]
        refine .of_lex (by simp) (List.Lex.append_left _ (.rel ?_) _)
        exact letter_lt last (Nat.mod_lt _ (by decide))

theorem digits_before_iff {m n : Nat} : List.Shortlex (· < ·) (digits m) (digits n) ↔ m < n := by
  refine ⟨fun before => ?_, digits_before⟩
  rcases Nat.lt_trichotomy m n with less | rfl | more
  · exact less
  · exact absurd before (Std.Asymm.asymm _ _ before)
  · exact absurd before (Std.Asymm.asymm _ _ (digits_before more))

theorem ofInt_ofNat (n : Nat) : ofInt n = .ok (ofIndex n) := by
  rw [ofInt, if_neg (by omega), Int.toNat_natCast]

theorem ofInt_eq_iff {n : Nat} {text : List Char} : ofInt n = .ok (String.ofList text) ↔ digits (n + 1) = text := by
  rw [ofInt_ofNat, Except.ok.injEq, ofIndex, String.ofList_inj]

-- Letters are written to an end for every branch, their value is its number, counted from one, every text of capital
-- letters is written for exactly one branch, and the texts come in the order of the branches.
theorem letters_numeration :
    (∀ n : Nat, ∃ text, ofInt n = .ok (String.ofList text) ∧ (∀ ending, Writes (n + 1) [] ending ↔ ending = text) ∧
      text ≠ [] ∧ (∀ c ∈ text, IsCapital c) ∧ value text = n + 1) ∧
    (∀ text, text ≠ [] → (∀ c ∈ text, IsCapital c) → ∃! n : Nat, ofInt n = .ok (String.ofList text)) ∧
    ∀ m n : Nat, m < n ↔ List.Shortlex (· < ·) (ofIndex m).toList (ofIndex n).toList := by
  refine ⟨fun n => ⟨digits (n + 1), ?_, ?_, ?_, ?_, ?_⟩, fun text some capitals => ?_, fun m n => ?_⟩
  · exact ofInt_eq_iff.mpr rfl
  · have ends : Writes (n + 1) [] (digits (n + 1)) := by simpa using writes_digits (n + 1) []
    exact fun ending => ⟨fun writes => writes.unique ends, fun same => same ▸ ends⟩
  · exact digits_ne_nil n.succ_ne_zero
  · exact forall_digits (fun _ => isCapital_letter) _
  · exact value_digits _
  · have positive := value_pos some capitals
    refine ⟨value text - 1, ofInt_eq_iff.mpr ?_, fun n written => ?_⟩
    · rw [Nat.sub_add_cancel positive, digits_value capitals]
    · have number := congrArg value (ofInt_eq_iff.mp written)
      rw [value_digits] at number
      omega
  · rw [ofIndex, ofIndex, String.toList_ofList, String.toList_ofList, digits_before_iff, Nat.succ_lt_succ_iff]

-- The letters behind ZZ.
def carried : List Char := ['A', 'A', 'A']

theorem carried_numeral : carried ≠ [] ∧ (∀ c ∈ carried, IsCapital c) ∧
    (∃! n : Nat, ofInt n = .ok (String.ofList carried)) ∧
    List.Shortlex (· < ·) (ofIndex 701).toList (ofIndex 702).toList ∧ ofIndex 701 = "ZZ" ∧
    ofIndex 702 = String.ofList carried := by
  obtain ⟨-, numerals, order⟩ := letters_numeration
  have first : IsCapital 'A' := by decide
  have capitals : ∀ c ∈ carried, IsCapital c := by simp [carried, first]
  have some : carried ≠ [] := List.cons_ne_nil _ _
  exact ⟨some, capitals, numerals carried some capitals, (order 701 702).mp (Nat.lt_succ_self 701), by decide +kernel,
    by decide +kernel⟩

end Orchestration.Letters
