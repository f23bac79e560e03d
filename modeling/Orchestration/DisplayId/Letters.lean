namespace Orchestration.Letters

-- A to Z, then AA, AB and so on: numerals to the base 26 without a zero digit.
def letter (digit : Nat) : Char := Char.ofNat (65 + digit)

-- The letters of a number counted from one; none for zero.
def digits (n : Nat) : List Char :=
  if n = 0 then [] else digits ((n - 1) / 26) ++ [letter ((n - 1) % 26)]
termination_by n
decreasing_by omega

-- The letters of the branch with an index, counted from zero.
def ofIndex (index : Nat) : String := String.ofList (digits (index + 1))

def negativeIndex : String := "branch index must be non-negative"

def ofInt (index : Int) : Except String String :=
  if index < 0 then .error negativeIndex else .ok (ofIndex index.toNat)

def value (letters : List Char) : Nat :=
  letters.foldl (fun n c => 26 * n + (c.toNat - 64)) 0

theorem toNat_letter {digit : Nat} (h : digit < 26) : (letter digit).toNat = 65 + digit := by
  unfold letter
  rw [Char.ofNat, dif_pos (Or.inl (by omega))]
  rfl

theorem value_append (letters : List Char) (c : Char) :
    value (letters ++ [c]) = 26 * value letters + (c.toNat - 64) := by
  simp [value]

theorem value_digits (n : Nat) : value (digits n) = n := by
  induction n using digits.induct with
  | case1 => simp [digits, value]
  | case2 n h ih =>
    rw [digits, if_neg h, value_append, ih, toNat_letter (Nat.mod_lt _ (by decide))]
    omega

theorem digits_ne_nil {n : Nat} (h : n ≠ 0) : digits n ≠ [] := by
  unfold digits
  simp [h]

example : ofIndex 25 = "Z" ∧ ofIndex 26 = "AA" ∧ ofIndex 701 = "ZZ" ∧ ofIndex 702 = "AAA" := by
  decide +kernel

end Orchestration.Letters
