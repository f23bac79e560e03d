import Mathlib.Algebra.Order.Field.Power
import Mathlib.Data.Int.Log
import Mathlib.Data.Rat.Floor
import Mathlib.Tactic.FieldSimp
import Mathlib.Tactic.GCongr
import Mathlib.Tactic.NormNum
import Mathlib.Tactic.Positivity
import Mathlib.Tactic.Ring
import Orchestration.Number.Binary64

namespace Orchestration.Binary64

theorem two_zpow_pos (e : Int) : (0 : ℚ) < 2 ^ e := zpow_pos (by norm_num) e

theorem scaled_positive (num : Nat) {den : Nat} (positive : 0 < den) (e : Int) : 0 < (scaled num den e).2 := by
  unfold scaled
  split
  · exact Nat.mul_pos positive (Nat.pow_pos (by decide))
  · exact positive

theorem scaled_value (num den : Nat) (e : Int) :
    ((scaled num den e).1 : ℚ) / (scaled num den e).2 = (num : ℚ) / den / 2 ^ e := by
  unfold scaled
  split
  · rename_i up
    obtain ⟨n, rfl⟩ := Int.eq_ofNat_of_zero_le up
    simp only [Int.toNat_natCast, Nat.pow_eq, zpow_natCast]
    push_cast
    rw [div_div]
  · rename_i down
    obtain ⟨n, rfl⟩ : ∃ n : Nat, e = -(n : Int) := ⟨(-e).toNat, by omega⟩
    simp only [neg_neg, Int.toNat_natCast, Nat.pow_eq, zpow_neg, zpow_natCast]
    push_cast
    field_simp

-- The exponent of a quotient lies between the difference of the lengths and one below.
theorem log2_bracket {num den : Nat} (first : 0 < num) (second : 0 < den) :
    (2 : ℚ) ^ ((num.log2 : Int) - den.log2 - 1) ≤ num / den ∧
      (num : ℚ) / den < 2 ^ ((num.log2 : Int) - den.log2 + 1) := by
  have below : ((2 ^ num.log2 : Nat) : ℚ) ≤ num := Nat.cast_le.mpr (Nat.log2_self_le (by omega))
  have above : (num : ℚ) < (2 ^ (num.log2 + 1) : Nat) := Nat.cast_lt.mpr Nat.lt_log2_self
  have below' : ((2 ^ den.log2 : Nat) : ℚ) ≤ den := Nat.cast_le.mpr (Nat.log2_self_le (by omega))
  have above' : (den : ℚ) < (2 ^ (den.log2 + 1) : Nat) := Nat.cast_lt.mpr Nat.lt_log2_self
  have positive : (0 : ℚ) < den := Nat.cast_pos.mpr second
  push_cast at below above below' above'
  have low : (2 : ℚ) ^ ((num.log2 : Int) - den.log2 - 1) = 2 ^ num.log2 / 2 ^ (den.log2 + 1) := by
    rw [sub_sub, zpow_sub₀ (by norm_num), zpow_natCast]
    norm_cast
  have high : (2 : ℚ) ^ ((num.log2 : Int) - den.log2 + 1) = 2 ^ (num.log2 + 1) / 2 ^ den.log2 := by
    rw [sub_add_eq_add_sub, zpow_sub₀ (by norm_num), zpow_natCast]
    norm_cast
  rw [low, high]
  constructor
  · rw [div_le_div_iff₀ (by positivity) positive]
    calc (2 : ℚ) ^ num.log2 * den ≤ num * den := by gcongr
      _ ≤ num * 2 ^ (den.log2 + 1) := by gcongr
  · rw [div_lt_div_iff₀ positive (by positivity)]
    calc (num : ℚ) * 2 ^ den.log2 ≤ num * den := by gcongr
      _ < 2 ^ (num.log2 + 1) * den := by gcongr

theorem log_eq {r : ℚ} {e : Int} (positive : 0 < r) (low : 2 ^ e ≤ r) (high : r < 2 ^ (e + 1)) :
    Int.log 2 r = e := by
  have first : e ≤ Int.log 2 r := (Int.zpow_le_iff_le_log (by decide) positive).mp (by exact_mod_cast low)
  have second : Int.log 2 r < e + 1 := (Int.lt_zpow_iff_log_lt (by decide) positive).mp (by exact_mod_cast high)
  omega

theorem lastBit_eq {num den : Nat} (first : 0 < num) (second : 0 < den) :
    lastBit num den = max (-1074) (Int.log 2 ((num : ℚ) / den) - 52) := by
  have value := scaled_value num den ((num.log2 : Int) - den.log2)
  have positive : (0 : ℚ) < (scaled num den ((num.log2 : Int) - den.log2)).2 :=
    Nat.cast_pos.mpr (scaled_positive num second _)
  have ratio : (0 : ℚ) < (num : ℚ) / den := div_pos (Nat.cast_pos.mpr first) (Nat.cast_pos.mpr second)
  obtain ⟨low, high⟩ := log2_bracket first second
  unfold lastBit
  dsimp only
  generalize (num.log2 : Int) - den.log2 = guess at *
  congr 2
  split
  · rename_i less
    have small : (num : ℚ) / den < 2 ^ guess := by
      rw [← div_lt_one (two_zpow_pos guess), ← value, div_lt_one positive]
      exact Nat.cast_lt.mpr less
    exact (log_eq ratio low (by rwa [sub_add_cancel])).symm
  · rename_i reaches
    have large : (2 : ℚ) ^ guess ≤ num / den := by
      rw [← one_le_div (two_zpow_pos guess), ← value, one_le_div positive]
      exact Nat.cast_le.mpr (Nat.le_of_not_lt reaches)
    exact (log_eq ratio large high).symm

theorem roundQuotient_mul (num den : Nat) {k : Nat} (positive : 0 < k) :
    roundQuotient (num * k) (den * k) = roundQuotient num den := by
  have less : ∀ a b : Nat, a * k < b * k ↔ a < b := fun a b => Nat.mul_lt_mul_right positive
  simp only [roundQuotient, Nat.mul_div_mul_right _ _ positive, Nat.mul_mod_mul_right, ← Nat.mul_assoc, less]

theorem roundQuotient_congr {num den other against : Nat} (first : 0 < den) (second : 0 < against)
    (same : (num : ℚ) / den = other / against) : roundQuotient num den = roundQuotient other against := by
  have cross : num * against = other * den := by
    rw [div_eq_div_iff (Nat.cast_ne_zero.mpr (by omega)) (Nat.cast_ne_zero.mpr (by omega))] at same
    exact_mod_cast same
  rw [← roundQuotient_mul num den second, cross, Nat.mul_comm den, roundQuotient_mul other against first]

theorem roundQuotient_exact (n : Nat) {den : Nat} (positive : 0 < den) : roundQuotient (n * den) den = n := by
  simp [roundQuotient, Nat.mul_div_cancel _ positive, positive]

-- The place of the magnitude nearest to a quotient, which may lie past the last one.
def nearestPlace (num den : Nat) : Nat :=
  (lastBit num den + 1074).toNat * hidden +
    roundQuotient (scaled num den (lastBit num den)).1 (scaled num den (lastBit num den)).2

theorem ofQuotient_eq (negative : Bool) {num : Nat} (given : num ≠ 0) (den : Nat) :
    ofQuotient negative num den = if h : nearestPlace num den < places then
      .finite negative ⟨nearestPlace num den, h⟩ else .infinite negative := by
  rw [ofQuotient, if_neg given]
  rfl

theorem nearestPlace_congr {num den other against : Nat} (given : 0 < num) (first : 0 < den)
    (second : 0 < against) (same : (num : ℚ) / den = other / against) :
    nearestPlace num den = nearestPlace other against := by
  have positive : (0 : ℚ) < (num : ℚ) / den := div_pos (Nat.cast_pos.mpr given) (Nat.cast_pos.mpr first)
  have kept : 0 < other := by
    rw [same] at positive
    exact Nat.cast_pos.mp ((div_pos_iff_of_pos_right (Nat.cast_pos.mpr second)).mp positive)
  have bit : lastBit num den = lastBit other against := by
    rw [lastBit_eq given first, lastBit_eq kept second, same]
  have rounded := roundQuotient_congr (scaled_positive num first (lastBit num den))
    (scaled_positive other second (lastBit num den)) (by rw [scaled_value, scaled_value, same])
  rw [nearestPlace, nearestPlace, ← bit, rounded]

theorem ofQuotient_congr (negative : Bool) {num den other against : Nat} (first : 0 < den)
    (second : 0 < against) (same : (num : ℚ) / den = other / against) :
    ofQuotient negative num den = ofQuotient negative other against := by
  have zero : num = 0 ↔ other = 0 := by
    have one : (den : ℚ) ≠ 0 := Nat.cast_ne_zero.mpr (by omega)
    have two : (against : ℚ) ≠ 0 := Nat.cast_ne_zero.mpr (by omega)
    rw [← Nat.cast_eq_zero (R := ℚ), ← Nat.cast_eq_zero (R := ℚ) (n := other)]
    constructor
    · intro none
      simpa [none, two, eq_comm] using same
    · intro none
      simpa [none, one] using same
  by_cases given : num = 0
  · rw [ofQuotient, if_pos given, ofQuotient, if_pos (zero.mp given)]
  · have place := nearestPlace_congr (Nat.pos_of_ne_zero given) first second same
    rw [ofQuotient_eq negative given, ofQuotient_eq negative (mt zero.mpr given)]
    simp only [place]

theorem ofQuotient_sign {num den : Nat} {place : Fin places} (negative : Bool)
    (read : ofQuotient false num den = .finite false place) :
    ofQuotient negative num den = .finite negative place := by
  by_cases given : num = 0
  · rw [ofQuotient, if_pos given] at read ⊢
    cases read
    rfl
  · rw [ofQuotient_eq _ given] at read ⊢
    split at read
    · rename_i within
      cases read
      rw [dif_pos within]
    · cases read

section Place

variable (place : Nat)

theorem significand_pos (given : 0 < place) : 0 < significand place := by
  unfold significand hidden
  split <;> omega

theorem significand_lt : significand place < 2 * hidden := by
  unfold significand hidden
  split <;> omega

theorem exponent_ge : -1074 ≤ exponent place := by
  unfold exponent hidden
  split <;> omega

theorem significand_full (above : exponent place ≠ -1074) : hidden ≤ significand place := by
  unfold exponent at above
  unfold significand
  split at above
  · exact absurd rfl above
  · rename_i binade
    rw [if_neg binade]
    omega

theorem place_eq : (exponent place + 1074).toNat * hidden + significand place = place := by
  unfold exponent significand hidden
  split <;> omega

theorem quotient_positive : 0 < (quotient place).2 := by
  unfold quotient
  dsimp only
  split
  · exact Nat.one_pos
  · exact Nat.pow_pos (by decide)

theorem quotient_value :
    ((quotient place).1 : ℚ) / (quotient place).2 = significand place * 2 ^ exponent place := by
  unfold quotient
  dsimp only
  split
  · rename_i up
    obtain ⟨n, whole⟩ := Int.eq_ofNat_of_zero_le up
    simp only [whole, Int.toNat_natCast, Nat.pow_eq, zpow_natCast]
    push_cast
    rw [div_one]
  · rename_i down
    obtain ⟨n, whole⟩ : ∃ n : Nat, exponent place = -(n : Int) := ⟨(-exponent place).toNat, by omega⟩
    simp only [whole, neg_neg, Int.toNat_natCast, Nat.pow_eq, zpow_neg, zpow_natCast]
    push_cast
    rw [div_eq_mul_inv]

theorem value_lt : (significand place : ℚ) * 2 ^ exponent place < 2 ^ (exponent place + 53) := by
  have bound : (significand place : ℚ) < (2 * hidden : Nat) := Nat.cast_lt.mpr (significand_lt place)
  rw [add_comm, zpow_add₀ (by norm_num)]
  refine mul_lt_mul_of_pos_right (bound.trans_eq ?_) (two_zpow_pos _)
  norm_num [hidden]

theorem le_value (above : exponent place ≠ -1074) :
    (2 : ℚ) ^ (exponent place + 52) ≤ significand place * 2 ^ exponent place := by
  have bound : ((hidden : Nat) : ℚ) ≤ significand place := Nat.cast_le.mpr (significand_full place above)
  rw [add_comm, zpow_add₀ (by norm_num)]
  refine mul_le_mul_of_nonneg_right (le_trans (le_of_eq ?_) bound) (two_zpow_pos _).le
  norm_num [hidden]

theorem lastBit_quotient (given : 0 < place) :
    lastBit (quotient place).1 (quotient place).2 = exponent place := by
  have positive : (0 : ℚ) < significand place * 2 ^ exponent place :=
    mul_pos (Nat.cast_pos.mpr (significand_pos place given)) (two_zpow_pos _)
  have num : 0 < (quotient place).1 := by
    rw [← quotient_value] at positive
    exact Nat.cast_pos.mp ((div_pos_iff_of_pos_right (Nat.cast_pos.mpr (quotient_positive place))).mp positive)
  have high : Int.log 2 ((significand place : ℚ) * 2 ^ exponent place) < exponent place + 53 :=
    (Int.lt_zpow_iff_log_lt (by decide) positive).mp (by exact_mod_cast value_lt place)
  have least := exponent_ge place
  rw [lastBit_eq num (quotient_positive place), quotient_value]
  by_cases above : exponent place = -1074
  · omega
  · have low : exponent place + 52 ≤ Int.log 2 ((significand place : ℚ) * 2 ^ exponent place) :=
      (Int.zpow_le_iff_le_log (by decide) positive).mp (by exact_mod_cast le_value place above)
    omega

end Place

theorem ofQuotient_quotient (negative : Bool) (place : Fin places) :
    ofQuotient negative (quotient place).1 (quotient place).2 = .finite negative place := by
  by_cases given : place.val = 0
  · obtain rfl : place = ⟨0, by decide⟩ := Fin.ext given
    have zero : (quotient 0).1 = 0 := by decide +kernel
    rw [ofQuotient, if_pos zero]
  · have positive := quotient_positive place
    have whole : ((scaled (quotient place).1 (quotient place).2 (exponent place)).1 : ℚ) /
        (scaled (quotient place).1 (quotient place).2 (exponent place)).2 =
          (significand place * 1 : Nat) / (1 : Nat) := by
      rw [scaled_value, quotient_value, mul_div_assoc, div_self (two_zpow_pos _).ne']
      push_cast
      ring
    have rounded := roundQuotient_congr (scaled_positive _ positive _) Nat.one_pos whole
    rw [roundQuotient_exact _ Nat.one_pos] at rounded
    have nearest : nearestPlace (quotient place).1 (quotient place).2 = place := by
      rw [nearestPlace, lastBit_quotient place (by omega), rounded, place_eq]
    have num : (quotient place).1 ≠ 0 := by
      intro none
      have value := quotient_value place
      rw [none, Nat.cast_zero, zero_div] at value
      have full := significand_pos place (by omega)
      exact (mul_pos (Nat.cast_pos.mpr full) (two_zpow_pos (exponent place))).ne value
    rw [ofQuotient_eq negative num]
    simp only [nearest, place.isLt, dif_pos]

end Orchestration.Binary64
