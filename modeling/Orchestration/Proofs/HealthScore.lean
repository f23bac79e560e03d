import Orchestration.Execution.Summary
import Orchestration.Proofs.Rounding

namespace Orchestration

namespace Binary64

-- A quotient below a power of two has a nearest number that lies below twice that power, and a health takes three
-- such roundings.
def Below (k : Nat) (x : Binary64) : Prop :=
  ∃ negative place, x = .finite negative place ∧ (significand place : ℚ) * 2 ^ exponent place < 2 ^ k

theorem Below.isFinite {x : Binary64} (below : x.Below k) : x.isFinite = true := by
  obtain ⟨_, _, rfl, _⟩ := below
  rfl

theorem roundQuotient_le {num den bound : Nat} (positive : 0 < den) (below : (num : ℚ) / den < bound) :
    roundQuotient num den ≤ bound := by
  have product : num < bound * den := by
    rw [div_lt_iff₀ (Nat.cast_pos.mpr positive)] at below
    exact_mod_cast below
  have quotient : num / den < bound := Nat.div_lt_of_lt_mul (by rwa [Nat.mul_comm])
  unfold roundQuotient
  dsimp only
  split
  · omega
  · split <;> omega

theorem nearestPlace_le {num den k : Nat} (given : 0 < num) (positive : 0 < den) (below : (num : ℚ) / den < 2 ^ k) :
    nearestPlace num den ≤ (k + 1023) * hidden := by
  have ratio : (0 : ℚ) < (num : ℚ) / den := div_pos (Nat.cast_pos.mpr given) (Nat.cast_pos.mpr positive)
  have log : Int.log 2 ((num : ℚ) / den) < k :=
    (Int.lt_zpow_iff_log_lt (by decide) ratio).mp (by exact_mod_cast below)
  have last := lastBit_eq given positive
  -- The kept bits are 53 at most, so they are rounded to a whole number that is no longer than that.
  have kept : ((scaled num den (lastBit num den)).1 : ℚ) / (scaled num den (lastBit num den)).2 <
      (2 * hidden : Nat) := by
    have top : (num : ℚ) / den < 2 ^ (Int.log 2 ((num : ℚ) / den) + 1) := by
      exact_mod_cast Int.lt_zpow_succ_log_self (b := 2) (by decide) ((num : ℚ) / den)
    have width : ((2 * hidden : Nat) : ℚ) = 2 ^ (53 : Int) := by norm_num [hidden]
    rw [scaled_value, div_lt_iff₀ (two_zpow_pos _), width, ← zpow_add₀ (by norm_num)]
    exact top.trans_le (zpow_le_zpow_right₀ (by norm_num) (by omega))
  have rounded := roundQuotient_le (scaled_positive num positive (lastBit num den)) kept
  have place : (lastBit num den + 1074).toNat ≤ k + 1021 := by omega
  calc nearestPlace num den ≤ (k + 1021) * hidden + 2 * hidden :=
        Nat.add_le_add (Nat.mul_le_mul_right _ place) rounded
    _ = (k + 1023) * hidden := by ring

theorem ofQuotient_below (negative : Bool) {num den k : Nat} (positive : 0 < den) (below : (num : ℚ) / den < 2 ^ k)
    (small : k ≤ 1000) : (ofQuotient negative num den).Below (k + 1) := by
  by_cases given : num = 0
  · have zero : significand 0 = 0 := by decide
    refine ⟨negative, ⟨0, by decide⟩, by rw [ofQuotient, if_pos given], ?_⟩
    rw [zero, Nat.cast_zero, zero_mul]
    positivity
  · have near := nearestPlace_le (Nat.pos_of_ne_zero given) positive below
    have within : nearestPlace num den < places := near.trans_lt (by unfold hidden places; omega)
    refine ⟨negative, ⟨nearestPlace num den, within⟩, by rw [ofQuotient_eq negative given, dif_pos within], ?_⟩
    have exponent : exponent (nearestPlace num den) + 53 ≤ (k + 1 : Nat) := by
      have binade : nearestPlace num den / hidden ≤ k + 1023 := Nat.div_le_of_le_mul (by rwa [Nat.mul_comm])
      unfold Binary64.exponent
      split <;> omega
    refine (value_lt _).trans_le ((zpow_le_zpow_right₀ (by norm_num) exponent).trans_eq ?_)
    rw [zpow_natCast]

theorem Below.scaleBy {x : Binary64} {k : Nat} (below : x.Below k) (small : k ≤ 900) :
    (x.scaleBy 100).Below (k + 8) := by
  obtain ⟨negative, place, rfl, bound⟩ := below
  show (ofQuotient negative ((quotient place).1 * 100) (quotient place).2).Below (k + 7 + 1)
  refine ofQuotient_below negative (quotient_positive place) ?_ (by omega)
  rw [← quotient_value] at bound
  have positive : (0 : ℚ) < 2 ^ k := by positivity
  push_cast
  rw [mul_comm, mul_div_assoc, pow_add]
  linarith

theorem Below.roundToTenth {x : Binary64} {k : Nat} (below : x.Below k) (small : k ≤ 900) :
    x.roundToTenth.Below (k + 5) := by
  obtain ⟨negative, place, rfl, bound⟩ := below
  have tenfold : ((10 * (quotient place).1 : Nat) : ℚ) / (quotient place).2 < (10 * 2 ^ k : Nat) := by
    rw [← quotient_value] at bound
    push_cast
    rw [mul_div_assoc]
    linarith
  have rounded := roundQuotient_le (quotient_positive place) tenfold
  show (ofQuotient negative (roundQuotient (10 * (quotient place).1) (quotient place).2) 10).Below (k + 4 + 1)
  refine ofQuotient_below negative (by decide) ?_ (by omega)
  have cast : (roundQuotient (10 * (quotient place).1) (quotient place).2 : ℚ) ≤ 10 * 2 ^ k := by
    exact_mod_cast rounded
  have positive : (0 : ℚ) < 2 ^ k := by positivity
  rw [div_lt_iff₀ (by norm_num), pow_add]
  push_cast
  linarith

end Binary64

open Binary64

theorem Event.score_finite {total : Nat} (some : 0 < total) (errors : Nat) :
    (score total errors).isFinite = true := by
  have share : ((total - errors : Nat) : ℚ) / total < 2 ^ 1 := by
    rw [div_lt_iff₀ (Nat.cast_pos.mpr some)]
    exact_mod_cast (by omega : total - errors < 2 ^ 1 * total)
  exact (((ofQuotient_below false some share (by decide)).scaleBy (by decide)).roundToTenth (by decide)).isFinite

theorem Event.summarize_finite (events : List Event) : (summarize events).score.isFinite = true := by
  unfold summarize
  dsimp only
  split
  · decide +kernel
  · rename_i some
    exact score_finite (List.length_pos_iff.mpr fun none => some (by simp [none])) _

end Orchestration
