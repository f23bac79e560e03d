import Mathlib.Data.List.TakeWhile
import Orchestration.Number.Numeral
import Orchestration.Proofs.Rounding

namespace Orchestration

namespace Numeral

theorem ofDigits_toDigits (n : Nat) : ofDigits (Nat.toDigits 10 n) = n := Nat.ofDigitChars_ten_toDigits

theorem ofDigits_append_zeros (cs : List Char) (z : Nat) :
    ofDigits (cs ++ List.replicate z '0') = ofDigits cs * 10 ^ z := by
  have split := Nat.ofDigitChars_append (b := 10) (l := cs) (m := List.replicate z '0') 0
  rw [Nat.ofDigitChars_replicate_zero, Nat.mul_comm] at split
  exact split

theorem ofDigits_zeros_append (z : Nat) (cs : List Char) :
    ofDigits (List.replicate z '0' ++ cs) = ofDigits cs := by
  have split := Nat.ofDigitChars_append (b := 10) (l := List.replicate z '0') (m := cs) 0
  rw [Nat.ofDigitChars_replicate_zero, Nat.mul_zero] at split
  exact split

end Numeral

theorem toDigits_shifted {n : Nat} (given : 0 < n) (z : Nat) :
    Nat.toDigits 10 (n * 10 ^ z) = Nat.toDigits 10 n ++ List.replicate z '0' := by
  induction z with
  | zero => simp
  | succ z ih =>
    have step := Nat.toDigits_append_toDigits (b := 10) (n := n * 10 ^ z) (d := 0) (by decide)
      (Nat.mul_pos given (Nat.pow_pos (by decide))) (by decide)
    have shifted : n * 10 ^ (z + 1) = 10 * (n * 10 ^ z) + 0 := by
      rw [Nat.pow_succ]
      ring
    rw [shifted, ← step, ih, Nat.toDigits_zero, List.append_assoc, List.replicate_succ']

theorem toDigits_front {n : Nat} (given : 0 < n) : (Nat.toDigits 10 n).head? ≠ some '0' := by
  induction n using Nat.strongRecOn with
  | ind n ih =>
    by_cases small : n < 10
    · rw [Nat.toDigits_of_lt_base small]
      simp only [List.head?_cons, ne_eq, Option.some.injEq, Nat.digitChar_eq_zero]
      omega
    · rw [Nat.toDigits_of_base_le (by decide) (by omega), List.head?_append_of_ne_nil _ Nat.toDigits_ne_nil]
      exact ih (n / 10) (by omega) (by omega)

theorem toDigits_bracket {n : Nat} (given : 0 < n) :
    10 ^ ((Nat.toDigits 10 n).length - 1) ≤ n ∧ n < 10 ^ (Nat.toDigits 10 n).length := by
  have counted : 0 < (Nat.toDigits 10 n).length := Nat.length_toDigits_pos
  refine ⟨?_, (Nat.length_toDigits_le_iff (by decide) counted).mp le_rfl⟩
  by_cases one : (Nat.toDigits 10 n).length = 1
  · rw [one]
    exact given
  · refine Nat.le_of_not_lt fun less => ?_
    have fewer := (Nat.length_toDigits_le_iff (b := 10) (by decide) (by omega)).mpr less
    omega

namespace Binary64

-- Unless a decimal is far outside of the range, the number is that of its quotient.
theorem ofDecimal_within {digits num den : Nat} {power : Int} (negative : Bool) (given : digits ≠ 0)
    (high : ((Nat.toDigits 10 digits).length : Int) + power ≤ 400)
    (low : -400 ≤ ((Nat.toDigits 10 digits).length : Int) + power) (positive : 0 < den)
    (same : (num : ℚ) / den = digits * 10 ^ power) :
    ofDecimal negative digits power = ofQuotient negative num den := by
  unfold ofDecimal
  dsimp only
  rw [if_neg given, if_neg (by omega), if_neg (by omega)]
  split
  · rename_i up
    obtain ⟨n, rfl⟩ := Int.eq_ofNat_of_zero_le up
    refine ofQuotient_congr negative Nat.one_pos positive ?_
    rw [same, Int.toNat_natCast, Nat.pow_eq, zpow_natCast]
    push_cast
    rw [div_one]
  · rename_i down
    obtain ⟨n, rfl⟩ : ∃ n : Nat, power = -(n : Int) := ⟨(-power).toNat, by omega⟩
    refine ofQuotient_congr negative (Nat.pow_pos (by decide)) positive ?_
    rw [same, neg_neg, Int.toNat_natCast, Nat.pow_eq, zpow_neg, zpow_natCast]
    push_cast
    rw [div_eq_mul_inv]

theorem ofDecimal_sign {digits : Nat} {power : Int} {place : Fin places} (negative : Bool)
    (read : ofDecimal false digits power = .finite false place) :
    ofDecimal negative digits power = .finite negative place := by
  unfold ofDecimal at read ⊢
  dsimp only at read ⊢
  split at read
  · rename_i zero
    cases read
    rw [if_pos zero]
  · rename_i given
    rw [if_neg given]
    split at read
    · cases read
    · rename_i high
      rw [if_neg high]
      split at read
      · rename_i low
        cases read
        rw [if_pos low]
      · rename_i low
        rw [if_neg low]
        split at read
        · rename_i up
          rw [if_pos up]
          exact ofQuotient_sign negative read
        · rename_i down
          rw [if_neg down]
          exact ofQuotient_sign negative read

theorem ofDecimal_zero (negative : Bool) (power : Int) :
    ofDecimal negative 0 power = .finite negative ⟨0, by decide⟩ := by
  unfold ofDecimal
  exact if_pos rfl

theorem decimal_quotient (digits : Nat) (power : Int) :
    ∃ num den : Nat, 0 < den ∧ (num : ℚ) / den = digits * 10 ^ power := by
  rcases Int.le_total 0 power with up | down
  · obtain ⟨n, rfl⟩ := Int.eq_ofNat_of_zero_le up
    exact ⟨digits * 10 ^ n, 1, Nat.one_pos, by rw [zpow_natCast]; push_cast; ring⟩
  · obtain ⟨n, rfl⟩ : ∃ n : Nat, power = -(n : Int) := ⟨(-power).toNat, by omega⟩
    refine ⟨digits, 10 ^ n, Nat.pow_pos (by decide), ?_⟩
    rw [zpow_neg, zpow_natCast]
    push_cast
    rw [div_eq_mul_inv]

-- Zeros behind the digits are worth what they raise the power by.
theorem ofDecimal_shifted (negative : Bool) (digits z : Nat) (power : Int) :
    ofDecimal negative (digits * 10 ^ z) power = ofDecimal negative digits (power + z) := by
  by_cases given : digits = 0
  · rw [given, Nat.zero_mul, ofDecimal_zero, ofDecimal_zero]
  · have size : ((Nat.toDigits 10 (digits * 10 ^ z)).length : Int) + power =
        (Nat.toDigits 10 digits).length + (power + z) := by
      rw [toDigits_shifted (Nat.pos_of_ne_zero given), List.length_append, List.length_replicate]
      push_cast
      ring
    have still : digits * 10 ^ z ≠ 0 := Nat.mul_ne_zero given (Nat.pow_pos (by decide)).ne'
    have value : ((digits * 10 ^ z : Nat) : ℚ) * 10 ^ power = digits * 10 ^ (power + z) := by
      rw [zpow_add₀ (by norm_num), zpow_natCast]
      push_cast
      ring
    by_cases high : ((Nat.toDigits 10 digits).length : Int) + (power + z) ≤ 400
    · by_cases low : -400 ≤ ((Nat.toDigits 10 digits).length : Int) + (power + z)
      · obtain ⟨num, den, positive, same⟩ := decimal_quotient digits (power + z)
        rw [ofDecimal_within negative given high low positive same,
          ofDecimal_within negative still (by omega) (by omega) positive (same.trans value.symm)]
      · unfold ofDecimal
        dsimp only
        rw [size, if_neg still, if_neg given, if_neg (by omega), if_pos (by omega), if_neg (by omega),
          if_pos (by omega)]
    · unfold ofDecimal
      dsimp only
      rw [size, if_neg still, if_neg given, if_pos (by omega), if_pos (by omega)]

theorem exponent_le (place : Fin places) : exponent place ≤ 971 := by
  have bound := place.isLt
  unfold exponent hidden
  unfold places at bound
  split <;> omega

-- The value of a finite number lies well within the range that is looked at.
theorem value_bracket (place : Fin places) (given : 0 < place.val) :
    (10 : ℚ) ^ (-324 : Int) ≤ significand place * 2 ^ exponent place ∧
      (significand place : ℚ) * 2 ^ exponent place < 10 ^ (309 : Int) := by
  constructor
  · have one : (1 : ℚ) ≤ significand place := by exact_mod_cast significand_pos place given
    have least : (2 : ℚ) ^ (-1074 : Int) ≤ 2 ^ exponent place :=
      zpow_le_zpow_right₀ (by norm_num) (exponent_ge place)
    have powers : (10 : ℚ) ^ (-324 : Int) ≤ 2 ^ (-1074 : Int) := by
      have naturals : (2 : Nat) ^ 1074 ≤ 10 ^ 324 := by decide +kernel
      rw [zpow_neg, zpow_neg]
      exact inv_anti₀ (by positivity) (by exact_mod_cast naturals)
    calc (10 : ℚ) ^ (-324 : Int) ≤ 1 * 2 ^ exponent place := by rw [one_mul]; exact powers.trans least
      _ ≤ significand place * 2 ^ exponent place := by gcongr
  · have most : (2 : ℚ) ^ (exponent place + 53) ≤ 2 ^ (1024 : Int) := by
      refine zpow_le_zpow_right₀ (by norm_num) ?_
      have bound := exponent_le place
      omega
    have powers : (2 : ℚ) ^ (1024 : Int) ≤ 10 ^ (309 : Int) := by
      have naturals : (2 : Nat) ^ 1024 ≤ 10 ^ 309 := by decide +kernel
      exact_mod_cast naturals
    exact (value_lt place).trans_le (most.trans powers)

theorem decimal_bracket {digits : Nat} (given : 0 < digits) (power : Int) :
    (10 : ℚ) ^ ((Nat.toDigits 10 digits).length - 1 + power : Int) ≤ digits * 10 ^ power ∧
      (digits : ℚ) * 10 ^ power < 10 ^ ((Nat.toDigits 10 digits).length + power : Int) := by
  obtain ⟨front, behind⟩ := toDigits_bracket given
  have counted : 0 < (Nat.toDigits 10 digits).length := Nat.length_toDigits_pos
  generalize (Nat.toDigits 10 digits).length = size at front behind counted
  have unit : (0 : ℚ) < 10 ^ power := zpow_pos (by norm_num) _
  constructor
  · have least : ((10 ^ (size - 1) : Nat) : ℚ) ≤ digits := Nat.cast_le.mpr front
    rw [zpow_add₀ (by norm_num), ← Nat.cast_one, ← Nat.cast_sub counted, zpow_natCast]
    refine mul_le_mul_of_nonneg_right (le_trans (le_of_eq ?_) least) unit.le
    push_cast
    rfl
  · have most : (digits : ℚ) < (10 ^ size : Nat) := Nat.cast_lt.mpr behind
    rw [zpow_add₀ (by norm_num), zpow_natCast]
    refine mul_lt_mul_of_pos_right (most.trans_eq ?_) unit
    push_cast
    rfl

theorem ofDecimal_value (negative : Bool) {place : Fin places} {digits : Nat} {power : Int}
    (given : 0 < place.val) (same : (digits : ℚ) * 10 ^ power = significand place * 2 ^ exponent place) :
    ofDecimal negative digits power = .finite negative place := by
  obtain ⟨low, high⟩ := value_bracket place given
  rw [← same] at low high
  have unit : (0 : ℚ) < 10 ^ power := zpow_pos (by norm_num) _
  have counted : 0 < digits := by
    have positive : (0 : ℚ) < digits * 10 ^ power := (zpow_pos (by norm_num) _).trans_le low
    exact Nat.cast_pos.mp ((pos_iff_pos_of_mul_pos positive).mpr unit)
  obtain ⟨least, most⟩ := decimal_bracket counted power
  have bounded : ((Nat.toDigits 10 digits).length - 1 + power : Int) < 309 := by
    rw [← zpow_lt_zpow_iff_right₀ (a := (10 : ℚ)) (by norm_num)]
    exact least.trans_lt high
  have reached : (-324 : Int) < (Nat.toDigits 10 digits).length + power := by
    rw [← zpow_lt_zpow_iff_right₀ (a := (10 : ℚ)) (by norm_num)]
    exact low.trans_lt most
  rw [ofDecimal_within negative counted.ne' (by omega) (by omega) (quotient_positive place)
    ((quotient_value place).trans same.symm)]
  exact ofQuotient_quotient negative place

end Binary64

namespace Decimal

-- What a decimal has to be for a layout to be read back: digits of which only the one of zero is a zero in
-- front.
structure Digital (d : Decimal) : Prop where
  given : d.digits ≠ []
  digits : ∀ c ∈ d.digits, c.isDigit = true
  front : d.digits.head? = some '0' → d = ⟨['0'], 0⟩

-- Read with either sign, the decimal is the number at the place.
def Denotes (d : Decimal) (place : Fin Binary64.places) : Prop :=
  ∀ negative, Binary64.ofDecimal negative (Numeral.ofDigits d.digits) d.power = .finite negative place

-- The zeros at the end go from the digits into the power.
theorem ofMultiple_parts (multiple : Nat) (power : Int) :
    ∃ z : Nat, Nat.toDigits 10 multiple = (ofMultiple multiple power).digits ++ List.replicate z '0' ∧
      (ofMultiple multiple power).power = power + z := by
  let zeros := (Nat.toDigits 10 multiple).reverse.takeWhile (· == '0')
  have all : zeros = List.replicate zeros.length '0' :=
    List.eq_replicate_of_mem fun c mem => by simpa using List.mem_takeWhile_imp mem
  have parts : Nat.toDigits 10 multiple = (ofMultiple multiple power).digits ++ zeros.reverse := by
    have whole := congrArg List.reverse
      (List.takeWhile_append_dropWhile (p := (· == '0')) (l := (Nat.toDigits 10 multiple).reverse))
    rw [List.reverse_append, List.reverse_reverse] at whole
    exact whole.symm
  refine ⟨zeros.length, ?_, ?_⟩
  · rw [all, List.reverse_replicate] at parts
    simpa using parts
  · have count := congrArg List.length parts
    rw [List.length_append, List.length_reverse] at count
    show power + (_ : Int) = power + _
    have kept : (ofMultiple multiple power).digits.length =
        ((Nat.toDigits 10 multiple).reverse.dropWhile (· == '0')).reverse.length := rfl
    omega

theorem ofMultiple_digital {multiple : Nat} (given : 0 < multiple) (power : Int) :
    (ofMultiple multiple power).Digital := by
  obtain ⟨z, parts, _⟩ := ofMultiple_parts multiple power
  have front := toDigits_front given
  have some : (ofMultiple multiple power).digits ≠ [] := by
    intro none
    rw [none, List.nil_append] at parts
    cases z with
    | zero => exact Nat.toDigits_ne_nil parts
    | succ z =>
      rw [parts] at front
      exact front rfl
  refine ⟨some, ?_, ?_⟩
  · intro c mem
    refine Nat.isDigit_of_mem_toDigits (b := 10) (n := multiple) (by decide) (by decide) ?_
    rw [parts]
    exact List.mem_append_left _ mem
  · intro zero
    rw [parts, List.head?_append_of_ne_nil _ some] at front
    exact absurd zero front

theorem ofMultiple_denotes {multiple : Nat} {power : Int} {place : Fin Binary64.places}
    (read : Binary64.ofDecimal false multiple power = .finite false place) :
    (ofMultiple multiple power).Denotes place := by
  intro negative
  obtain ⟨z, parts, raised⟩ := ofMultiple_parts multiple power
  have value : Numeral.ofDigits (ofMultiple multiple power).digits * 10 ^ z = multiple := by
    rw [← Numeral.ofDigits_append_zeros, ← parts, Numeral.ofDigits_toDigits]
  rw [raised, ← Binary64.ofDecimal_shifted, value]
  exact Binary64.ofDecimal_sign negative read

theorem onGrid?_parts {place : Fin Binary64.places} (found : onGrid? place size = some d) :
    ∃ multiple power, d = ofMultiple multiple power ∧
      Binary64.ofDecimal false multiple power = .finite false place := by
  unfold onGrid? at found
  obtain ⟨multiple, chosen, rfl⟩ := Option.map_eq_some_iff.mp found
  exact ⟨multiple, _, rfl, readsBack_of_find chosen⟩

theorem exact_parts {place : Fin Binary64.places} (given : 0 < place.val) :
    ∃ multiple power, exact place = ofMultiple multiple power ∧
      Binary64.ofDecimal false multiple power = .finite false place := by
  unfold exact
  dsimp only
  split
  · rename_i up
    obtain ⟨n, whole⟩ := Int.eq_ofNat_of_zero_le up
    refine ⟨_, _, rfl, Binary64.ofDecimal_value false given ?_⟩
    rw [whole, Int.toNat_natCast, Nat.pow_eq, zpow_zero, mul_one, zpow_natCast]
    push_cast
    rfl
  · rename_i down
    obtain ⟨n, whole⟩ : ∃ n : Nat, Binary64.exponent place = -(n : Int) :=
      ⟨(-Binary64.exponent place).toNat, by omega⟩
    refine ⟨_, _, rfl, Binary64.ofDecimal_value false given ?_⟩
    have ten : (10 : ℚ) ^ n = 5 ^ n * 2 ^ n := by rw [← mul_pow]; norm_num
    rw [whole, neg_neg, Int.toNat_natCast, Nat.pow_eq, zpow_neg, zpow_neg, zpow_natCast, zpow_natCast, ten]
    push_cast
    field_simp

theorem shortest_reads (place : Fin Binary64.places) :
    (shortest place).Digital ∧ (shortest place).Denotes place := by
  unfold shortest
  split
  · rename_i zero
    obtain rfl : place = ⟨0, by decide⟩ := Fin.ext zero
    have digit : ∀ c ∈ ['0'], c.isDigit = true := fun c mem => List.mem_singleton.mp mem ▸ rfl
    exact ⟨⟨by decide, digit, fun _ => rfl⟩, fun negative => Binary64.ofDecimal_zero negative 0⟩
  · rename_i nonzero
    have given : 0 < place.val := Nat.pos_of_ne_zero nonzero
    obtain ⟨multiple, power, written, read⟩ : ∃ multiple power,
        ((List.range 17).findSome? fun i => onGrid? place (i + 1)).getD (exact place) = ofMultiple multiple power ∧
          Binary64.ofDecimal false multiple power = .finite false place := by
      cases found : (List.range 17).findSome? fun i => onGrid? place (i + 1) with
      | none => exact exact_parts given
      | some d =>
        obtain ⟨i, _, grid⟩ := List.exists_of_findSome?_eq_some found
        exact onGrid?_parts grid
    have counted : 0 < multiple := by
      rcases Nat.eq_zero_or_pos multiple with rfl | counted
      · rw [Binary64.ofDecimal_zero] at read
        cases read
        exact absurd rfl nonzero
      · exact counted
    rw [written]
    exact ⟨ofMultiple_digital counted power, ofMultiple_denotes read⟩

end Decimal

end Orchestration
