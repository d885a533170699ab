import ApiTypes.Json.Reader
import ApiTypes.Proofs.Decimal.Written
/-!
Doubles that are made from fractions. The double of a fraction is the one that the fraction rounds to, in its proper form,
so that all arithmetic stays among proper doubles. The numbers that are read from a text are made by that arithmetic.
-/
namespace ApiTypes.Decimal

/-! ### Rounding to a whole number -/

theorem round_div_odd {n m : Nat} (positive : 0 < m) (odd : roundDiv n m % 2 = 1) :
    (roundDiv n m : ℚ) - 1 / 2 < (n : ℚ) / m ∧ (n : ℚ) / m < roundDiv n m + 1 / 2 := by
  have whole := Nat.div_add_mod n m
  have rest := Nat.mod_lt n positive
  have both : 2 * (m * roundDiv n m) < 2 * n + m ∧ 2 * n < 2 * (m * roundDiv n m) + m := by
    simp only [roundDiv] at odd ⊢
    split at odd
    · rename_i up
      rw [if_pos up, Nat.mul_add]
      simp only [Bool.or_eq_true, decide_eq_true_eq, Bool.and_eq_true, beq_iff_eq] at up
      omega
    · rename_i down
      rw [if_neg down]
      simp only [Bool.or_eq_true, decide_eq_true_eq, Bool.and_eq_true, beq_iff_eq] at down
      omega
  have unit : (0 : ℚ) < m := by exact_mod_cast positive
  have upper : (2 * (m * roundDiv n m) : ℚ) < 2 * n + m := by exact_mod_cast both.1
  have lower : (2 * n : ℚ) < 2 * (m * roundDiv n m) + m := by exact_mod_cast both.2
  constructor
  · rw [lt_div_iff₀ unit]
    linarith
  · rw [div_lt_iff₀ unit]
    linarith

namespace Binary64

/-! ### Exponents -/

theorem log_bounds {n : Nat} (positive : 0 < n) : (2 : ℚ) ^ (n.log2 : ℤ) ≤ n ∧ (n : ℚ) < 2 ^ ((n.log2 : ℤ) + 1) := by
  have nonzero : n ≠ 0 := positive.ne'
  have lower : 2 ^ n.log2 ≤ n := Nat.log2_self_le nonzero
  have upper : n < 2 ^ (n.log2 + 1) := Nat.lt_log2_self
  constructor
  · rw [zpow_natCast]
    exact_mod_cast lower
  · rw [← Nat.cast_one, ← Nat.cast_add, zpow_natCast]
    exact_mod_cast upper

/-- The first guess of an exponent is right, or one too large. -/
theorem guess_bounds {num den : Nat} (above : 0 < num) (below : 0 < den) :
    2 ^ 51 * (2 : ℚ) ^ ((num.log2 : ℤ) - den.log2 - 52) < num / den ∧
      (num : ℚ) / den < 2 ^ 53 * 2 ^ ((num.log2 : ℤ) - den.log2 - 52) := by
  obtain ⟨numLow, numHigh⟩ := log_bounds above
  obtain ⟨denLow, denHigh⟩ := log_bounds below
  have unit : (0 : ℚ) < den := by exact_mod_cast below
  have whole : (0 : ℚ) < num := by exact_mod_cast above
  have first : 2 ^ 51 * (2 : ℚ) ^ ((num.log2 : ℤ) - den.log2 - 52) = 2 ^ (num.log2 : ℤ) / 2 ^ ((den.log2 : ℤ) + 1) := by
    rw [zpow_sub₀ (by norm_num), zpow_sub₀ (by norm_num), zpow_add₀ (by norm_num)]
    field_simp
  have second : 2 ^ 53 * (2 : ℚ) ^ ((num.log2 : ℤ) - den.log2 - 52) = 2 ^ ((num.log2 : ℤ) + 1) / 2 ^ (den.log2 : ℤ) := by
    rw [zpow_sub₀ (by norm_num), zpow_sub₀ (by norm_num), zpow_add₀ (by norm_num)]
    field_simp
  rw [first, second]
  constructor
  · exact div_lt_div₀' numLow denHigh whole unit
  · exact div_lt_div₀ numHigh denLow (by positivity) (zpow_pos (by norm_num) _)

theorem div_lt_iff_cast {n m : Nat} (positive : 0 < m) (k : Nat) : n / m < k ↔ (n : ℚ) / m < k := by
  have unit : (0 : ℚ) < m := by exact_mod_cast positive
  rw [Nat.div_lt_iff_lt_mul positive, div_lt_iff₀ unit]
  norm_cast

/-- With the exponent of a fraction, the mantissa is below its bound, and has all its bits unless the exponent is least. -/
theorem exponent_bounds {num den : Nat} (above : 0 < num) (below : 0 < den) :
    -1074 ≤ exponentOf num den ∧ (num : ℚ) / den < 2 ^ 53 * 2 ^ exponentOf num den ∧
      (2 ^ 52 * (2 : ℚ) ^ exponentOf num den ≤ num / den ∨ exponentOf num den = -1074) := by
  obtain ⟨lower, upper⟩ := guess_bounds above below
  simp only [exponentOf]
  generalize (num.log2 : ℤ) - den.log2 - 52 = guess at lower upper
  obtain ⟨unit, value⟩ := scale_down_eq num below guess
  generalize scaleDown num den guess = scaled at unit value
  have power : (0 : ℚ) < 2 ^ guess := zpow_pos (by norm_num) _
  have floor := div_lt_iff_cast unit (n := scaled.1) (Nat.pow 2 52)
  rw [value, div_lt_iff₀ power, Nat.pow_eq, Nat.cast_pow, Nat.cast_ofNat] at floor
  generalize corrected : (if scaled.1 / scaled.2 < Nat.pow 2 52 then guess - 1 else guess) = e
  have bounds : (num : ℚ) / den < 2 ^ 53 * 2 ^ e ∧ 2 ^ 52 * (2 : ℚ) ^ e ≤ num / den := by
    rw [← corrected]
    split
    · rename_i small
      rw [zpow_sub_one₀ (by norm_num)]
      exact ⟨by linarith [floor.mp small], by linarith⟩
    · rename_i large
      exact ⟨upper, not_lt.mp fun less => large (floor.mpr less)⟩
  split
  · rename_i clamped
    refine ⟨le_rfl, bounds.1.trans_le ?_, Or.inr rfl⟩
    exact mul_le_mul_of_nonneg_left (zpow_le_zpow_right₀ (by norm_num) clamped.le) (by norm_num)
  · exact ⟨by omega, bounds.1, Or.inl bounds.2⟩

theorem rounded_proper {q s : ℚ} {e : ℤ} {m : Nat} (scaled : q = s * 2 ^ e) (least : -1074 ≤ e) (below : s < 2 ^ 53)
    (normal : 2 ^ 52 ≤ s ∨ e = -1074) (near : (m : ℚ) - 1 / 2 ≤ s ∧ s ≤ m + 1 / 2)
    (odd : m % 2 = 1 → (m : ℚ) - 1 / 2 < s ∧ s < m + 1 / 2) (smaller : m ≠ 2 ^ 53) (negative : Bool) :
    Proper ⟨negative, m, e⟩ ∧ Rounds ⟨negative, m, e⟩ q := by
  have unit : (0 : ℚ) < 2 ^ e := zpow_pos (by norm_num) _
  have bounded : m < 2 ^ 53 := by
    have cast : (m : ℚ) < 2 ^ 53 + 1 := by linarith
    have whole : m < 2 ^ 53 + 1 := by exact_mod_cast cast
    omega
  have bits : 2 ^ 52 ≤ m ∨ e = -1074 := by
    refine normal.imp_left fun large => ?_
    have cast : (2 ^ 52 : ℚ) < m + 1 := by linarith
    have whole : 2 ^ 52 < m + 1 := by exact_mod_cast cast
    omega
  refine ⟨⟨bounded, least, bits⟩, ?_⟩
  unfold Rounds
  rw [scaled]
  split
  · have lower : (m : ℚ) - gap ⟨negative, m, e⟩ ≤ s := by
      unfold gap
      split
      · rename_i edge
        have large := normal.resolve_right edge.2.ne'
        have same : (m : ℚ) = 2 ^ 52 := by exact_mod_cast edge.1
        linarith
      · exact near.1
    exact ⟨mul_le_mul_of_nonneg_right lower unit.le, mul_le_mul_of_nonneg_right near.2 unit.le⟩
  · rename_i uneven
    have strict := odd (by simp only at uneven; omega)
    have half : gap ⟨negative, m, e⟩ = 1 / 2 := by
      refine if_neg fun edge => uneven ?_
      rw [edge.1]
      norm_num
    rw [half]
    exact ⟨mul_lt_mul_of_pos_right strict.1 unit, mul_lt_mul_of_pos_right strict.2 unit⟩

theorem carried_proper {q s : ℚ} {e : ℤ} (scaled : q = s * 2 ^ e) (least : -1074 ≤ e) (below : s < 2 ^ 53)
    (near : (2 : ℚ) ^ 53 - 1 / 2 ≤ s) (negative : Bool) :
    Proper ⟨negative, 2 ^ 52, e + 1⟩ ∧ Rounds ⟨negative, 2 ^ 52, e + 1⟩ q := by
  have unit : (0 : ℚ) < 2 ^ e := zpow_pos (by norm_num) _
  have quarter : gap ⟨negative, 2 ^ 52, e + 1⟩ = 1 / 4 := if_pos ⟨rfl, by simp only; omega⟩
  refine ⟨⟨by norm_num, by simp only; omega, Or.inl le_rfl⟩, ?_⟩
  unfold Rounds
  rw [if_pos (by norm_num), quarter, scaled]
  simp only
  rw [zpow_add_one₀ (by norm_num)]
  push_cast
  constructor
  · calc ((2 : ℚ) ^ 52 - 1 / 4) * (2 ^ e * 2) = (2 ^ 53 - 1 / 2) * 2 ^ e := by ring
      _ ≤ s * 2 ^ e := mul_le_mul_of_nonneg_right near unit.le
  · calc s * 2 ^ e ≤ 2 ^ 53 * 2 ^ e := mul_le_mul_of_nonneg_right below.le unit.le
      _ ≤ (2 ^ 52 + 1 / 2) * (2 ^ e * 2) := by linarith

theorem zero_rounds : Proper zero ∧ Rounds zero 0 := by
  have unit : (0 : ℚ) < 2 ^ (-1074 : ℤ) := zpow_pos (by norm_num) _
  refine ⟨⟨by decide, le_rfl, Or.inr rfl⟩, rounds_inside ?_ ?_⟩
  · refine mul_neg_of_neg_of_pos ?_ unit
    have gap := gap_bounds zero
    simp only [zero, Nat.cast_zero]
    simp only [zero] at gap
    linarith
  · refine mul_pos ?_ unit
    norm_num [zero]

/-- The double of a fraction is in its proper form, and the one that the fraction rounds to. -/
theorem of_ratio_rounds {num den : Nat} (below : 0 < den) {x : Binary64} (made : ofRatio? num den = some x) :
    x.Proper ∧ x.Rounds (num / den) := by
  unfold ofRatio? at made
  split at made
  · rename_i none
    cases made
    rw [beq_iff_eq.mp none, Nat.cast_zero, zero_div]
    exact zero_rounds
  · rename_i some
    have above : 0 < num := Nat.pos_of_ne_zero (by simpa using some)
    obtain ⟨least, less, normal⟩ := exponent_bounds above below
    simp only at made
    generalize exponentOf num den = e at made least less normal
    obtain ⟨unit, value⟩ := scale_down_eq num below e
    have power : (0 : ℚ) < 2 ^ e := zpow_pos (by norm_num) _
    have near := round_div_near (scaleDown num den e).1 unit
    have odd := round_div_odd (n := (scaleDown num den e).1) unit
    rw [value] at near odd
    generalize roundDiv (scaleDown num den e).1 (scaleDown num den e).2 = m at made near odd
    have scaled : (num : ℚ) / den = num / den / 2 ^ e * 2 ^ e := by field_simp
    have bounded : (num : ℚ) / den / 2 ^ e < 2 ^ 53 := by rwa [div_lt_iff₀ power]
    have bits : 2 ^ 52 ≤ (num : ℚ) / den / 2 ^ e ∨ e = -1074 := by rwa [le_div_iff₀ power]
    by_cases carry : m = 2 ^ 53
    · have edge : (m == Nat.pow 2 53) = true := by simpa using carry
      rw [edge] at made
      simp only [if_true, Option.ite_none_left_eq_some, Option.some.injEq] at made
      rw [← made.2]
      have close : (2 : ℚ) ^ 53 - 1 / 2 ≤ num / den / 2 ^ e := by
        have cast : (m : ℚ) = 2 ^ 53 := by exact_mod_cast carry
        linarith [near.1]
      exact carried_proper scaled least bounded close false
    · have edge : (m == Nat.pow 2 53) = false := by simpa using carry
      rw [edge] at made
      simp only [Bool.false_eq_true, if_false, Option.ite_none_left_eq_some, Option.some.injEq] at made
      rw [← made.2]
      exact rounded_proper scaled least bounded bits near odd carry false

/-! ### Arithmetic -/

variable {x y z : Binary64}

theorem Proper.with_sign (proper : x.Proper) (negative : Bool) : (x.withSign negative).Proper :=
  ⟨proper.bounded, proper.least, proper.normal⟩

theorem mul_proper (made : x.mul? y = some z) : z.Proper := by
  obtain ⟨w, ratio, rfl⟩ := Option.map_eq_some_iff.mp made
  exact (of_ratio_rounds (Nat.mul_pos x.ratio_eq.1 y.ratio_eq.1) ratio).1.with_sign _

theorem ratio_positive (nonzero : 0 < x.mantissa) : 0 < x.ratio.1 := by
  unfold ratio
  split
  · exact nonzero
  · exact Nat.mul_pos nonzero (Nat.pow_pos (by decide))

theorem div_proper (nonzero : 0 < y.mantissa) (made : x.div? y = some z) : z.Proper := by
  obtain ⟨w, ratio, rfl⟩ := Option.map_eq_some_iff.mp made
  exact (of_ratio_rounds (Nat.mul_pos x.ratio_eq.1 (ratio_positive nonzero)) ratio).1.with_sign _

theorem pow10_positive {k : Nat} (made : pow10? k = some z) : 0 < z.mantissa := by
  unfold pow10? at made
  rw [Option.ite_none_left_eq_some] at made
  obtain ⟨proper, rounds⟩ := of_ratio_rounds Nat.one_pos made.2
  refine Nat.pos_of_ne_zero fun zero => ?_
  have least : z.exponent = -1074 := proper.normal.resolve_left (by rw [zero]; decide)
  have upper := rounds.bounds.2
  have one : (1 : ℚ) ≤ 10 ^ k := one_le_pow₀ (by norm_num)
  have small : (2 : ℚ) ^ z.exponent ≤ 1 := zpow_le_one_of_nonpos₀ (by norm_num) (by omega)
  rw [zero, Nat.pow_eq] at upper
  push_cast at upper
  linarith

theorem shift_within_proper {rounds : Nat} {e : ℤ} (proper : x.Proper) (made : shiftWithin rounds x e = some z) :
    z.Proper := by
  induction rounds generalizing x e with
  | zero => cases made
  | succ rounds ih =>
    rw [shiftWithin] at made
    split at made
    · rename_i p power
      split at made
      · exact div_proper (pow10_positive power) made
      · exact mul_proper made
    · split at made
      · cases made
        exact proper
      · split at made
        · simp only [bind, Option.bind_eq_some_iff] at made
          obtain ⟨p, power, w, divided, later⟩ := made
          exact ih (div_proper (pow10_positive power) divided) later
        · cases made

theorem scaled_proper {n : Nat} {e : ℤ} (made : scaled? n e = some z) : z.Proper := by
  simp only [scaled?, bind, Option.bind_eq_some_iff] at made
  obtain ⟨w, ratio, shifted⟩ := made
  exact shift_within_proper (of_ratio_rounds Nat.one_pos ratio).1 shifted

end Binary64

end ApiTypes.Decimal

namespace ApiTypes.Json

/-! ### Numbers that are read -/

variable {n : Number} {negative : Bool} {significand : Nat} {e : ℤ} {t rest : Text}

theorem real_proper (made : real? negative significand e = some n) : n.Proper := by
  obtain ⟨x, scaled, rfl⟩ := Option.map_eq_some_iff.mp made
  exact (Decimal.Binary64.scaled_proper scaled).with_sign _

theorem with_exponent_proper (made : withExponent? negative significand e t = some (n, rest)) : n.Proper := by
  unfold withExponent? at made
  split at made <;> simp only [bind, Option.bind_eq_some_iff, pure, Option.some.injEq, Prod.mk.injEq] at made
  · obtain ⟨_, _, _, real, rfl, _⟩ := made
    exact real_proper real
  · obtain ⟨_, _, _, real, rfl, _⟩ := made
    exact real_proper real
  · obtain ⟨_, real, rfl, _⟩ := made
    exact real_proper real

theorem number_proper (read : number? t = some (n, rest)) : n.Proper := by
  unfold number? at read
  simp only at read
  -- The sign does not matter.
  split at read
  all_goals
    split at read
    · cases read
    · split at read
      · split at read
        · cases read
        · exact with_exponent_proper read
      · exact with_exponent_proper read
      · exact with_exponent_proper read
      · split at read
        · obtain ⟨_, real, same⟩ := Option.map_eq_some_iff.mp read
          cases same
          exact real_proper real
        · split at read
          · cases read
            trivial
          · split at read
            · cases read
              trivial
            · obtain ⟨_, real, same⟩ := Option.map_eq_some_iff.mp read
              cases same
              exact real_proper real

/-- Wherever there is a number in a value that is read, it is in its proper form. -/
theorem read_proper {root v : Json} {path : List Pointer.Step} (read : read? t = some root)
    (leads : Pointer.Leads path root v) : v.Proper := by
  have parts : Readable fun root => ∀ path v, Pointer.Leads path root v → v.Proper := by
    refine ⟨?_, ?_, ?_, ?_, ?_, ?_⟩
    · rintro path v ⟨⟩
      trivial
    · rintro b path v ⟨⟩
      trivial
    · rintro s path v ⟨⟩
      trivial
    · rintro t n rest number path v ⟨⟩
      exact number_proper number
    · rintro items each path v (_ | _ | ⟨found, later⟩)
      · trivial
      · exact each _ (List.mem_of_getElem? found) _ v later
    · rintro fields each path v (_ | ⟨listed, later⟩)
      · trivial
      · exact each _ (of_list_mem listed) _ v later
  exact parts.read read path v leads

end ApiTypes.Json
