import Mathlib.Algebra.Order.Field.Power
import Mathlib.Algebra.Order.Ring.Star
import Mathlib.Data.Rat.Star
import Mathlib.Tactic.FieldSimp
import Mathlib.Tactic.Linarith
import Mathlib.Tactic.NormNum
import Mathlib.Tactic.Positivity
import Mathlib.Tactic.Ring
import ApiTypes.Decimal.Shortest
/-!
The shortest decimal of a double. It is one of the numbers that round to the double, also where all seventeen digits have to
be tried, and no number rounds to two doubles. So a decimal tells which double it is the shortest one of.
-/
namespace ApiTypes

/-! ### Digits -/

namespace Text

theorem digits_within_length {fuel n : Nat} (enough : n < fuel) (acc : Text) :
    ∃ k, (digitsWithin 10 fuel n acc).length = acc.length + (k + 1) ∧ n < 10 ^ (k + 1) ∧ (0 < n → 10 ^ k ≤ n) := by
  induction fuel generalizing n acc with
  | zero => omega
  | succ fuel ih =>
    simp only [digitsWithin, beq_iff_eq]
    split
    · exact ⟨0, rfl, by omega, by omega⟩
    · obtain ⟨k, length, below, above⟩ := ih (n := n / 10) (by omega) (digitChar (n % 10) :: acc)
      refine ⟨k + 1, by rw [length, List.length_cons]; omega, ?_, ?_⟩
      · rw [pow_succ]
        omega
      · intro _
        have lower := above (by omega)
        rw [pow_succ]
        omega

theorem of_nat_length (n : Nat) : ∃ k, (ofNat n).length = k + 1 ∧ n < 10 ^ (k + 1) ∧ (0 < n → 10 ^ k ≤ n) := by
  obtain ⟨k, length, bounds⟩ := digits_within_length (Nat.lt_succ_self n) []
  exact ⟨k, length.trans (Nat.zero_add _), bounds⟩

end Text

namespace Decimal

/-! ### Powers -/

theorem power_below {b : ℚ} {e : ℤ} (negative : e < 0) : b ^ e = 1 / b ^ e.natAbs := by
  have whole : e = -(e.natAbs : ℤ) := by omega
  rw [whole, zpow_neg, zpow_natCast, Int.natAbs_neg, Int.natAbs_natCast, one_div]

theorem power_above {b : ℚ} {e : ℤ} (other : ¬ e < 0) : b ^ e = b ^ e.natAbs := by
  have whole : e = (e.natAbs : ℤ) := by omega
  rw [whole, zpow_natCast, Int.natAbs_natCast]

theorem scaled_fraction {b : Nat} (base : 0 < b) (num : Nat) {den : Nat} (positive : 0 < den) (e : ℤ) :
    0 < (if e < 0 then (num * Nat.pow b e.natAbs, den) else (num, den * Nat.pow b e.natAbs)).2 ∧
      ((if e < 0 then (num * Nat.pow b e.natAbs, den) else (num, den * Nat.pow b e.natAbs)).1 : ℚ) /
        (if e < 0 then (num * Nat.pow b e.natAbs, den) else (num, den * Nat.pow b e.natAbs)).2 =
          (num : ℚ) / den / (b : ℚ) ^ e := by
  have nonzero : (b : ℚ) ≠ 0 := by exact_mod_cast base.ne'
  split
  · rename_i negative
    refine ⟨positive, ?_⟩
    rw [power_below negative]
    push_cast [Nat.pow_eq]
    field_simp
  · rename_i other
    refine ⟨Nat.mul_pos positive (Nat.pow_pos base), ?_⟩
    rw [power_above other]
    push_cast [Nat.pow_eq]
    field_simp

theorem power_fraction {b : Nat} (base : 0 < b) (n : Nat) (e : ℤ) :
    0 < (if e < 0 then (n, Nat.pow b e.natAbs) else (n * Nat.pow b e.natAbs, 1)).2 ∧
      ((if e < 0 then (n, Nat.pow b e.natAbs) else (n * Nat.pow b e.natAbs, 1)).1 : ℚ) /
        (if e < 0 then (n, Nat.pow b e.natAbs) else (n * Nat.pow b e.natAbs, 1)).2 = n * (b : ℚ) ^ e := by
  have nonzero : (b : ℚ) ≠ 0 := by exact_mod_cast base.ne'
  split
  · rename_i negative
    refine ⟨Nat.pow_pos base, ?_⟩
    rw [power_below negative]
    push_cast [Nat.pow_eq]
    field_simp
  · rename_i other
    refine ⟨Nat.one_pos, ?_⟩
    rw [power_above other]
    push_cast [Nat.pow_eq]
    field_simp

theorem scale_ten_eq (num : Nat) {den : Nat} (positive : 0 < den) (e : ℤ) :
    0 < (scaleTen num den e).2 ∧
      ((scaleTen num den e).1 : ℚ) / (scaleTen num den e).2 = (num : ℚ) / den / (10 : ℚ) ^ e :=
  scaled_fraction (by decide) num positive e

theorem scale_down_eq (num : Nat) {den : Nat} (positive : 0 < den) (e : ℤ) :
    0 < (scaleDown num den e).2 ∧
      ((scaleDown num den e).1 : ℚ) / (scaleDown num den e).2 = (num : ℚ) / den / (2 : ℚ) ^ e :=
  scaled_fraction (by decide) num positive e

/-! ### The numbers that round to a double -/

namespace Binary64

def size (x : Binary64) : ℚ := x.mantissa * 2 ^ x.exponent

/-- A double in the form in which each is written once: the mantissa has fifty-three bits, or fewer at the least
exponent. -/
structure Proper (x : Binary64) : Prop where
  bounded : x.mantissa < 2 ^ 53
  least : -1074 ≤ x.exponent
  normal : 2 ^ 52 ≤ x.mantissa ∨ x.exponent = -1074

/-- Half the way down to the next double, in units of the last place. -/
def gap (x : Binary64) : ℚ := if x.mantissa = 2 ^ 52 ∧ -1074 < x.exponent then 1 / 4 else 1 / 2

/-- A number halfway between two doubles rounds to the one with the even mantissa. -/
def Rounds (x : Binary64) (q : ℚ) : Prop :=
  if x.mantissa % 2 = 0 then
    (x.mantissa - x.gap) * 2 ^ x.exponent ≤ q ∧ q ≤ (x.mantissa + 1 / 2) * 2 ^ x.exponent
  else (x.mantissa - x.gap) * 2 ^ x.exponent < q ∧ q < (x.mantissa + 1 / 2) * 2 ^ x.exponent

theorem ratio_eq (x : Binary64) : 0 < x.ratio.2 ∧ (x.ratio.1 : ℚ) / x.ratio.2 = x.size :=
  power_fraction (by decide) x.mantissa x.exponent

theorem gap_bounds (x : Binary64) : 1 / 4 ≤ x.gap ∧ x.gap ≤ 1 / 2 := by
  unfold gap
  split <;> norm_num

theorem Rounds.bounds {x : Binary64} {q : ℚ} (rounds : x.Rounds q) :
    (x.mantissa - x.gap) * 2 ^ x.exponent ≤ q ∧ q ≤ (x.mantissa + 1 / 2) * 2 ^ x.exponent := by
  unfold Rounds at rounds
  split at rounds
  · exact rounds
  · exact ⟨rounds.1.le, rounds.2.le⟩

theorem rounds_inside {x : Binary64} {q : ℚ} (above : (x.mantissa - x.gap) * 2 ^ x.exponent < q)
    (below : q < (x.mantissa + 1 / 2) * 2 ^ x.exponent) : x.Rounds q := by
  unfold Rounds
  split
  · exact ⟨above.le, below.le⟩
  · exact ⟨above, below⟩

theorem Rounds.positive {x : Binary64} {q : ℚ} (rounds : x.Rounds q) (nonzero : 0 < x.mantissa) : 0 < q := by
  have one : (1 : ℚ) ≤ x.mantissa := by exact_mod_cast nonzero
  have lower : 0 < (x.mantissa - x.gap) * 2 ^ x.exponent :=
    mul_pos (by linarith [x.gap_bounds.2]) (zpow_pos (by norm_num) _)
  exact lower.trans_le rounds.bounds.1

end Binary64

/-! ### Intervals -/

theorem interval_ends {x : Binary64} (nonzero : 0 < x.mantissa) :
    0 < (Interval.of x).den ∧ ((Interval.of x).low : ℚ) / (Interval.of x).den = (x.mantissa - x.gap) * 2 ^ x.exponent ∧
      ((Interval.of x).high : ℚ) / (Interval.of x).den = (x.mantissa + 1 / 2) * 2 ^ x.exponent := by
  obtain ⟨positive, unit⟩ := Binary64.ratio_eq { x with mantissa := 1 }
  simp only [Binary64.size, Nat.cast_one, one_mul] at unit
  have den : ((Binary64.ratio { x with mantissa := 1 }).2 : ℚ) ≠ 0 := by exact_mod_cast positive.ne'
  rw [div_eq_iff den] at unit
  refine ⟨Nat.mul_pos (by decide) positive, ?_, ?_⟩
  · have fits : (if x.mantissa == Nat.pow 2 52 && -1074 < x.exponent then 1 else 2) ≤ 4 * x.mantissa := by
      split <;> omega
    have quarters : (if x.mantissa == Nat.pow 2 52 && -1074 < x.exponent then 1 else 2 : ℚ) = 4 * x.gap := by
      unfold Binary64.gap
      by_cases edge : x.mantissa = 2 ^ 52 ∧ -1074 < x.exponent
      · simp [edge]
      · have other : (x.mantissa == Nat.pow 2 52 && decide (-1074 < x.exponent)) = false := by
          simpa using edge
        rw [other, if_neg edge]
        norm_num
    simp only [Interval.of]
    push_cast [Nat.cast_sub fits]
    rw [quarters, unit]
    field_simp
  · simp only [Interval.of]
    push_cast
    rw [unit]
    field_simp
    ring

theorem holds_iff {x : Binary64} (nonzero : 0 < x.mantissa) (d : Nat) (e : ℤ) :
    (Interval.of x).holds d e = true ↔ x.Rounds (d * 10 ^ e) := by
  obtain ⟨den, low, high⟩ := interval_ends nonzero
  obtain ⟨positive, value⟩ := power_fraction (b := 10) (by decide) d e
  rw [Nat.cast_ofNat] at value
  have parity : (Interval.of x).closed = (x.mantissa % 2 == 0) := rfl
  unfold Interval.holds Binary64.Rounds
  generalize (if e < 0 then (d, Nat.pow 10 e.natAbs) else (d * Nat.pow 10 e.natAbs, 1)) = fraction at positive value ⊢
  have below : (0 : ℚ) < fraction.2 := by exact_mod_cast positive
  have across : (0 : ℚ) < (Interval.of x).den := by exact_mod_cast den
  rw [← low, ← high, ← value, parity, div_le_div_iff₀ across below, div_le_div_iff₀ below across, div_lt_div_iff₀ across below,
    div_lt_div_iff₀ below across]
  by_cases even : x.mantissa % 2 = 0
  · simp only [even, beq_self_eq_true, if_true, Bool.and_eq_true, decide_eq_true_eq]
    norm_cast
  · simp only [even, beq_iff_eq, if_false, Bool.and_eq_true, decide_eq_true_eq]
    norm_cast

/-! ### The decimal that is found -/

theorem round_div_cases (n m : Nat) : roundDiv n m = n / m ∨ roundDiv n m = n / m + 1 := by
  simp only [roundDiv]
  split
  · exact Or.inr rfl
  · exact Or.inl rfl

theorem round_div_near (n : Nat) {m : Nat} (positive : 0 < m) :
    (roundDiv n m : ℚ) - 1 / 2 ≤ (n : ℚ) / m ∧ (n : ℚ) / m ≤ roundDiv n m + 1 / 2 := by
  have whole := Nat.div_add_mod n m
  have rest := Nat.mod_lt n positive
  have both : 2 * (m * roundDiv n m) ≤ 2 * n + m ∧ 2 * n ≤ 2 * (m * roundDiv n m) + m := by
    simp only [roundDiv]
    split
    · rename_i up
      have half : m ≤ 2 * (n % m) := by
        simp only [Bool.or_eq_true, decide_eq_true_eq, Bool.and_eq_true, beq_iff_eq] at up
        omega
      rw [Nat.mul_add]
      omega
    · rename_i down
      have half : 2 * (n % m) ≤ m := by
        simp only [Bool.or_eq_true, decide_eq_true_eq, Bool.and_eq_true, beq_iff_eq] at down
        omega
      omega
  have unit : (0 : ℚ) < m := by exact_mod_cast positive
  have upper : (2 * (m * roundDiv n m) : ℚ) ≤ 2 * n + m := by exact_mod_cast both.1
  have lower : (2 * n : ℚ) ≤ 2 * (m * roundDiv n m) + m := by exact_mod_cast both.2
  constructor
  · rw [le_div_iff₀ unit]
    linarith
  · rw [div_le_iff₀ unit]
    linarith

theorem neighbour_holds {i : Interval} {num den d : Nat} {e : ℤ} (found : neighbour? i num den e = some d) :
    i.holds d e = true := by
  simp only [neighbour?] at found
  split at found
  · rename_i lower upper
    cases found
    rcases round_div_cases (scaleTen num den e).1 (scaleTen num den e).2 with down | up
    · rw [down]
      exact lower
    · rw [up]
      exact upper
  · rename_i lower _
    cases found
    exact lower
  · rename_i _ upper
    cases found
    exact upper
  · cases found

/-- Either a test has been passed, or the last grid decides without one. -/
theorem shortest_within_cases (i : Interval) (num den : Nat) (top : ℤ) (tries places : Nat) :
    i.holds (shortestWithin i num den top tries places).digits (shortestWithin i num den top tries places).exponent = true ∨
      shortestWithin i num den top tries places =
        ⟨roundDiv (scaleTen num den (top - (places + tries : Nat))).1 (scaleTen num den (top - (places + tries : Nat))).2,
          top - (places + tries : Nat)⟩ := by
  induction tries generalizing places with
  | zero => exact Or.inr rfl
  | succ tries ih =>
    rw [shortestWithin]
    cases found : neighbour? i num den (top - places) with
    | some d => exact Or.inl (neighbour_holds found)
    | none =>
      have later := ih (places + 1)
      rwa [Nat.add_right_comm] at later

theorem negative_power_below {num den n : Nat} (reached : den ≤ num * 10 ^ n) :
    (10 : ℚ) ^ (-(n : ℤ)) * den ≤ num := by
  have power : (0 : ℚ) < 10 ^ n := by positivity
  rw [zpow_neg, zpow_natCast, inv_mul_le_iff₀ power, mul_comm]
  exact_mod_cast reached

theorem magnitude_below {num den : Nat} (positive : 0 < num) (unit : 0 < den) :
    (10 : ℚ) ^ magnitude num den ≤ (num : ℚ) / den := by
  have across : (0 : ℚ) < den := by exact_mod_cast unit
  rw [le_div_iff₀ across]
  unfold magnitude
  split
  · rename_i large
    obtain ⟨k, length, -, above⟩ := Text.of_nat_length (num / den)
    have least := above (Nat.div_pos large unit)
    have product : 10 ^ k * den ≤ num := (Nat.mul_le_mul_right den least).trans (Nat.div_mul_le_self num den)
    have exponent : ((Text.ofNat (num / den)).length : ℤ) - 1 = k := by omega
    rw [exponent, zpow_natCast]
    exact_mod_cast product
  · rename_i small
    obtain ⟨j, numLength, -, numAbove⟩ := Text.of_nat_length num
    obtain ⟨k, denLength, denBelow, -⟩ := Text.of_nat_length den
    have shorter : j < k + 1 := by
      refine (Nat.pow_lt_pow_iff_right (by decide : 1 < 10)).mp ?_
      exact (numAbove positive).trans_lt ((Nat.lt_of_not_le small).trans denBelow)
    have difference : (Text.ofNat den).length - (Text.ofNat num).length = k - j := by omega
    simp only [difference, Nat.pow_eq]
    split
    · rename_i reached
      exact negative_power_below reached
    · have reached : den ≤ num * 10 ^ (k - j + 1) := by
        refine denBelow.le.trans ?_
        have split : k + 1 = j + (k - j + 1) := by omega
        rw [split, pow_add]
        exact Nat.mul_le_mul_right _ (numAbove positive)
      have exponent : -((k - j : Nat) : ℤ) - 1 = -((k - j + 1 : Nat) : ℤ) := by omega
      rw [exponent]
      exact negative_power_below reached

/-- Seventeen digits are enough: the nearest decimal with so many is nearer than the neighbours of the double. -/
theorem nearest_rounds {x : Binary64} (proper : x.Proper) {d : Nat} {e top : ℤ}
    (places : e = top - 16) (reached : (10 : ℚ) ^ top ≤ x.size) (near : |(d : ℚ) * 10 ^ e - x.size| ≤ 10 ^ e / 2) :
    x.Rounds (d * 10 ^ e) := by
  have step : (10 : ℚ) ^ e = 10 ^ top / 10 ^ 16 := by
    rw [places, zpow_sub₀ (by norm_num)]
    norm_num
  have unit : (0 : ℚ) < 2 ^ x.exponent := zpow_pos (by norm_num) _
  have below : (x.mantissa : ℚ) < 2 ^ 53 := by exact_mod_cast proper.bounded
  have error : (10 : ℚ) ^ e / 2 < x.gap * 2 ^ x.exponent := by
    have small : (10 : ℚ) ^ e / 2 ≤ (x.mantissa / (2 * 10 ^ 16)) * 2 ^ x.exponent := by
      rw [step]
      unfold Binary64.size at reached
      linarith
    refine small.trans_lt (mul_lt_mul_of_pos_right ?_ unit)
    unfold Binary64.gap
    split
    · rename_i edge
      rw [edge.1]
      norm_num
    · rw [div_lt_iff₀ (by norm_num)]
      linarith
  have half : x.gap * 2 ^ x.exponent ≤ 1 / 2 * 2 ^ x.exponent :=
    mul_le_mul_of_nonneg_right x.gap_bounds.2 unit.le
  obtain ⟨above, under⟩ := abs_le.mp near
  unfold Binary64.size at above under
  refine Binary64.rounds_inside ?_ ?_
  · rw [sub_mul]
    linarith
  · rw [add_mul]
    linarith

def Digits.value (d : Digits) : ℚ := d.digits * 10 ^ d.exponent

theorem strip_zeros_value (fuel : Nat) (d : Digits) : (stripZeros fuel d).value = d.value := by
  induction fuel generalizing d with
  | zero => rfl
  | succ fuel ih =>
    rw [stripZeros]
    split
    · rename_i zero
      simp only [Bool.and_eq_true, beq_iff_eq] at zero
      have tens : d.digits = 10 * (d.digits / 10) := by omega
      have cast : (d.digits : ℚ) = 10 * (d.digits / 10 : Nat) := by exact_mod_cast tens
      rw [ih, Digits.value, Digits.value, cast, zpow_add₀ (by norm_num)]
      ring
    · rfl

theorem digits_positive {d : Digits} (positive : 0 < d.value) : 0 < d.digits := by
  refine Nat.pos_of_ne_zero fun zero => ?_
  rw [Digits.value, zero, Nat.cast_zero, zero_mul] at positive
  exact positive.false

def found (x : Binary64) : Digits := shortestWithin (Interval.of x) x.ratio.1 x.ratio.2 (magnitude x.ratio.1 x.ratio.2) 16 0

theorem shortest_value (x : Binary64) : (shortest x).value = (found x).value :=
  strip_zeros_value 20 (found x)

/- The search ends in one of two ways: with a decimal that has been tested, or with the nearest one on the finest grid. -/
theorem found_cases {x : Binary64} (nonzero : 0 < x.mantissa) :
    x.Rounds (found x).value ∨ ∃ top : ℤ, (10 : ℚ) ^ top ≤ x.size ∧ (found x).exponent = top - 16 ∧
      |(found x).value - x.size| ≤ 10 ^ (found x).exponent / 2 := by
  obtain ⟨den, value⟩ := x.ratio_eq
  have size : 0 < x.size := mul_pos (by exact_mod_cast nonzero) (zpow_pos (by norm_num) _)
  have num : 0 < x.ratio.1 := by
    refine Nat.pos_of_ne_zero fun zero => ?_
    rw [zero, Nat.cast_zero, zero_div] at value
    exact size.ne value
  rcases shortest_within_cases (Interval.of x) x.ratio.1 x.ratio.2 (magnitude x.ratio.1 x.ratio.2) 16 0 with tested | last
  · exact Or.inl ((holds_iff nonzero _ _).mp tested)
  · generalize places : magnitude x.ratio.1 x.ratio.2 - ((0 + 16 : Nat) : ℤ) = e at last
    obtain ⟨unit, fraction⟩ := scale_ten_eq x.ratio.1 den e
    obtain ⟨above, under⟩ := round_div_near (scaleTen x.ratio.1 x.ratio.2 e).1 unit
    have grid : (0 : ℚ) < 10 ^ e := zpow_pos (by norm_num) _
    rw [fraction, value, le_div_iff₀ grid, sub_mul] at above
    rw [fraction, value, div_le_iff₀ grid, add_mul] at under
    refine Or.inr ⟨magnitude x.ratio.1 x.ratio.2, value ▸ magnitude_below num den, ?_, ?_⟩
    · rw [found, last]
      exact places.symm
    · rw [found, last, Digits.value, abs_le]
      constructor <;> linarith

/-- The shortest decimal of a double rounds to it. -/
theorem shortest_rounds {x : Binary64} (proper : x.Proper) (nonzero : 0 < x.mantissa) : x.Rounds (shortest x).value := by
  rw [shortest_value]
  rcases found_cases nonzero with rounds | ⟨top, reached, places, near⟩
  · exact rounds
  · exact nearest_rounds proper places reached near

theorem shortest_positive {x : Binary64} (nonzero : 0 < x.mantissa) : 0 < (shortest x).digits := by
  refine digits_positive ?_
  rw [shortest_value]
  rcases found_cases nonzero with rounds | ⟨top, reached, places, near⟩
  · exact rounds.positive nonzero
  · have step : (10 : ℚ) ^ top = 10 ^ (found x).exponent * 10 ^ 16 := by
      rw [places, zpow_sub₀ (by norm_num)]
      norm_num
    have grid : (0 : ℚ) < 10 ^ (found x).exponent := zpow_pos (by norm_num) _
    linarith [(abs_le.mp near).1]

/-! ### No number rounds to two doubles -/

namespace Binary64

variable {x y : Binary64} {q : ℚ}

theorem Rounds.even (rounds : x.Rounds q)
    (edge : q ≤ (x.mantissa - x.gap) * 2 ^ x.exponent ∨ (x.mantissa + 1 / 2) * 2 ^ x.exponent ≤ q) :
    x.mantissa % 2 = 0 := by
  unfold Rounds at rounds
  split at rounds
  · assumption
  · rcases edge with low | high
    · exact absurd rounds.1 (not_lt.mpr low)
    · exact absurd rounds.2 (not_lt.mpr high)

theorem same_exponent_apart (hx : x.Rounds q) (hy : y.Rounds q) (same : x.exponent = y.exponent) :
    ¬ x.mantissa < y.mantissa := by
  intro less
  have unit : (0 : ℚ) < 2 ^ y.exponent := zpow_pos (by norm_num) _
  have upper := hx.bounds.2
  have lower := hy.bounds.1
  rw [same] at upper
  have meet : (y.mantissa - y.gap : ℚ) ≤ x.mantissa + 1 / 2 := le_of_mul_le_mul_right (lower.trans upper) unit
  have next : y.mantissa = x.mantissa + 1 := by
    have close : (y.mantissa : ℚ) ≤ x.mantissa + 1 := by linarith [y.gap_bounds.2]
    have whole : y.mantissa ≤ x.mantissa + 1 := by exact_mod_cast close
    omega
  -- The end of one interval is that of the other, and one of the two mantissas is odd.
  have touch : (x.mantissa + 1 / 2 : ℚ) ≤ y.mantissa - y.gap := by
    rw [next]
    push_cast
    linarith [y.gap_bounds.2]
  have ends := mul_le_mul_of_nonneg_right touch unit.le
  have xEven := hx.even (Or.inr (by rw [same]; exact ends.trans lower))
  have yEven := hy.even (Or.inl (upper.trans ends))
  omega

/-- Above the least exponent, an interval begins where those of the next smaller exponent end. -/
theorem Proper.lower_end (proper : x.Proper) (above : -1074 < x.exponent) : 2 ^ 52 - 1 / 4 ≤ x.mantissa - x.gap := by
  have normal : 2 ^ 52 ≤ x.mantissa := proper.normal.resolve_right above.ne'
  unfold gap
  split
  · rename_i edge
    rw [edge.1]
    norm_num
  · rename_i other
    have more : 2 ^ 52 + 1 ≤ x.mantissa := by
      have apart : x.mantissa ≠ 2 ^ 52 := fun same => other ⟨same, above⟩
      omega
    have cast : (2 ^ 52 + 1 : ℚ) ≤ x.mantissa := by exact_mod_cast more
    linarith

theorem exponents_apart (px : x.Proper) (py : y.Proper) (hx : x.Rounds q) (hy : y.Rounds q) :
    ¬ x.exponent < y.exponent := by
  intro less
  have unit : (0 : ℚ) < 2 ^ x.exponent := zpow_pos (by norm_num) _
  have double : 2 * 2 ^ x.exponent ≤ (2 : ℚ) ^ y.exponent := by
    rw [← zpow_one_add₀ (by norm_num)]
    exact zpow_le_zpow_right₀ (by norm_num) (by omega)
  have first := py.lower_end (px.least.trans_lt less)
  have lower : (2 ^ 53 - 1 / 2) * 2 ^ x.exponent ≤ q := by
    calc (2 ^ 53 - 1 / 2 : ℚ) * 2 ^ x.exponent = (2 ^ 52 - 1 / 4) * (2 * 2 ^ x.exponent) := by ring
      _ ≤ (y.mantissa - y.gap) * 2 ^ y.exponent :=
        mul_le_mul first double (by positivity) (le_trans (by norm_num) first)
      _ ≤ q := hy.bounds.1
  -- Only the interval of the largest mantissa reaches so far, and its end is not included.
  have largest : x.mantissa = 2 ^ 53 - 1 := by
    have reach : (2 ^ 53 - 1 / 2 : ℚ) ≤ x.mantissa + 1 / 2 := le_of_mul_le_mul_right (lower.trans hx.bounds.2) unit
    have cast : (2 ^ 53 : ℚ) ≤ x.mantissa + 1 := by linarith
    have whole : 2 ^ 53 ≤ x.mantissa + 1 := by exact_mod_cast cast
    have bounded := px.bounded
    omega
  have even := hx.even (Or.inr (by
    refine le_trans (mul_le_mul_of_nonneg_right ?_ unit.le) lower
    rw [largest]
    norm_num))
  omega

theorem rounds_unique (px : x.Proper) (py : y.Proper) (hx : x.Rounds q) (hy : y.Rounds q) :
    x.mantissa = y.mantissa ∧ x.exponent = y.exponent := by
  have same : x.exponent = y.exponent :=
    le_antisymm (not_lt.mp (exponents_apart py px hy hx)) (not_lt.mp (exponents_apart px py hx hy))
  exact ⟨le_antisymm (not_lt.mp (same_exponent_apart hy hx same.symm)) (not_lt.mp (same_exponent_apart hx hy same)), same⟩

end Binary64

/-- The shortest decimal tells the double. -/
theorem shortest_injective {x y : Binary64} (px : x.Proper) (py : y.Proper) (hx : 0 < x.mantissa) (hy : 0 < y.mantissa)
    (same : (shortest x).value = (shortest y).value) : x.mantissa = y.mantissa ∧ x.exponent = y.exponent :=
  Binary64.rounds_unique px py (shortest_rounds px hx) (same ▸ shortest_rounds py hy)

end Decimal

end ApiTypes
