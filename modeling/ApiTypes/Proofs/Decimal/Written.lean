import ApiTypes.Proofs.Decimal.Shortest
import ApiTypes.Proofs.PointerLookup
/-!
Numbers as they are written. The text of a double is read as a decimal, whichever of the forms it has, and the decimal is
the shortest one of the double. So the text tells the number, and whether it is a whole number or a double.
-/
namespace ApiTypes

/-! ### Digits as numbers -/

namespace Text

def natFrom (n : Nat) (t : Text) : Nat := t.foldl (fun n c => n * 10 + (c.toNat - 48)) n

def natOf (t : Text) : Nat := natFrom 0 t

theorem nat_from_cons (n : Nat) (c : Char) (t : Text) : natFrom n (c :: t) = natFrom (n * 10 + (c.toNat - 48)) t := by
  rw [natFrom, List.foldl_cons, natFrom]

theorem nat_from_eq (n : Nat) (t : Text) : natFrom n t = n * 10 ^ t.length + natOf t := by
  unfold natOf
  induction t generalizing n with
  | nil => simp [natFrom]
  | cons c t ih =>
    rw [nat_from_cons, nat_from_cons, ih, ih (0 * 10 + (c.toNat - 48)), List.length_cons, pow_succ]
    ring

theorem nat_from_append (n : Nat) (t u : Text) : natFrom n (t ++ u) = natFrom (natFrom n t) u := by
  rw [natFrom, List.foldl_append, natFrom, natFrom]

theorem nat_of_append (t u : Text) : natOf (t ++ u) = natOf t * 10 ^ u.length + natOf u := by
  rw [natOf, nat_from_append, nat_from_eq]
  rfl

theorem nat_of_zeros (n : Nat) : natOf (List.replicate n '0') = 0 := by
  induction n with
  | zero => rfl
  | succ n ih =>
    have digit : '0'.toNat - 48 = 0 := by decide
    rw [List.replicate_succ, natOf, nat_from_cons, digit]
    exact ih

theorem read_on_digits {t : Text} (digits : t.all isDigit = true) (n : Nat) : readOn n t = some (natFrom n t) := by
  induction t generalizing n with
  | nil => rfl
  | cons c t ih =>
    simp only [List.all_cons, Bool.and_eq_true] at digits
    have value : toNatBase?.digitOf c = some (c.toNat - 48) := by rw [toNatBase?.digitOf, if_pos digits.1]
    have small : c.toNat - 48 < 10 := by
      have high : c.toNat ≤ 57 := by
        have bounds := digits.1
        simp only [isDigit, Bool.and_eq_true, decide_eq_true_eq] at bounds
        exact bounds.2
      omega
    rw [nat_from_cons, ← ih digits.2]
    simp [readOn, value, small]

theorem nat_of_of_nat (n : Nat) : natOf (ofNat n) = n := by
  have read := digits_within_read (Nat.lt_succ_self n) []
  exact Option.some.inj ((read_on_digits (of_nat_digits n) 0).symm.trans read)

theorem of_nat_injective {m n : Nat} (same : ofNat m = ofNat n) : m = n := by
  rw [← nat_of_of_nat m, same, nat_of_of_nat]

theorem digit_absent {c : Char} {t : Text} (digits : t.all isDigit = true) (other : isDigit c = false) : c ∉ t := by
  intro mem
  rw [List.all_eq_true.mp digits c mem] at other
  cases other

theorem cut_at_mark {sep : Char} {t : Text} (absent : sep ∉ t) (rest : Text) :
    cutAt sep (t ++ sep :: rest) = (t, some rest) := by
  induction t with
  | nil => simp [cutAt]
  | cons c t ih =>
    simp only [List.mem_cons, not_or] at absent
    rw [List.cons_append, cutAt, if_neg (by simp [Ne.symm absent.1]), ih absent.2]

end Text

namespace Decimal

open Text (natOf cutAt isDigit)

/-! ### Decimals as numbers -/

def powerOf : Text → ℤ
  | '-' :: t => -(natOf t : ℤ)
  | '+' :: t => natOf t
  | t => natOf t

def valueOf (t : Text) : ℚ :=
  let (body, power) := cutAt 'e' t
  let (whole, fraction) := cutAt '.' body
  natOf (whole ++ fraction.getD []) * 10 ^ ((power.map powerOf).getD 0 - (fraction.getD []).length)

theorem power_of_int (power : ℤ) : powerOf ((if power < 0 then [] else ['+']) ++ Text.ofInt power) = power := by
  unfold Text.ofInt
  split
  · simp only [List.nil_append, powerOf, Text.nat_of_of_nat]
    omega
  · simp only [List.singleton_append, powerOf, Text.nat_of_of_nat]
    omega

theorem value_of_fraction {before after : Text} (digits₁ : before.all isDigit = true) (digits₂ : after.all isDigit = true) :
    valueOf (before ++ '.' :: after) = natOf (before ++ after) * 10 ^ (-(after.length : ℤ)) := by
  have unscaled : 'e' ∉ before ++ '.' :: after := by
    simp only [List.mem_append, List.mem_cons, not_or]
    exact ⟨Text.digit_absent digits₁ rfl, by decide, Text.digit_absent digits₂ rfl⟩
  simp only [valueOf, Text.cut_at_absent unscaled, Text.cut_at_mark (Text.digit_absent digits₁ (c := '.') rfl)]
  simp

theorem value_of_power {ds : Text} (digits : ds.all isDigit = true) (power : Text) :
    valueOf (ds ++ 'e' :: power) = natOf ds * 10 ^ powerOf power := by
  have body := Text.cut_at_mark (Text.digit_absent digits (c := 'e') rfl) power
  simp only [valueOf, body, Text.cut_at_absent (Text.digit_absent digits (c := '.') rfl)]
  simp

theorem value_of_fraction_power {before after : Text} (digits₁ : before.all isDigit = true)
    (digits₂ : after.all isDigit = true) (power : Text) :
    valueOf (before ++ '.' :: after ++ 'e' :: power) =
      natOf (before ++ after) * 10 ^ (powerOf power - (after.length : ℤ)) := by
  have unscaled : 'e' ∉ before ++ '.' :: after := by
    simp only [List.mem_append, List.mem_cons, not_or]
    exact ⟨Text.digit_absent digits₁ rfl, by decide, Text.digit_absent digits₂ rfl⟩
  simp only [valueOf, Text.cut_at_mark unscaled, Text.cut_at_mark (Text.digit_absent digits₁ (c := '.') rfl)]
  simp

theorem zeros_digits {ds : Text} (digits : ds.all isDigit = true) (n : Nat) :
    (List.replicate n '0' ++ ds).all isDigit = true ∧ (ds ++ List.replicate n '0').all isDigit = true := by
  simp only [List.all_append, Script.all_digits_replicate, digits, Bool.and_self, and_self]

theorem value_of_small {ds : Text} (digits : ds.all isDigit = true) (n : Nat) :
    valueOf ("0.".toList ++ List.replicate n '0' ++ ds) = natOf ds * 10 ^ (-(n : ℤ) - ds.length) := by
  have shape : "0.".toList ++ List.replicate n '0' ++ ds = ['0'] ++ '.' :: (List.replicate n '0' ++ ds) := rfl
  have number : natOf (['0'] ++ (List.replicate n '0' ++ ds)) = natOf ds := by
    have zero : natOf ['0'] = 0 := by decide
    rw [Text.nat_of_append, Text.nat_of_append, Text.nat_of_zeros, zero, Nat.zero_mul, Nat.zero_mul, Nat.zero_add, Nat.zero_add]
  have places : -((List.replicate n '0' ++ ds).length : ℤ) = -(n : ℤ) - ds.length := by
    rw [List.length_append, List.length_replicate]
    omega
  rw [shape, value_of_fraction rfl (zeros_digits digits n).1, number, places]

theorem value_of_large {ds : Text} (digits : ds.all isDigit = true) (n : Nat) :
    valueOf (ds ++ List.replicate n '0' ++ ".0".toList) = natOf ds * 10 ^ (n : ℤ) := by
  have shape : ds ++ List.replicate n '0' ++ ".0".toList = (ds ++ List.replicate n '0') ++ '.' :: ['0'] := rfl
  have zero : natOf ['0'] = 0 := by decide
  rw [shape, value_of_fraction (zeros_digits digits n).2 rfl, Text.nat_of_append, Text.nat_of_append, Text.nat_of_zeros, zero,
    zpow_natCast, List.length_replicate]
  push_cast
  simp only [List.length_singleton, Nat.cast_one, zpow_neg_one, pow_one, add_zero]
  field_simp

/-- Every form in which digits are written is read as the same number. -/
theorem write_value {ds : Text} (nonempty : ds ≠ []) (digits : ds.all isDigit = true) (point : ℤ) :
    valueOf (Json.realStyle.write ds point) = natOf ds * 10 ^ (point - ds.length) := by
  have taken := fun n => Text.digits_of_subset digits (List.take_subset n ds)
  have dropped := fun n => Text.digits_of_subset digits (List.drop_subset n ds)
  have positive : 0 < ds.length := List.length_pos_iff.mpr nonempty
  unfold Style.write
  split
  · split
    · have places : point - ds.length = -(point.natAbs : ℤ) - ds.length := by omega
      rw [value_of_small digits, places]
    · split
      · have places : point - ds.length = ((point.natAbs - ds.length : Nat) : ℤ) := by omega
        rw [value_of_large digits, places]
      · have places : point - ds.length = -((ds.drop point.natAbs).length : ℤ) := by
          rw [List.length_drop]
          omega
        rw [List.append_assoc, List.singleton_append, value_of_fraction (taken _) (dropped _), List.take_append_drop, places]
  · simp only [List.append_assoc]
    split
    · rename_i single
      have all : ds.take 1 = ds := List.take_of_length_le single
      have places : point - ds.length = point - 1 := by omega
      rw [all, List.nil_append, List.singleton_append, value_of_power digits, places]
      exact congrArg _ (congrArg _ (power_of_int _))
    · have shape : ∀ power : Text,
          ds.take 1 ++ ('.' :: ds.drop 1 ++ (['e'] ++ power)) = ds.take 1 ++ '.' :: ds.drop 1 ++ 'e' :: power := by
        intro power
        simp
      have places : point - ds.length = point - 1 - ((ds.drop 1).length : ℤ) := by
        rw [List.length_drop]
        omega
      rw [shape, value_of_fraction_power (taken 1) (dropped 1), List.take_append_drop, places]
      exact congrArg _ (congrArg _ (congrArg (· - _) (power_of_int _)))

end Decimal

namespace Json

open Decimal (Binary64 shortest valueOf)
open Script (IsUnsigned Numeral)

/-! ### Signs -/

def signed (negative : Bool) (t : Text) : Text := if negative then '-' :: t else t

theorem unsigned_first {t : Text} (unsigned : IsUnsigned t) : ∃ c rest, t = c :: rest ∧ Text.isDigit c = true := by
  obtain ⟨s, reads, complete⟩ := unsigned
  cases t with
  | nil =>
    cases Option.some.inj reads
    cases complete
  | cons c rest =>
    refine ⟨c, rest, rfl, ?_⟩
    by_contra other
    simp [Numeral.run?, Numeral.next?, other] at reads

theorem signed_injective {b b' : Bool} {t t' : Text} (unsigned : IsUnsigned t) (unsigned' : IsUnsigned t')
    (same : signed b t = signed b' t') : b = b' ∧ t = t' := by
  have minus : ∀ {u v : Text}, IsUnsigned u → u ≠ '-' :: v := by
    intro u v digits equal
    obtain ⟨c, rest, shape, digit⟩ := unsigned_first digits
    rw [shape, List.cons.injEq] at equal
    rw [equal.1] at digit
    cases digit
  cases b <;> cases b'
  · exact ⟨rfl, same⟩
  · exact absurd same (minus unsigned)
  · exact absurd same.symm (minus unsigned')
  · exact ⟨rfl, (List.cons.inj same).2⟩

theorem int_text_signed (i : ℤ) : Text.ofInt i = signed (decide (i < 0)) (Text.ofNat i.natAbs) := by
  by_cases negative : i < 0 <;> simp [Text.ofInt, signed, negative]

theorem nat_text_unsigned (n : Nat) : IsUnsigned (Text.ofNat n) :=
  Script.digits_unsigned (Text.of_nat_nonempty n) (Text.of_nat_digits n)

/-! ### Doubles -/

def magnitudeText (x : Binary64) : Text :=
  if x.isZero then "0.0".toList
  else realStyle.write (Text.ofNat (shortest x).digits) ((shortest x).exponent + (Text.ofNat (shortest x).digits).length)

theorem real_text_signed (x : Binary64) : realStyle.text x = signed x.negative (magnitudeText x) := by
  unfold Decimal.Style.text magnitudeText signed
  cases x.negative <;> cases x.isZero <;> rfl

theorem magnitude_unsigned (x : Binary64) : IsUnsigned (magnitudeText x) := by
  unfold magnitudeText
  split
  · exact ⟨.fraction, rfl, rfl⟩
  · exact Script.write_unsigned (Text.of_nat_nonempty _) (Text.of_nat_digits _) _

theorem magnitude_value (x : Binary64) :
    valueOf (magnitudeText x) = if x.mantissa = 0 then 0 else (shortest x).value := by
  unfold magnitudeText Binary64.isZero
  by_cases zero : x.mantissa = 0
  · have digits : valueOf (['0'] ++ '.' :: ['0']) = _ := Decimal.value_of_fraction rfl rfl
    have none : Text.natOf (['0'] ++ ['0']) = 0 := by decide
    rw [none, Nat.cast_zero, zero_mul] at digits
    simp only [zero, beq_self_eq_true, if_true]
    exact digits
  · have places : (shortest x).exponent + ((Text.ofNat (shortest x).digits).length : ℤ) -
        (Text.ofNat (shortest x).digits).length = (shortest x).exponent := by omega
    simp only [zero, beq_iff_eq, if_false]
    rw [Decimal.write_value (Text.of_nat_nonempty _) (Text.of_nat_digits _), Text.nat_of_of_nat, places]
    rfl

theorem magnitude_injective {x y : Binary64} (px : x.Proper) (py : y.Proper) (same : magnitudeText x = magnitudeText y) :
    x.mantissa = y.mantissa ∧ x.exponent = y.exponent := by
  have values := congrArg valueOf same
  rw [magnitude_value, magnitude_value] at values
  have positive : ∀ {z : Binary64}, z.Proper → z.mantissa ≠ 0 → (shortest z).value ≠ 0 := fun proper nonzero =>
    ((Decimal.shortest_rounds proper (Nat.pos_of_ne_zero nonzero)).positive (Nat.pos_of_ne_zero nonzero)).ne'
  by_cases hx : x.mantissa = 0 <;> by_cases hy : y.mantissa = 0
  · have least : ∀ {z : Binary64}, z.Proper → z.mantissa = 0 → z.exponent = -1074 := fun proper zero =>
      proper.normal.resolve_left (by rw [zero]; decide)
    exact ⟨hx.trans hy.symm, (least px hx).trans (least py hy).symm⟩
  · rw [if_pos hx, if_neg hy] at values
    exact absurd values.symm (positive py hy)
  · rw [if_neg hx, if_pos hy] at values
    exact absurd values (positive px hx)
  · rw [if_neg hx, if_neg hy] at values
    exact Decimal.shortest_injective px py (Nat.pos_of_ne_zero hx) (Nat.pos_of_ne_zero hy) values

theorem magnitude_marked (x : Binary64) : '.' ∈ magnitudeText x ∨ 'e' ∈ magnitudeText x := by
  unfold magnitudeText
  split
  · exact Or.inl (by decide)
  · unfold Decimal.Style.write
    split
    · refine Or.inl ?_
      split
      · simp
      · split <;> simp
    · exact Or.inr (by simp)

def Number.Proper : Number → Prop
  | .int _ => True
  | .real x => x.Proper

def Proper : Json → Prop
  | .num n => n.Proper
  | _ => True

/-- The text of a number tells the number. -/
theorem number_text_injective {n n' : Number} (proper : n.Proper) (proper' : n'.Proper) (same : n.text = n'.text) : n = n' := by
  have apart : ∀ (i : ℤ) (x : Binary64), Text.ofInt i ≠ realStyle.text x := by
    intro i x equal
    rw [int_text_signed, real_text_signed] at equal
    have digits := Text.of_nat_digits i.natAbs
    rw [(signed_injective (nat_text_unsigned _) (magnitude_unsigned x) equal).2] at digits
    rcases magnitude_marked x with mem | mem
    · exact Text.digit_absent digits rfl mem
    · exact Text.digit_absent digits rfl mem
  cases n with
  | int i =>
    cases n' with
    | int j =>
      change Text.ofInt i = Text.ofInt j at same
      rw [int_text_signed, int_text_signed] at same
      obtain ⟨sign, digits⟩ := signed_injective (nat_text_unsigned _) (nat_text_unsigned _) same
      have size := Text.of_nat_injective digits
      simp only [decide_eq_decide] at sign
      exact congrArg Number.int (by omega)
    | real y => exact absurd same (apart i y)
  | real x =>
    cases n' with
    | int j => exact absurd same.symm (apart j x)
    | real y =>
      change realStyle.text x = realStyle.text y at same
      rw [real_text_signed, real_text_signed] at same
      obtain ⟨sign, digits⟩ := signed_injective (magnitude_unsigned x) (magnitude_unsigned y) same
      obtain ⟨mantissa, exponent⟩ := magnitude_injective proper proper' digits
      cases x
      cases y
      simp only at sign mantissa exponent
      rw [sign, mantissa, exponent]

/-! ### Numerals -/

def zeroLed : Text → Bool
  | '0' :: c :: _ => Text.isDigit c
  | _ => false

def unsign : Text → Text
  | '-' :: t => t
  | t => t

/-- A number as JSON has it: a sign, digits without a needless zero in front, a fraction, an exponent. -/
def isNumeral (t : Text) : Bool := (Numeral.sign.run? (unsign t)).any Numeral.complete && !zeroLed (unsign t)

theorem zero_led_first {c : Char} (other : c ≠ '0') (rest : Text) : zeroLed (c :: rest) = false := by
  unfold zeroLed
  split
  · rename_i shape
    exact absurd (List.cons.inj shape).1 other
  · rfl

theorem digits_within_first {fuel n : Nat} (positive : 0 < n) (enough : n < fuel) (acc : Text) :
    ∃ c rest, Text.digitsWithin 10 fuel n acc = c :: rest ∧ c ≠ '0' := by
  induction fuel generalizing n acc with
  | zero => omega
  | succ fuel ih =>
    have other : ∀ d < 10, 0 < d → Text.digitChar d ≠ '0' := by decide
    simp only [Text.digitsWithin, beq_iff_eq]
    split
    · exact ⟨_, _, rfl, other _ (by omega) (by omega)⟩
    · exact ih (n := n / 10) (by omega) (by omega) _

theorem nat_zero_led (n : Nat) : zeroLed (Text.ofNat n) = false := by
  rcases Nat.eq_zero_or_pos n with rfl | positive
  · rfl
  · obtain ⟨c, rest, shape, other⟩ := digits_within_first positive (Nat.lt_succ_self n) []
    rw [Text.ofNat, Text.ofNatBase, shape]
    exact zero_led_first other rest

theorem write_zero_led {c : Char} (other : c ≠ '0') (rest : Text) (point : ℤ) :
    zeroLed (realStyle.write (c :: rest) point) = false := by
  unfold Decimal.Style.write
  split
  · split
    · rfl
    · split
      · exact zero_led_first other _
      · rename_i above _
        obtain ⟨k, some⟩ : ∃ k, point.natAbs = k + 1 := Nat.exists_eq_add_one.mpr (by omega)
        rw [some]
        exact zero_led_first other _
  · exact zero_led_first other _

theorem magnitude_zero_led (x : Binary64) : zeroLed (magnitudeText x) = false := by
  unfold magnitudeText
  split
  · rfl
  · rename_i nonzero
    have positive : 0 < x.mantissa := Nat.pos_of_ne_zero (by simpa [Binary64.isZero] using nonzero)
    obtain ⟨c, rest, shape, other⟩ :=
      digits_within_first (Decimal.shortest_positive positive) (Nat.lt_succ_self (shortest x).digits) []
    rw [Text.ofNat, Text.ofNatBase, shape]
    exact write_zero_led other rest _

theorem signed_numeral {t : Text} (unsigned : IsUnsigned t) (led : zeroLed t = false) (negative : Bool) :
    isNumeral (signed negative t) = true := by
  have same : unsign (signed negative t) = t := by
    obtain ⟨c, rest, rfl, digit⟩ := unsigned_first unsigned
    have other : c ≠ '-' := by
      rintro rfl
      cases digit
    cases negative
    · simp [signed, unsign, other]
    · rfl
  obtain ⟨s, reads, complete⟩ := unsigned
  simp [isNumeral, same, reads, complete, led]

/-- Every number is written as JSON has it. -/
theorem number_text_numeral (n : Number) : isNumeral n.text = true := by
  cases n with
  | int i =>
    change isNumeral (Text.ofInt i) = true
    rw [int_text_signed]
    exact signed_numeral (nat_text_unsigned _) (nat_zero_led _) _
  | real x =>
    change isNumeral (realStyle.text x) = true
    rw [real_text_signed]
    exact signed_numeral (magnitude_unsigned x) (magnitude_zero_led x) _

end Json

end ApiTypes
