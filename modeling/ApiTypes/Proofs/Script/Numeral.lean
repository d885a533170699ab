import ApiTypes.Json.Writer
import ApiTypes.Proofs.Script.Scan
/-!
The text of every JSON number is one numeral.
-/
namespace ApiTypes

/-! ### Digits -/

theorem Text.digit_char_is_digit : ∀ d < 10, Text.isDigit (Text.digitChar d) = true := by decide

theorem Text.digit_listed {c : Char} (digit : Text.isDigit c = true) :
    c ∈ ['0', '1', '2', '3', '4', '5', '6', '7', '8', '9'] := by
  have listed : ∀ n < 58, 48 ≤ n → Char.ofNat n ∈ ['0', '1', '2', '3', '4', '5', '6', '7', '8', '9'] := by decide
  simp only [Text.isDigit, Bool.and_eq_true, decide_eq_true_eq] at digit
  have low : 48 ≤ c.toNat := digit.1
  have high : c.toNat ≤ 57 := digit.2
  rw [← Char.ofNat_toNat c]
  exact listed c.toNat (by omega) low

theorem Text.digits_within_digits {fuel n : Nat} {acc : Text} (digits : acc.all Text.isDigit = true) :
    (Text.digitsWithin 10 fuel n acc).all Text.isDigit = true := by
  induction fuel generalizing n acc with
  | zero => exact digits
  | succ fuel ih =>
    have first := Text.digit_char_is_digit (n % 10) (Nat.mod_lt n (by decide))
    have more : (Text.digitChar (n % 10) :: acc).all Text.isDigit = true := by simp [first, digits]
    simp only [Text.digitsWithin]
    split
    · exact more
    · exact ih more

theorem Text.digits_within_nonempty {fuel n : Nat} {acc : Text} (nonempty : acc ≠ []) :
    Text.digitsWithin 10 fuel n acc ≠ [] := by
  induction fuel generalizing n acc with
  | zero => exact nonempty
  | succ fuel ih =>
    simp only [Text.digitsWithin]
    split
    · simp
    · exact ih (by simp)

theorem Text.of_nat_digits (n : Nat) : (Text.ofNat n).all Text.isDigit = true :=
  Text.digits_within_digits rfl

theorem Text.of_nat_nonempty (n : Nat) : Text.ofNat n ≠ [] := by
  simp only [Text.ofNat, Text.ofNatBase, Text.digitsWithin]
  split
  · simp
  · exact Text.digits_within_nonempty (by simp)

theorem Text.digits_of_subset {t u : Text} (digits : t.all Text.isDigit = true) (part : u ⊆ t) :
    u.all Text.isDigit = true :=
  List.all_eq_true.mpr fun c mem => List.all_eq_true.mp digits c (part mem)

namespace Script

/-! ### Runs of a numeral -/

def Numeral.run? : Numeral → Text → Option Numeral
  | s, [] => some s
  | s, c :: rest => (s.next? c).bind (·.run? rest)

namespace Numeral

theorem run_append {s s' : Numeral} {t u : Text} (run : s.run? t = some s') : s.run? (t ++ u) = s'.run? u := by
  induction t generalizing s with
  | nil =>
    simp only [run?, Option.some.injEq] at run
    rw [run, List.nil_append]
  | cons c t ih =>
    simp only [run?, Option.bind_eq_some_iff] at run
    obtain ⟨next, step, later⟩ := run
    simp only [List.cons_append, run?, step, Option.bind_some]
    exact ih later

theorem digits_run {s : Numeral} {t : Text} (among : s.complete = true) (digits : t.all Text.isDigit = true) :
    s.run? t = some s := by
  induction t with
  | nil => rfl
  | cons c t ih =>
    simp only [List.all_cons, Bool.and_eq_true] at digits
    have step : s.next? c = some s := by
      cases s <;> simp_all [next?, complete]
    simp only [run?, step, Option.bind_some]
    exact ih digits.2

theorem digits_enter {s s' : Numeral} {t : Text} (enter : ∀ c, Text.isDigit c = true → s.next? c = some s')
    (among : s'.complete = true) (nonempty : t ≠ []) (digits : t.all Text.isDigit = true) : s.run? t = some s' := by
  cases t with
  | nil => exact absurd rfl nonempty
  | cons c t =>
    simp only [List.all_cons, Bool.and_eq_true] at digits
    simp only [run?, enter c digits.1, Option.bind_some]
    exact digits_run among digits.2

theorem stop_ends {s : Numeral} {c : Char} (complete : s.complete = true) (stop : isStop c = true) :
    s.next? c = none := by
  simp only [isStop, isWordPart, Bool.and_eq_true, Bool.not_eq_true', Bool.or_eq_false_iff, bne_iff_ne] at stop
  obtain ⟨⟨notStart, notDigit⟩, notPoint⟩ := stop
  have notE : c ≠ 'e' := fun same => absurd notStart (by rw [same]; decide)
  have notBigE : c ≠ 'E' := fun same => absurd notStart (by rw [same]; decide)
  cases s <;> simp_all [next?, Numeral.complete]

end Numeral

def IsNumeral : Text → Prop
  | [] => False
  | c :: t => ∃ s s' : Numeral, Numeral.start? c = some s ∧ s.run? t = some s' ∧ s'.complete = true

theorem number_run {s s' : Numeral} {run t rest : Text} (reads : s.run? t = some s') (complete : s'.complete = true)
    (stops : Stops rest) :
    tokensFrom (.number s run) (t ++ rest) = (tokensFrom .between rest).map ([.number (run.reverse ++ t)] ++ ·) := by
  induction t generalizing s run with
  | nil =>
    simp only [Numeral.run?, Option.some.injEq] at reads
    subst s'
    cases rest with
    | nil => simp [tokensFrom, finish?, complete]
    | cons c rest =>
      have ends := Numeral.stop_ends complete (stops c rfl)
      rw [List.append_nil, List.nil_append]
      exact step_flush (by simp [step?, ends, complete]) rest
  | cons c t ih =>
    simp only [Numeral.run?, Option.bind_eq_some_iff] at reads
    obtain ⟨next, step, later⟩ := reads
    rw [List.cons_append, step_silently (.number next (c :: run)) (by simp [step?, step]), ih later]
    simp

theorem numeral_start_plain {c : Char} {s : Numeral} (start : Numeral.start? c = some s) :
    Json.isBlank c = false ∧ isMark c = false ∧ isWordStart c = false ∧ c ≠ '"' ∧ c ≠ '/' := by
  unfold Numeral.start? at start
  split at start
  · rename_i minus
    rw [beq_iff_eq.mp minus]
    decide
  · split at start
    · rename_i digit
      have listed := Text.digit_listed digit
      simp only [List.mem_cons, List.not_mem_nil, or_false] at listed
      rcases listed with h | h | h | h | h | h | h | h | h | h <;> subst h <;> decide
    · simp at start

theorem numeral_scans {t : Text} (numeral : IsNumeral t) : Scans t [.number t] := by
  intro rest stops
  cases t with
  | nil => exact absurd numeral id
  | cons c t =>
    obtain ⟨s, s', start, reads, complete⟩ := numeral
    obtain ⟨notBlank, notMark, notWord, notQuote, notSlash⟩ := numeral_start_plain start
    have begun : step? .between c = some (.number s [c], []) := by
      simp [step?, begin?, notBlank, notMark, notWord, notQuote, notSlash, start]
    rw [List.cons_append, step_silently _ begun, number_run reads complete stops]
    rfl

/-! ### Numbers -/

def IsUnsigned (t : Text) : Prop := ∃ s : Numeral, Numeral.sign.run? t = some s ∧ s.complete = true

theorem unsigned_is_numeral {t : Text} (unsigned : IsUnsigned t) : IsNumeral t ∧ IsNumeral ('-' :: t) := by
  obtain ⟨s, reads, complete⟩ := unsigned
  refine ⟨?_, .sign, s, rfl, reads, complete⟩
  cases t with
  | nil =>
    simp only [Numeral.run?, Option.some.injEq] at reads
    subst s
    simp [Numeral.complete] at complete
  | cons c t =>
    simp only [Numeral.run?, Option.bind_eq_some_iff] at reads
    obtain ⟨next, step, later⟩ := reads
    simp only [Numeral.next?] at step
    split at step
    · rename_i digit
      have notMinus : c ≠ '-' := fun same => absurd digit (by rw [same]; decide)
      exact ⟨next, s, by simpa [Numeral.start?, notMinus, digit] using step, later, complete⟩
    · simp at step

theorem sign_enters : ∀ c, Text.isDigit c = true → Numeral.sign.next? c = some .whole := by
  intro c digit
  simp [Numeral.next?, digit]

theorem point_enters : ∀ c, Text.isDigit c = true → Numeral.point.next? c = some .fraction := by
  intro c digit
  simp [Numeral.next?, digit]

theorem digits_unsigned {t : Text} (nonempty : t ≠ []) (digits : t.all Text.isDigit = true) : IsUnsigned t :=
  ⟨.whole, Numeral.digits_enter sign_enters rfl nonempty digits, rfl⟩

theorem int_is_numeral (i : Int) : IsNumeral (Text.ofInt i) := by
  have unsigned := digits_unsigned (Text.of_nat_nonempty i.natAbs) (Text.of_nat_digits i.natAbs)
  unfold Text.ofInt
  split
  · exact (unsigned_is_numeral unsigned).2
  · exact (unsigned_is_numeral unsigned).1

theorem fraction_run (before after : Text) (some₁ : before ≠ []) (digits₁ : before.all Text.isDigit = true)
    (some₂ : after ≠ []) (digits₂ : after.all Text.isDigit = true) :
    Numeral.sign.run? (before ++ '.' :: after) = some .fraction := by
  rw [Numeral.run_append (Numeral.digits_enter sign_enters rfl some₁ digits₁)]
  change Numeral.point.run? after = _
  exact Numeral.digits_enter point_enters rfl some₂ digits₂

theorem power_run {s : Numeral} (among : s = .whole ∨ s = .fraction) (power : Int) :
    s.run? ('e' :: ((if power < 0 then [] else ['+']) ++ Text.ofInt power)) = some .power := by
  have nonempty := Text.of_nat_nonempty power.natAbs
  have digits := Text.of_nat_digits power.natAbs
  have begun : ∀ t, s.run? ('e' :: t) = Numeral.exponent.run? t := by
    intro t
    rcases among with h | h <;> subst h <;> rfl
  have enters : ∀ c, Text.isDigit c = true → Numeral.exponentSign.next? c = some .power := by
    intro c digit
    simp [Numeral.next?, digit]
  have signed := Numeral.digits_enter enters rfl nonempty digits
  rw [begun]
  unfold Text.ofInt
  split
  · exact signed
  · exact signed

theorem all_digits_replicate (n : Nat) : (List.replicate n '0').all Text.isDigit = true := by
  simp only [List.all_eq_true, List.mem_replicate]
  rintro c ⟨-, rfl⟩
  rfl

theorem write_unsigned {ds : Text} (nonempty : ds ≠ []) (digits : ds.all Text.isDigit = true) (point : Int) :
    IsUnsigned (Json.realStyle.write ds point) := by
  have taken := fun n => Text.digits_of_subset digits (List.take_subset n ds)
  have dropped := fun n => Text.digits_of_subset digits (List.drop_subset n ds)
  have positive : 0 < ds.length := List.length_pos_iff.mpr nonempty
  unfold Decimal.Style.write
  split
  · split
    -- zeros between the point and the digits
    · refine ⟨.fraction, ?_, rfl⟩
      have after : (List.replicate point.natAbs '0' ++ ds).all Text.isDigit = true := by
        rw [List.all_append, all_digits_replicate, digits]
        rfl
      exact fraction_run ['0'] _ (by simp) rfl (by simp [nonempty]) after
    · split
      -- zeros between the digits and the point
      · refine ⟨.fraction, ?_, rfl⟩
        have before : (ds ++ List.replicate (point.natAbs - ds.length) '0').all Text.isDigit = true := by
          rw [List.all_append, all_digits_replicate, digits]
          rfl
        exact fraction_run _ ['0'] (by simp [nonempty]) before (by simp) rfl
      -- the point among the digits
      · rename_i positional above inside
        refine ⟨.fraction, ?_, rfl⟩
        have some₁ : ds.take point.natAbs ≠ [] := by
          rw [← List.length_pos_iff, List.length_take]
          omega
        have some₂ : ds.drop point.natAbs ≠ [] := by
          rw [← List.length_pos_iff, List.length_drop]
          omega
        rw [List.append_assoc]
        exact fraction_run _ _ some₁ (taken _) some₂ (dropped _)
  -- one digit before the point, if there is one at all, and a power of ten
  · refine ⟨.power, ?_, rfl⟩
    have first : ds.take 1 ≠ [] := by
      rw [← List.length_pos_iff, List.length_take]
      omega
    simp only [List.append_assoc]
    split
    · rw [List.nil_append, Numeral.run_append (Numeral.digits_enter sign_enters rfl first (taken 1))]
      exact power_run (Or.inl rfl) _
    · have later : ds.drop 1 ≠ [] := by
        rw [← List.length_pos_iff, List.length_drop]
        omega
      rw [← List.append_assoc, Numeral.run_append (fraction_run _ _ first (taken 1) later (dropped 1))]
      exact power_run (Or.inr rfl) _

/-- Every number is written as one numeral. -/
theorem number_is_numeral (n : Json.Number) : IsNumeral n.text := by
  cases n with
  | int i => exact int_is_numeral i
  | real x =>
    have magnitude : ∃ t, IsUnsigned t ∧ Json.realStyle.text x = (if x.negative then ['-'] else []) ++ t := by
      by_cases zero : x.isZero = true
      · have fraction := fraction_run ['0'] ['0'] (by simp) rfl (by simp) rfl
        exact ⟨"0.0".toList, ⟨.fraction, fraction, rfl⟩, by simp [Decimal.Style.text, zero]⟩
      · have written := write_unsigned (Text.of_nat_nonempty (Decimal.shortest x).digits) (Text.of_nat_digits _)
        exact ⟨_, written _, by simp [Decimal.Style.text, zero]; rfl⟩
    obtain ⟨t, unsigned, shape⟩ := magnitude
    change IsNumeral (Json.realStyle.text x)
    rw [shape]
    split
    · exact (unsigned_is_numeral unsigned).2
    · exact (unsigned_is_numeral unsigned).1

end Script

end ApiTypes
