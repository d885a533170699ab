import ApiTypes.Proofs.Camel
/-!
What the tables of letters say of one another. No character has both cases, the upper case of a letter or digit begins
with a letter or digit, and a change of case that begins with the character itself leaves it alone.
-/
namespace ApiTypes.Text

/-! ### Sets of code points -/

/-- The code points in some ranges, as the bits of a number. -/
def codeSet : List (Nat × Nat) → Nat
  | [] => 0
  | r :: rest => ((1 <<< (r.2 + 1 - r.1)) - 1) <<< r.1 ||| codeSet rest

theorem code_set_bit (ranges : List (Nat × Nat)) (n : Nat) :
    (codeSet ranges).testBit n = ranges.any fun r => r.1 ≤ n && n ≤ r.2 := by
  induction ranges with
  | nil => simp [codeSet]
  | cons r rest ih =>
    have first : (((1 <<< (r.2 + 1 - r.1)) - 1) <<< r.1).testBit n = (decide (r.1 ≤ n) && decide (n ≤ r.2)) := by
      rw [Nat.testBit_shiftLeft, Nat.one_shiftLeft, Nat.testBit_two_pow_sub_one, Bool.eq_iff_iff]
      simp only [Bool.and_eq_true, decide_eq_true_eq]
      omega
    rw [codeSet, Nat.testBit_or, first, ih, List.any_cons]

def multiples (step : Nat) : (count : Nat) → Nat
  | 0 => 0
  | count + 1 => multiples step count <<< step ||| 1

theorem multiples_bit (step : Nat) {count i : Nat} (below : i < count) : (multiples step count).testBit (i * step) = true := by
  induction count generalizing i with
  | zero => omega
  | succ count ih =>
    rw [multiples, Nat.testBit_or, Nat.testBit_shiftLeft]
    cases i with
    | zero => simp
    | succ i =>
      have back : (i + 1) * step - step = i * step := by rw [Nat.succ_mul, Nat.add_sub_cancel]
      have inside : step ≤ (i + 1) * step := Nat.le_mul_of_pos_left step (Nat.succ_pos i)
      simp [back, inside, ih (Nat.lt_of_succ_lt_succ below)]

/-! ### Rows -/

def runSet (first last step start : Nat) : Nat := multiples step ((last - first) / step + 1) <<< start

theorem run_set_bit {first last step n k : Nat} (offset : offset? first last step n = some k) (start : Nat) :
    (runSet first last step start).testBit (start + k) = true := by
  simp only [offset?, Option.ite_none_right_eq_some, Bool.and_eq_true, decide_eq_true_eq, beq_iff_eq,
    Option.some.injEq] at offset
  obtain ⟨⟨⟨lower, upper⟩, multiple⟩, rfl⟩ := offset
  have inside : (n - first) / step < (last - first) / step + 1 :=
    Nat.lt_succ_of_le (Nat.div_le_div_right (Nat.sub_le_sub_right upper first))
  have bit := multiples_bit step inside
  rw [Nat.div_mul_cancel (Nat.dvd_of_mod_eq_zero multiple)] at bit
  simp [runSet, Nat.testBit_shiftLeft, bit]

def unionOf (setOf : List Nat → Nat) : List (List Nat) → Nat
  | [] => 0
  | row :: rest => setOf row ||| unionOf setOf rest

theorem union_bit {setOf : List Nat → Nat} {rows : List (List Nat)} {row : List Nat} {n : Nat} (mem : row ∈ rows)
    (bit : (setOf row).testBit n = true) : (unionOf setOf rows).testBit n = true := by
  induction rows with
  | nil => simp at mem
  | cons first rest ih =>
    rw [unionOf, Nat.testBit_or, Bool.or_eq_true]
    rcases List.mem_cons.mp mem with rfl | later
    · exact Or.inl bit
    · exact Or.inr (ih later)

def runCodes : List Nat → Nat
  | [first, last, step] => runSet first last step first
  | _ => 0

theorem in_runs_bit {runs : List (List Nat)} {c : Char} (inside : inRuns runs c = true) :
    (unionOf runCodes runs).testBit c.toNat = true := by
  obtain ⟨row, mem, found⟩ := List.any_eq_true.mp inside
  refine union_bit mem ?_
  split at found
  · rename_i first last step
    obtain ⟨k, offset⟩ := Option.isSome_iff_exists.mp found
    have there : first + k = c.toNat := by
      simp only [offset?, Option.ite_none_right_eq_some, Bool.and_eq_true, decide_eq_true_eq, Option.some.injEq] at offset
      omega
    exact there ▸ run_set_bit offset first
  · simp at found

def targetCodes : List Nat → Nat
  | [first, last, step, target] => runSet first last step target
  | _ => 0

theorem shifted_bit {shifts : List (List Nat)} {c d : Char} (shifted : shifted? shifts c = some d) :
    ∃ n, (unionOf targetCodes shifts).testBit n = true ∧ Char.ofNat n = d := by
  obtain ⟨row, mem, found⟩ := List.exists_of_findSome?_eq_some shifted
  split at found
  · rename_i first last step target
    obtain ⟨k, offset, rfl⟩ := Option.map_eq_some_iff.mp found
    exact ⟨target + k, union_bit mem (run_set_bit offset target), rfl⟩
  · simp at found

theorem expanded_row {expansions : List (List Nat)} {c : Char} {t : Text} (expanded : expanded? expansions c = some t) :
    ∃ rest, c.toNat :: rest ∈ expansions ∧ t = rest.map Char.ofNat := by
  obtain ⟨row, found, rfl⟩ := Option.map_eq_some_iff.mp expanded
  have mem := List.mem_of_find?_eq_some found
  have starts : row.head? = some c.toNat := by simpa using List.find?_some found
  obtain ⟨rest, rfl⟩ := List.head?_eq_some_iff.mp starts
  exact ⟨rest, mem, rfl⟩

/-! ### What the tables say -/

def haveNoCommon (runs others : List (List Nat)) : Bool := unionOf runCodes runs &&& unionOf runCodes others == 0

def movesAway : List Nat → Bool
  | n :: m :: _ => m != n
  | _ => false

def rangeOf? : List Nat → Option (Nat × Nat)
  | [a] => some (a, a)
  | [a, b] => some (a, b)
  | _ => none

theorem ranges_of_list (t : Text) : ranges (String.ofList t) = (rowsFrom [] none t).filterMap rangeOf? := by
  rw [← rows_of_list, ranges]
  congr 1

def asciiLetters : List (Nat × Nat) := [(0x30, 0x39), (0x41, 0x5A), (0x61, 0x7A)]

def letterSet (ranges : List (Nat × Nat)) : Nat :=
  codeSet asciiLetters ||| (codeSet [(0x80, 0xD7FF), (0xE000, 0x10FFFF)] &&& codeSet ranges)

def upperSet (shifts expansions : List (List Nat)) : Nat :=
  unionOf targetCodes shifts ||| unionOf (fun row => codeSet ((row.drop 1).take 1 |>.map fun n => (n, n))) expansions

def isWithin (codes others : Nat) : Bool := codes ||| others == others

theorem within_bit {codes others n : Nat} (within : isWithin codes others = true) (bit : codes.testBit n = true) :
    others.testBit n = true := by
  rw [← beq_iff_eq.mp within, Nat.testBit_or, bit, Bool.true_or]

set_option maxRecDepth 100000 in
/-- All facts about tables at once, so that each table is read once. -/
theorem tables_agree : (haveNoCommon uppercaseRuns lowercaseRuns && lowerExpansions.all movesAway &&
    (upperExpansions.all movesAway &&
      isWithin (upperSet upperShifts upperExpansions) (letterSet alphanumericRanges))) = true := by
  rw [uppercaseRuns, lowercaseRuns, lowerExpansions, upperExpansions, upperShifts, alphanumericRanges, ranges_of_list,
    rows_of_list, rows_of_list, rows_of_list, rows_of_list, rows_of_list]
  decide +kernel

theorem uppercase_lowercase_apart : haveNoCommon uppercaseRuns lowercaseRuns = true :=
  (Bool.and_eq_true_iff.mp (Bool.and_eq_true_iff.mp tables_agree).1).1

theorem lower_expansions_move : lowerExpansions.all movesAway = true :=
  (Bool.and_eq_true_iff.mp (Bool.and_eq_true_iff.mp tables_agree).1).2

theorem upper_expansions_move : upperExpansions.all movesAway = true :=
  (Bool.and_eq_true_iff.mp (Bool.and_eq_true_iff.mp tables_agree).2).1

theorem upper_set_letters : isWithin (upperSet upperShifts upperExpansions) (letterSet alphanumericRanges) = true :=
  (Bool.and_eq_true_iff.mp (Bool.and_eq_true_iff.mp tables_agree).2).2

/-! ### The two cases -/

theorem ascii_all {p : Char → Bool} (all : ∀ n < 0x80, p (Char.ofNat n) = true) {c : Char} (ascii : isAscii c = true) :
    p c = true := by
  have below : c.toNat < 0x80 := by simpa [isAscii] using ascii
  simpa using all c.toNat below

set_option maxRecDepth 1000 in
theorem uppercase_not_lowercase {c : Char} (upper : isUppercase c = true) : isLowercase c = false := by
  cases ascii : isAscii c with
  | true =>
    have apart := ascii_all (p := fun c => !c.isUpper || !c.isLower) (by decide) ascii
    simp only [isUppercase, isLowercase, ascii, if_true] at upper ⊢
    simpa [upper] using apart
  | false =>
    simp only [isUppercase, isLowercase, ascii, Bool.false_eq_true, if_false] at upper ⊢
    refine Bool.eq_false_iff.mpr fun lower => ?_
    have bit := congrArg (Nat.testBit · c.toNat) (beq_iff_eq.mp uppercase_lowercase_apart)
    simp [in_runs_bit upper, in_runs_bit lower] at bit

/-! ### The start of a change of case -/

theorem substitute_own {expansions shifts : List (List Nat)} {c : Char} {t u : Text}
    (moves : expansions.all movesAway = true) (high : isAscii c = false)
    (same : substitute expansions shifts c ++ t = c :: u) : substitute expansions shifts c = [c] ∧ t = u := by
  unfold substitute at same ⊢
  cases expanded : expanded? expansions c with
  | none =>
    simp only [expanded, Option.getD_none, List.cons_append, List.nil_append, List.cons.injEq] at same ⊢
    simpa using same
  | some s =>
    -- An expansion starts with another character, so that it cannot be the start of `c :: u`.
    obtain ⟨rest, mem, rfl⟩ := expanded_row expanded
    have away := List.all_eq_true.mp moves _ mem
    cases rest with
    | nil => simp [movesAway] at away
    | cons m rest =>
      simp only [expanded, Option.getD_some, List.map_cons, List.cons_append, List.cons.injEq] at same
      have own : (Char.ofNat m).toNat = c.toNat := by rw [same.1]
      simp only [movesAway, bne_iff_ne] at away
      simp only [isAscii, decide_eq_false_iff_not] at high
      rcases of_nat_code m with code | null <;> omega

theorem uppercase_own {c : Char} {t u : Text} (same : toUppercase c ++ t = c :: u) : toUppercase c = [c] ∧ t = u := by
  unfold toUppercase at same ⊢
  split
  · simp_all
  · rename_i high
    simp only [high, Bool.false_eq_true, if_false] at same
    exact substitute_own upper_expansions_move (by simpa using high) same

theorem lowercase_own {c : Char} {t u : Text} (same : toLowercase c ++ t = c :: u) : toLowercase c = [c] ∧ t = u := by
  unfold toLowercase at same ⊢
  split
  · simp_all
  · rename_i high
    simp only [high, Bool.false_eq_true, if_false] at same
    exact substitute_own lower_expansions_move (by simpa using high) same

/-! ### Letters and digits -/

set_option maxRecDepth 1000 in
theorem letter_of_bit {n : Nat} (bit : (letterSet alphanumericRanges).testBit n = true) :
    isAlphanumeric (Char.ofNat n) = true := by
  rw [letterSet, Nat.testBit_or, Nat.testBit_and, Bool.or_eq_true, Bool.and_eq_true] at bit
  rcases bit with ascii | ⟨valid, listed⟩
  · have low : ∀ n < 0x80, (codeSet asciiLetters).testBit n = true → isAlphanumeric (Char.ofNat n) = true := by decide
    refine low n ?_ ascii
    simp [code_set_bit, asciiLetters] at ascii
    omega
  · simp [code_set_bit] at valid
    have code : (Char.ofNat n).toNat = n := of_valid_code (by unfold Nat.isValidChar; omega)
    have high : isAscii (Char.ofNat n) = false := by
      simp only [isAscii, code, decide_eq_false_iff_not]
      omega
    rw [code_set_bit] at listed
    simpa [isAlphanumeric, high, inRanges, code] using listed

set_option maxRecDepth 1000 in
theorem uppercase_letter {c : Char} (letter : isAlphanumeric c = true) :
    ∃ d t, toUppercase c = d :: t ∧ isAlphanumeric d = true := by
  cases ascii : isAscii c with
  | true =>
    have upper := ascii_all (p := fun c => !c.isAlphanum || isAlphanumeric c.toUpper) (by decide) ascii
    have plain : c.isAlphanum = true := by simpa [isAlphanumeric, ascii] using letter
    exact ⟨c.toUpper, [], by simp [toUppercase, ascii], by simpa [plain] using upper⟩
  | false =>
    simp only [toUppercase, ascii, Bool.false_eq_true, if_false, substitute]
    cases expanded : expanded? upperExpansions c with
    | none =>
      refine ⟨_, [], rfl, ?_⟩
      cases shifted : shifted? upperShifts c with
      | none => exact letter
      | some d =>
        obtain ⟨n, bit, rfl⟩ := shifted_bit shifted
        exact letter_of_bit (within_bit upper_set_letters (by rw [upperSet, Nat.testBit_or, bit, Bool.true_or]))
    | some s =>
      obtain ⟨rest, mem, rfl⟩ := expanded_row expanded
      cases rest with
      | nil => simpa [movesAway] using List.all_eq_true.mp upper_expansions_move _ mem
      | cons n rest =>
        refine ⟨Char.ofNat n, rest.map Char.ofNat, rfl, letter_of_bit (within_bit upper_set_letters ?_)⟩
        rw [upperSet, Nat.testBit_or, Bool.or_eq_true]
        exact Or.inr (union_bit mem (by simp [code_set_bit]))

end ApiTypes.Text
