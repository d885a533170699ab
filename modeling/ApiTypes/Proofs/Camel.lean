import ApiTypes.Naming
import ApiTypes.Proofs.Layout.Pieces
/-!
Camel case has no brackets, quotes, spaces or line feeds: the words of a text are made of letters and digits, and the
change of case, in every script, leads to nothing else.
-/
namespace ApiTypes.Text

open Layout (isPlain Plain)

def isSolid (c : Char) : Bool := isPlain c && c != ' '

def Solid (t : Text) : Prop := t.all isSolid = true

instance (t : Text) : Decidable (Solid t) := inferInstanceAs (Decidable (_ = true))

theorem Solid.append {t u : Text} (first : Solid t) (second : Solid u) : Solid (t ++ u) := by
  simp only [Solid, List.all_append, Bool.and_eq_true]
  exact ⟨first, second⟩

theorem Solid.plain {t : Text} (solid : Solid t) : Plain t := by
  apply List.all_eq_true.mpr
  intro c mem
  have part := List.all_eq_true.mp solid c mem
  simp only [isSolid, Bool.and_eq_true] at part
  exact part.1

theorem Solid.no_space {t : Text} (solid : Solid t) : ' ' ∉ t := by
  intro mem
  exact absurd (List.all_eq_true.mp solid ' ' mem) (by decide)

/-! ### Code points -/

def markCodes : List Nat := (' ' :: '\n' :: Layout.structural).map Char.toNat

theorem solid_iff (c : Char) : isSolid c = true ↔ c.toNat ∉ markCodes := by
  have listed : isSolid c = true ↔ c ∉ ' ' :: '\n' :: Layout.structural := by
    simp only [isSolid, isPlain, Layout.isOpening, Layout.isClosing, Layout.isQuote, Layout.structural, List.mem_cons,
      List.not_mem_nil, or_false, not_or, Bool.and_eq_true, Bool.not_eq_true', Bool.or_eq_false_iff,
      beq_eq_false_iff_ne, bne_iff_ne]
    grind
  rw [listed, markCodes, List.mem_map]
  constructor
  · rintro out ⟨d, mem, same⟩
    exact out (Char.toNat_inj.mp same ▸ mem)
  · intro out mem
    exact out ⟨c, mem, rfl⟩

theorem high_solid {c : Char} (high : 0x80 ≤ c.toNat) : isSolid c = true := by
  rw [solid_iff]
  intro mem
  have low : ∀ n ∈ markCodes, n < 0x80 := by decide
  have := low _ mem
  omega

theorem of_nat_solid {n : Nat} (out : n ∉ markCodes) : isSolid (Char.ofNat n) = true := by
  rw [solid_iff]
  rcases of_nat_code n with code | null
  · rwa [code]
  · rw [null]
    decide

/-! ### Tables -/

theorem rows_of_list (t : Text) : rows (String.ofList t) = rowsFrom [] none t := by
  simp [rows]

def shiftsSolid : List Nat → Bool
  | [first, last, _, target] => 0x80 ≤ target || (first == last && !markCodes.contains target)
  | _ => true

def expandsSolid (row : List Nat) : Bool := (row.drop 1).all fun n => !markCodes.contains n

set_option maxRecDepth 100000 in
theorem tables_solid : (upperShifts.all shiftsSolid && lowerShifts.all shiftsSolid &&
    (upperExpansions.all expandsSolid && lowerExpansions.all expandsSolid)) = true := by
  rw [upperShifts, lowerShifts, upperExpansions, lowerExpansions, rows_of_list, rows_of_list, rows_of_list, rows_of_list]
  decide +kernel

theorem shifted_solid {shifts : List (List Nat)} {c d : Char} (solid : shifts.all shiftsSolid = true)
    (shifted : shifted? shifts c = some d) : isSolid d = true := by
  obtain ⟨row, mem, found⟩ := List.exists_of_findSome?_eq_some shifted
  have ofRow := List.all_eq_true.mp solid row mem
  split at found
  · rename_i first last step target
    obtain ⟨n, offset, rfl⟩ := Option.map_eq_some_iff.mp found
    simp only [shiftsSolid, Bool.or_eq_true, decide_eq_true_eq, Bool.and_eq_true, beq_iff_eq, Bool.not_eq_true',
      List.contains_eq_mem, decide_eq_false_iff_not] at ofRow
    apply of_nat_solid
    rcases ofRow with high | ⟨single, out⟩
    · intro mark
      have low : ∀ n ∈ markCodes, n < 0x80 := by decide
      have := low _ mark
      omega
    · have zero : n = 0 := by
        simp only [offset?, Option.ite_none_right_eq_some, Bool.and_eq_true, decide_eq_true_eq, Option.some.injEq] at offset
        omega
      rwa [zero, Nat.add_zero]
  · simp at found

theorem expanded_solid {expansions : List (List Nat)} {c : Char} {t : Text} (solid : expansions.all expandsSolid = true)
    (expanded : expanded? expansions c = some t) : Solid t := by
  obtain ⟨row, found, rfl⟩ := Option.map_eq_some_iff.mp expanded
  have ofRow := List.all_eq_true.mp solid row (List.mem_of_find?_eq_some found)
  simp only [expandsSolid, List.all_eq_true, Bool.not_eq_true', List.contains_eq_mem, decide_eq_false_iff_not] at ofRow
  simp only [Solid, List.all_map, List.all_eq_true]
  exact fun n mem => of_nat_solid (ofRow n mem)

theorem substitute_solid {expansions shifts : List (List Nat)} {c : Char} (expands : expansions.all expandsSolid = true)
    (shifts_ : shifts.all shiftsSolid = true) (high : 0x80 ≤ c.toNat) : Solid (substitute expansions shifts c) := by
  unfold substitute
  cases expanded : expanded? expansions c with
  | some t => exact expanded_solid expands expanded
  | none =>
    simp only [Option.getD_none, Solid, List.all_cons, List.all_nil, Bool.and_true]
    cases shifted : shifted? shifts c with
    | some d => exact shifted_solid shifts_ shifted
    | none => exact high_solid high

/-! ### Case -/

theorem ascii_case_solid : ∀ n < 0x80, (Char.ofNat n).isAlphanum = true →
    isSolid (Char.ofNat n).toUpper = true ∧ isSolid (Char.ofNat n).toLower = true := by
  decide +kernel

theorem letter_case_solid {c : Char} (letter : isAlphanumeric c = true) :
    Solid (toUppercase c) ∧ Solid (toLowercase c) := by
  cases ascii : isAscii c with
  | true =>
    simp only [isAlphanumeric, ascii, if_true] at letter
    have below : c.toNat < 0x80 := by simpa [isAscii] using ascii
    rw [← Char.ofNat_toNat c] at letter
    have cased := ascii_case_solid c.toNat below letter
    rw [Char.ofNat_toNat] at cased
    simpa [toUppercase, toLowercase, ascii, Solid] using cased
  | false =>
    have high : 0x80 ≤ c.toNat := by simpa [isAscii] using ascii
    have tables := tables_solid
    rw [Bool.and_eq_true, Bool.and_eq_true, Bool.and_eq_true] at tables
    obtain ⟨⟨upperShift, lowerShift⟩, upperExpand, lowerExpand⟩ := tables
    simp only [toUppercase, toLowercase, ascii, Bool.false_eq_true, if_false]
    exact ⟨substitute_solid upperExpand upperShift high, substitute_solid lowerExpand lowerShift high⟩

theorem lower_tail_solid {t : Text} (letters : t.all isAlphanumeric = true) : Solid (lowerTail t) := by
  induction t with
  | nil => rfl
  | cons c t ih =>
    simp only [List.all_cons, Bool.and_eq_true] at letters
    rw [lowerTail]
    refine Solid.append ?_ (ih letters.2)
    split
    · decide
    · exact (letter_case_solid letters.1).2

theorem capitalize_solid {t : Text} (letters : t.all isAlphanumeric = true) : Solid (capitalize t) := by
  cases t with
  | nil => rfl
  | cons c t =>
    simp only [List.all_cons, Bool.and_eq_true] at letters
    exact (letter_case_solid letters.1).1.append (lower_tail_solid letters.2)

/-! ### Words -/

theorem stretches_letters {stretch t w : Text} (letters : stretch.all isAlphanumeric = true)
    (mem : w ∈ stretchesFrom stretch t) : w.all isAlphanumeric = true := by
  induction t generalizing stretch with
  | nil =>
    simp only [stretchesFrom, List.mem_singleton] at mem
    rwa [mem, List.all_reverse]
  | cons c t ih =>
    simp only [stretchesFrom] at mem
    split at mem
    · rename_i letter
      exact ih (by simp [letter, letters]) mem
    · rcases List.mem_cons.mp mem with first | later
      · rwa [first, List.all_reverse]
      · exact ih rfl later

theorem words_letters {case : WordCase} {word t w : Text} (before : word.all isAlphanumeric = true)
    (after : t.all isAlphanumeric = true) (mem : w ∈ wordsFrom case word t) : w.all isAlphanumeric = true := by
  induction t generalizing case word with
  | nil =>
    simp only [wordsFrom] at mem
    split at mem
    · simp at mem
    · rwa [List.mem_singleton.mp mem, List.all_reverse]
  | cons c t ih =>
    simp only [List.all_cons, Bool.and_eq_true] at after
    have extended : (c :: word).all isAlphanumeric = true := by simp [after.1, before]
    have single : [c].all isAlphanumeric = true := by simp [after.1]
    simp only [wordsFrom] at mem
    split at mem
    · rwa [List.mem_singleton.mp mem, List.all_reverse]
    · split at mem
      · rcases List.mem_cons.mp mem with first | later
        · rwa [first, List.all_reverse]
        · exact ih rfl after.2 later
      · split at mem
        · rcases List.mem_cons.mp mem with first | later
          · rwa [first, List.all_reverse]
          · exact ih single after.2 later
        · exact ih extended after.2 mem

theorem letters_of_word {t w : Text} (mem : w ∈ words t) : w.all isAlphanumeric = true := by
  obtain ⟨stretch, inText, inStretch⟩ := List.mem_flatMap.mp mem
  have letters : stretch.all isAlphanumeric = true := stretches_letters rfl inText
  exact words_letters rfl letters inStretch

/-- Whatever the text, its camel case has no brackets, quotes, spaces or line feeds. -/
theorem camel_solid (t : Text) : Solid (camel t) := by
  simp only [Solid, camel, List.all_flatMap, List.all_eq_true (l := words t)]
  intro w mem
  exact capitalize_solid (letters_of_word mem)

end ApiTypes.Text

namespace ApiTypes.Naming

open Layout (Plain)
open Text (Solid)

theorem definition_plain (key : Text) : Plain (ofDefinition key) := (Text.camel_solid key).plain

theorem resolve_solid (template path operation : Text) (role : Role) : Solid (resolve template path operation role) := by
  refine (Text.camel_solid _).append ?_
  cases role <;> decide

theorem resolve_plain (template path operation : Text) (role : Role) : Plain (resolve template path operation role) :=
  (resolve_solid template path operation role).plain

theorem hoisted_plain {parent : Text} (plain : Plain parent) : Plain (hoisted parent) := plain.append (by decide)

end ApiTypes.Naming
