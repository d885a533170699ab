import Mathlib.Logic.Function.Defs
import ApiTypes.Proofs.Layout.Balance
import ApiTypes.Proofs.LiteralUnion
/-!
Keys of properties. A key is the name of the property as it is, or in quotes where the name is not plain; either way it tells
the name. The layout passes over a key, whatever brackets, quotes and backslashes are in the name.
-/
namespace ApiTypes

/-! ### Plain names -/

namespace Record

def IsNameStart (c : Char) : Prop := c.isAlpha = true ∨ c = '_' ∨ c = '$'

def IsPlainName (name : Text) : Prop :=
  ∃ c rest, name = c :: rest ∧ IsNameStart c ∧ ∀ d ∈ rest, IsNameStart d ∨ d.isDigit = true

theorem identifier_start_iff (c : Char) : isIdentifierStart c = true ↔ IsNameStart c := by
  have upper : (decide ('A' ≤ c) && decide (c ≤ 'Z')) = c.isUpper := by
    rw [← Bool.decide_and]
    rfl
  have classes : isIdentifierStart c = (c.isAlpha || c == '_' || c == '$') := by
    rw [isIdentifierStart, upper]
    rfl
  simp [classes, IsNameStart, or_assoc]

theorem identifier_part_iff (c : Char) : isIdentifierPart c = true ↔ IsNameStart c ∨ c.isDigit = true := by
  rw [isIdentifierPart, Bool.or_eq_true, identifier_start_iff]
  rfl

theorem identifier_iff_plain (name : Text) : isIdentifier name = true ↔ IsPlainName name := by
  cases name with
  | nil => simp [isIdentifier, IsPlainName]
  | cons c rest =>
    simp only [isIdentifier, Bool.and_eq_true, List.all_eq_true, identifier_start_iff, identifier_part_iff, IsPlainName]
    constructor
    · rintro ⟨start, parts⟩
      exact ⟨c, rest, rfl, start, parts⟩
    · rintro ⟨d, others, same, start, parts⟩
      obtain ⟨rfl, rfl⟩ := List.cons.inj same
      exact ⟨start, parts⟩

theorem key_cases (name : Text) :
    (IsPlainName name ∧ key name = name) ∨ (¬ IsPlainName name ∧ key name = Json.quote name) := by
  by_cases plain : IsPlainName name
  · exact Or.inl ⟨plain, if_pos ((identifier_iff_plain name).mpr plain)⟩
  · exact Or.inr ⟨plain, if_neg fun identifier => plain ((identifier_iff_plain name).mp identifier)⟩

theorem plain_not_quoted {name other : Text} (plain : IsPlainName name) : name ≠ Json.quote other := by
  obtain ⟨c, rest, rfl, start, -⟩ := plain
  intro same
  rw [(List.cons.inj same).1, ← identifier_start_iff] at start
  exact absurd start (by decide)

theorem key_injective : Function.Injective key := by
  intro name other same
  rcases key_cases name with ⟨plain, own⟩ | ⟨-, own⟩ <;> rcases key_cases other with ⟨otherPlain, its⟩ | ⟨-, its⟩ <;>
    rw [own, its] at same
  · exact same
  · exact absurd same (plain_not_quoted plain)
  · exact absurd same.symm (plain_not_quoted otherPlain)
  · have read := Json.quote_read name
    rw [same, Json.quote_read other] at read
    simpa using read.symm

end Record

/-! ### Keys in a line -/

namespace Layout

/-- A text in which no bracket counts, and after which none counts as leading. -/
def Skipped (t : Text) : Prop :=
  ∀ (first : Bool) (b : Brackets) (rest : Text), bracketsFrom none first b (t ++ rest) = bracketsFrom none false b rest

theorem plain_char_skipped {c : Char} (plain : isPlain c = true) : Skipped [c] := by
  intro first b rest
  simp only [isPlain, Bool.and_eq_true, Bool.not_eq_true'] at plain
  obtain ⟨⟨⟨notOpening, notClosing⟩, notQuote⟩, -⟩ := plain
  simp [bracketsFrom, notOpening, notClosing, notQuote]

theorem plain_skipped {c : Char} {t : Text} (plain : Plain (c :: t)) : Skipped (c :: t) := by
  induction t generalizing c with
  | nil =>
    apply plain_char_skipped
    simpa [Plain] using plain
  | cons d t ih =>
    simp only [Plain, List.all_cons, Bool.and_eq_true] at plain
    intro first b rest
    have later : Skipped (d :: t) := ih (by simpa [Plain] using plain.2)
    exact (plain_char_skipped plain.1 first b _).trans (later false b rest)

theorem escapes_skipped (t : Text) (b : Brackets) (rest : Text) :
    bracketsFrom (some ⟨'"', false⟩) false b (t.flatMap Json.escapeChar ++ rest) =
      bracketsFrom (some ⟨'"', false⟩) false b rest := by
  revert rest
  apply escaped_parts (motive := fun u => ∀ rest, bracketsFrom (some ⟨'"', false⟩) false b (u ++ rest) =
    bracketsFrom (some ⟨'"', false⟩) false b rest) t
  · exact fun _ => rfl
  · intro u v first second rest
    rw [List.append_assoc, first, second]
  · intro c notQuote notSlash _ rest
    simp [bracketsFrom, Quote.next, notQuote, notSlash]
  · exact fun _ _ => rfl

theorem quote_skipped (t : Text) : Skipped (Json.quote t) := by
  intro first b rest
  have shape : Json.quote t ++ rest = '"' :: (t.flatMap Json.escapeChar ++ '"' :: rest) := by simp [Json.quote]
  have opened : ∀ u, bracketsFrom none first b ('"' :: u) = bracketsFrom (some ⟨'"', false⟩) false b u := fun _ => rfl
  rw [shape, opened, escapes_skipped]
  rfl

theorem key_skipped (name : Text) : Skipped (Record.key name) := by
  unfold Record.key
  split
  · rename_i identifier
    have plain := identifier_plain identifier
    obtain ⟨c, rest, rfl, -⟩ := identifier_parts identifier
    exact plain_skipped plain
  · exact quote_skipped name

theorem Skipped.brackets {t : Text} (skipped : Skipped t) (rest : Text) :
    Layout.brackets (t ++ rest) = ⟨(Layout.brackets rest).opens, (Layout.brackets rest).closes, 0⟩ := by
  rw [Layout.brackets, skipped, Layout.brackets]
  simp [brackets_from_marks]

end Layout

namespace Record

/-- A key is the name itself if that is plain, and a text in quotes that is read as the name if not. So the key tells the name.
A line that starts with a key has the brackets of what follows the key, and none of them leads the line. -/
theorem key_tells_name_and_is_skipped :
    (∀ name, (IsPlainName name ∧ key name = name) ∨
      (¬ IsPlainName name ∧ (∃ inner, key name = '"' :: (inner ++ ['"'])) ∧ Json.read? (key name) = some (.str name))) ∧
    Function.Injective key ∧
    ∀ name rest, Layout.brackets (key name ++ rest) =
      ⟨(Layout.brackets rest).opens, (Layout.brackets rest).closes, 0⟩ := by
  refine ⟨fun name => ?_, key_injective, fun name => (Layout.key_skipped name).brackets⟩
  rcases key_cases name with plain | ⟨other, quoted⟩
  · exact Or.inl plain
  · rw [quoted]
    exact Or.inr ⟨other, ⟨_, rfl⟩, Json.quote_read name⟩

-- A name that would end the literal and close a bracket, and that ends in a backslash.
example : Layout.brackets (key ['"', '}', '\\'] ++ [':', ' ', '{']) = ⟨1, 0, 0⟩ := by decide

end Record

end ApiTypes
