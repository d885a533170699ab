import Mathlib.Tactic.IntervalCases
import ApiTypes.Text.Percent
/-!
Texts in octets. What is written in UTF-8 is read back as it was, and so is what is written with percent signs, if the
percent sign itself is among the characters that are written so.
-/
namespace ApiTypes.Text

/-! ### UTF-8 -/

namespace Utf8

theorem code_range (c : Char) : c.toNat < 0xD800 ∨ (0xDFFF < c.toNat ∧ c.toNat < 0x110000) := c.valid

theorem items_cons (owed : Option Owed) (b : Nat) (rest : List Nat) :
    itemsFrom owed (b :: rest) = (step owed b).1 ++ itemsFrom (step owed b).2 rest := by
  cases owed <;> rfl

theorem lead_ascii {b : Nat} (small : b < 0x80) : lead b = ([some (Char.ofNat b)], none) := by
  simp [lead, small]

theorem lead_two {b : Nat} (low : 0xC2 ≤ b) (high : b ≤ 0xDF) : lead b = ([], some ⟨1, 0x80, 0xBF, b - 0xC0⟩) := by
  have large : ¬ b < 0x80 := by omega
  simp [lead, Owed.ofLead?, large, low, high]

/- The second octet is bounded where fewer octets would do, and where there are no characters. -/
theorem lead_three {k : Nat} (small : k < 16) :
    lead (0xE0 + k) = ([], some ⟨2, if k = 0 then 0xA0 else 0x80, if k = 13 then 0x9F else 0xBF, k⟩) := by
  interval_cases k <;> rfl

theorem lead_four {k : Nat} (small : k < 5) :
    lead (0xF0 + k) = ([], some ⟨3, if k = 0 then 0x90 else 0x80, if k = 4 then 0x8F else 0xBF, k⟩) := by
  interval_cases k <;> rfl

theorem step_more {o : Owed} {b : Nat} (low : o.low ≤ b) (high : b ≤ o.high) (more : 1 < o.count) :
    step (some o) b = ([], some ⟨o.count - 1, 0x80, 0xBF, o.bits * 64 + (b - 0x80)⟩) := by
  have several : ¬ o.count ≤ 1 := by omega
  simp [step, low, high, several]

theorem step_last {o : Owed} {b : Nat} (low : o.low ≤ b) (high : b ≤ o.high) (one : o.count = 1) :
    step (some o) b = ([some (Char.ofNat (o.bits * 64 + (b - 0x80)))], none) := by
  simp [step, low, high, one]

theorem items_two {c : Char} (rest : List Nat) (low : 0x80 ≤ c.toNat) (high : c.toNat < 0x800) :
    itemsFrom none ((0xC0 + c.toNat / 64) :: (0x80 + c.toNat % 64) :: rest) = some c :: itemsFrom none rest := by
  have first : step none (0xC0 + c.toNat / 64) = ([], some ⟨1, 0x80, 0xBF, c.toNat / 64⟩) := by
    rw [step, lead_two (by omega) (by omega)]
    simp
  rw [items_cons, first, items_cons, step_last (by simp) (by simp; omega) rfl]
  have code : c.toNat / 64 * 64 + c.toNat % 64 = c.toNat := by omega
  simp [code]

theorem items_three {c : Char} (rest : List Nat) (low : 0x800 ≤ c.toNat) (high : c.toNat < 0x10000) :
    itemsFrom none ((0xE0 + c.toNat / 4096) :: (0x80 + c.toNat / 64 % 64) :: (0x80 + c.toNat % 64) :: rest) =
      some c :: itemsFrom none rest := by
  have valid := code_range c
  have first := lead_three (k := c.toNat / 4096) (by omega)
  rw [items_cons, step, first, items_cons, step_more, items_cons, step_last]
  · have code : (c.toNat / 4096 * 64 + c.toNat / 64 % 64) * 64 + c.toNat % 64 = c.toNat := by omega
    simp [code]
  · simp
  · simp
    omega
  · simp
  · simp only
    split <;> omega
  · simp only
    split <;> omega
  · simp

theorem items_four {c : Char} (rest : List Nat) (low : 0x10000 ≤ c.toNat) :
    itemsFrom none ((0xF0 + c.toNat / 262144) :: (0x80 + c.toNat / 4096 % 64) :: (0x80 + c.toNat / 64 % 64) ::
      (0x80 + c.toNat % 64) :: rest) = some c :: itemsFrom none rest := by
  have valid := code_range c
  have first := lead_four (k := c.toNat / 262144) (by omega)
  rw [items_cons, step, first, items_cons, step_more, items_cons, step_more, items_cons, step_last]
  · have code : ((c.toNat / 262144 * 64 + c.toNat / 4096 % 64) * 64 + c.toNat / 64 % 64) * 64 + c.toNat % 64 =
        c.toNat := by omega
    simp [code]
  · simp
  · simp
    omega
  · simp
  · simp
  · simp
    omega
  · simp
  · simp only
    split <;> omega
  · simp only
    split <;> omega
  · simp

theorem items_char (c : Char) (rest : List Nat) :
    itemsFrom none (encodeChar c ++ rest) = some c :: itemsFrom none rest := by
  unfold encodeChar
  simp only
  split
  · rename_i small
    rw [List.singleton_append, items_cons, step, lead_ascii small]
    simp
  · split
    · exact items_two rest (by omega) (by omega)
    · split
      · exact items_three rest (by omega) (by omega)
      · exact items_four rest (by omega)

theorem encode_cons (c : Char) (t : Text) : encode (c :: t) = encodeChar c ++ encode t := List.flatMap_cons

theorem items_encode (t : Text) : items (encode t) = t.map some := by
  unfold items
  induction t with
  | nil => rfl
  | cons c rest ih => rw [encode_cons, items_char, ih, List.map_cons]

theorem decode_encode (t : Text) : decode? (encode t) = some t := by
  rw [decode?, items_encode]
  induction t with
  | nil => rfl
  | cons c rest ih => simp [List.mapM_cons, ih]

theorem encode_injective {t u : Text} (same : encode t = encode u) : t = u := by
  have read := decode_encode t
  rw [same, decode_encode u] at read
  exact (Option.some.inj read).symm

theorem encode_append (t u : Text) : encode (t ++ u) = encode t ++ encode u := by
  simp [encode]

theorem encode_ascii {c : Char} (ascii : c.toNat < 0x80) : encodeChar c = [c.toNat] := by
  simp [encodeChar, ascii]

theorem octet_bound {c : Char} {b : Nat} (mem : b ∈ encodeChar c) : b < 256 := by
  have valid := code_range c
  unfold encodeChar at mem
  simp only at mem
  split at mem
  · simp only [List.mem_singleton] at mem
    omega
  · split at mem
    · simp only [List.mem_cons, List.not_mem_nil, or_false] at mem
      omega
    · split at mem
      · simp only [List.mem_cons, List.not_mem_nil, or_false] at mem
        omega
      · simp only [List.mem_cons, List.not_mem_nil, or_false] at mem
        omega

theorem encode_octet_bound {t : Text} {b : Nat} (mem : b ∈ encode t) : b < 256 := by
  obtain ⟨c, -, own⟩ := List.mem_flatMap.mp mem
  exact octet_bound own

/- Only an ASCII character has octets in the ASCII range. -/
theorem ascii_octet_mem {t : Text} {b : Nat} (mem : b ∈ encode t) (small : b < 0x80) : Char.ofNat b ∈ t := by
  obtain ⟨c, inside, written⟩ := List.mem_flatMap.mp mem
  unfold encodeChar at written
  simp only at written
  split at written
  · rw [List.mem_singleton] at written
    rw [written, Char.ofNat_toNat]
    exact inside
  · split at written
    · simp only [List.mem_cons, List.not_mem_nil, or_false] at written
      omega
    · split at written
      · simp only [List.mem_cons, List.not_mem_nil, or_false] at written
        omega
      · simp only [List.mem_cons, List.not_mem_nil, or_false] at written
        omega

end Utf8

/-! ### Percent signs -/

namespace Percent

def escapeChars : Text := "%0123456789ABCDEF".toList

theorem octet_mem {n : Nat} (small : n < 256) {c : Char} (mem : c ∈ octet n) : c ∈ escapeChars := by
  have digit : ∀ d < 16, (digitChar d).toUpper ∈ escapeChars := by decide
  simp only [octet, List.mem_cons, List.not_mem_nil, or_false] at mem
  rcases mem with rfl | rfl | rfl
  · decide
  · exact digit (n / 16) (by omega)
  · exact digit (n % 16) (by omega)

theorem encode_mem {reserved : Char → Bool} {t : Text} {c : Char} (mem : c ∈ encode reserved t) :
    (c ∈ t ∧ reserved c = false) ∨ c ∈ escapeChars := by
  obtain ⟨d, inside, written⟩ := List.mem_flatMap.mp mem
  split at written
  · rename_i kept
    rw [List.mem_singleton] at written
    subst written
    rw [Bool.and_eq_true, Bool.not_eq_true'] at kept
    exact Or.inl ⟨inside, kept.2⟩
  · obtain ⟨n, octet, digit⟩ := List.mem_flatMap.mp written
    exact Or.inr (octet_mem (Utf8.octet_bound octet) digit)

theorem encode_absent {reserved : Char → Bool} {t : Text} {c : Char} (escaped : reserved c = true ∨ c ∉ t)
    (other : c ∉ escapeChars) : c ∉ encode reserved t := by
  intro mem
  rcases encode_mem mem with ⟨inside, kept⟩ | escape
  · rcases escaped with isReserved | absent
    · rw [isReserved] at kept
      simp at kept
    · exact absent inside
  · exact other escape

theorem encode_congr {reserved reserved' : Char → Bool} {t : Text} (same : ∀ c ∈ t, reserved c = reserved' c) :
    encode reserved t = encode reserved' t := by
  induction t with
  | nil => rfl
  | cons c t ih =>
    have later : encode reserved t = encode reserved' t := ih fun d mem => same d (by simp [mem])
    unfold encode at later ⊢
    rw [List.flatMap_cons, List.flatMap_cons, same c (by simp), later]

def IsDigit (d : Nat) (c : Char) : Prop := c = digitChar d ∨ c = (digitChar d).toUpper

/-- Octets as they may be written: some as they are and some escaped. A percent sign is always escaped. -/
inductive Spells : (octets written : List Nat) → Prop
  | nil : Spells [] []
  | kept {b : Nat} {bs ws : List Nat} (other : b ≠ 0x25) (later : Spells bs ws) : Spells (b :: bs) (b :: ws)
  | escaped {b : Nat} {bs ws : List Nat} {h l : Char} (small : b < 256) (high : IsDigit (b / 16) h)
    (low : IsDigit (b % 16) l) (later : Spells bs ws) : Spells (b :: bs) (0x25 :: h.toNat :: l.toNat :: ws)

def signs : Text := "%0123456789ABCDEFabcdef".toList

theorem digit_sign {d : Nat} {c : Char} (small : d < 16) (digit : IsDigit d c) :
    hexValue? c = some d ∧ c ∈ signs := by
  have small_sign : ∀ d < 16, hexValue? (digitChar d) = some d ∧ digitChar d ∈ signs := by decide
  have large_sign : ∀ d < 16, hexValue? (digitChar d).toUpper = some d ∧ (digitChar d).toUpper ∈ signs := by decide
  rcases digit with rfl | rfl
  · exact small_sign d small
  · exact large_sign d small

namespace Spells

variable {bs ws : List Nat}

/-- What is written is read back, whichever octets were escaped. -/
theorem read_back (spells : Spells bs ws) : octets ws = bs := by
  unfold octets
  induction spells with
  | nil => rfl
  | kept other later ih => simp [octetsFrom, other, ih]
  | @escaped b bs ws h l small high low later ih =>
    have first := (digit_sign (by omega) high).1
    have second := (digit_sign (by omega) low).1
    have value : b / 16 * 16 + b % 16 = b := by omega
    simp [octetsFrom, escaped?, first, second, value, ih]

theorem append (spells : Spells bs ws) {cs vs : List Nat} (more : Spells cs vs) : Spells (bs ++ cs) (ws ++ vs) := by
  induction spells with
  | nil => exact more
  | kept other later ih => exact kept other ih
  | escaped small high low later ih => exact escaped small high low ih

theorem mem (spells : Spells bs ws) {w : Nat} (listed : w ∈ ws) : w ∈ bs ∨ Char.ofNat w ∈ signs := by
  induction spells with
  | nil => simp at listed
  | kept other later ih =>
    rcases List.mem_cons.mp listed with rfl | more
    · exact Or.inl List.mem_cons_self
    · exact (ih more).imp_left (List.mem_cons_of_mem _)
  | escaped small high low later ih =>
    simp only [List.mem_cons] at listed
    rcases listed with rfl | rfl | rfl | more
    · exact Or.inr (by decide)
    · exact Or.inr (by rw [Char.ofNat_toNat]; exact (digit_sign (by omega) high).2)
    · exact Or.inr (by rw [Char.ofNat_toNat]; exact (digit_sign (by omega) low).2)
    · exact (ih more).imp_left (List.mem_cons_of_mem _)

end Spells

theorem octet_spells {n : Nat} (small : n < 256) : Spells [n] (Utf8.encode (octet n)) := by
  have ascii : ∀ d < 16, (digitChar d).toUpper.toNat < 0x80 := by decide
  have sign : Utf8.encodeChar '%' = [0x25] := rfl
  have written : Utf8.encode (octet n) =
      [0x25, (digitChar (n / 16)).toUpper.toNat, (digitChar (n % 16)).toUpper.toNat] := by
    simp [octet, Utf8.encode, Utf8.encode_ascii (ascii (n / 16) (by omega)),
      Utf8.encode_ascii (ascii (n % 16) (by omega)), sign]
  rw [written]
  exact .escaped small (Or.inr rfl) (Or.inr rfl) .nil

theorem octets_spell {bs : List Nat} (small : ∀ b ∈ bs, b < 256) : Spells bs (Utf8.encode (bs.flatMap octet)) := by
  induction bs with
  | nil => exact .nil
  | cons b bs ih =>
    rw [List.flatMap_cons, Utf8.encode_append]
    exact (octet_spells (small b (by simp))).append (ih fun b mem => small b (by simp [mem]))

theorem encode_spells {reserved : Char → Bool} (escapes : reserved '%' = true) (t : Text) :
    Spells (Utf8.encode t) (Utf8.encode (encode reserved t)) := by
  induction t with
  | nil => exact .nil
  | cons c t ih =>
    have parts : encode reserved (c :: t) =
        (if c.toNat < 0x80 && !reserved c then [c] else (Utf8.encodeChar c).flatMap octet) ++ encode reserved t := by
      simp [encode]
    rw [parts, Utf8.encode_cons, Utf8.encode_append]
    refine Spells.append ?_ ih
    split
    · rename_i plain
      rw [Bool.and_eq_true, decide_eq_true_eq] at plain
      have other : c.toNat ≠ 0x25 := by
        intro code
        have same : c = '%' := by rw [← Char.ofNat_toNat c, code]
        simp [same, escapes] at plain
      have single : Utf8.encode [c] = [c.toNat] := by simp [Utf8.encode, Utf8.encode_ascii plain.1]
      rw [single, Utf8.encode_ascii plain.1]
      exact .kept other .nil
    · exact octets_spell fun b mem => Utf8.octet_bound mem

theorem octets_encode {reserved : Char → Bool} (escapes : reserved '%' = true) (t : Text) :
    octets (Utf8.encode (encode reserved t)) = Utf8.encode t :=
  (encode_spells escapes t).read_back

theorem encode_injective {reserved : Char → Bool} (escapes : reserved '%' = true) {t u : Text}
    (same : encode reserved t = encode reserved u) : t = u := by
  apply Utf8.encode_injective
  rw [← octets_encode escapes t, ← octets_encode escapes u, same]

/-! ### Texts with escapes -/

def Writes (t written : Text) : Prop := Spells (Utf8.encode t) (Utf8.encode written)

theorem encode_writes {reserved : Char → Bool} (escapes : reserved '%' = true) (t : Text) :
    Writes t (encode reserved t) :=
  encode_spells escapes t

namespace Writes

variable {t written : Text}

theorem decode_lossy (writes : Writes t written) : decodeLossy written = t := by
  rw [decodeLossy, Spells.read_back writes, Utf8.decodeLossy, Utf8.items_encode]
  simp

theorem absent (writes : Writes t written) {c : Char} (ascii : c.toNat < 0x80) (other : c ∉ signs) (new : c ∉ t) :
    c ∉ written := by
  intro inside
  have octet : c.toNat ∈ Utf8.encode written :=
    List.mem_flatMap.mpr ⟨c, inside, by simp [Utf8.encode_ascii ascii]⟩
  rcases Spells.mem writes octet with old | sign
  · have there := Utf8.ascii_octet_mem old ascii
    rw [Char.ofNat_toNat] at there
    exact new there
  · rw [Char.ofNat_toNat] at sign
    exact other sign

theorem empty_iff (writes : Writes t written) : written = [] ↔ t = [] := by
  constructor
  · intro none
    subst none
    have same := Spells.read_back writes
    exact Utf8.encode_injective same.symm
  · intro none
    subst none
    cases shown : Utf8.encode written with
    | nil => exact Utf8.encode_injective shown
    | cons w ws =>
      have spells : Spells [] (w :: ws) := shown ▸ writes
      cases spells

end Writes

end Percent

end ApiTypes.Text
