import ApiTypes.Proofs.PointerLookup
/-!
Segments of pointers are decoded to what was encoded. Which octets are escaped may be chosen freely, octet by octet, as long
as percent signs are among them and a text comes out. One comes out exactly if no character is escaped in part.
-/
namespace ApiTypes

namespace Text

/-! ### The octets of a character -/

namespace Utf8

def IsTail (b : Nat) : Prop := 0x80 ≤ b ∧ b < 0xC0

def following (lead : Nat) : Nat :=
  if lead < 0xC0 then 0 else if lead < 0xE0 then 1 else if lead < 0xF0 then 2 else 3

theorem size_cons (c : Char) (t : Text) : size (c :: t) = size t + (encodeChar c).length := by
  rw [size, encode_cons, List.length_append, Nat.add_comm, size]

theorem encode_char_parts (c : Char) :
    ∃ lead tail, encodeChar c = lead :: tail ∧ ¬ IsTail lead ∧ (∀ b ∈ tail, IsTail b) ∧ tail.length = following lead := by
  have valid := code_range c
  unfold encodeChar
  simp only [IsTail, following]
  split
  · refine ⟨_, _, rfl, by omega, by simp, ?_⟩
    rw [if_pos (by omega)]
    rfl
  split
  · refine ⟨_, _, rfl, by omega, ?_, ?_⟩
    · simp only [List.mem_singleton, forall_eq]
      omega
    · rw [if_neg (by omega), if_pos (by omega)]
      rfl
  split
  · refine ⟨_, _, rfl, by omega, ?_, ?_⟩
    · simp only [List.forall_mem_cons, List.mem_singleton, forall_eq]
      omega
    · rw [if_neg (by omega), if_neg (by omega), if_pos (by omega)]
      rfl
  · refine ⟨_, _, rfl, by omega, ?_, ?_⟩
    · simp only [List.forall_mem_cons, List.mem_singleton, forall_eq]
      omega
    · rw [if_neg (by omega), if_neg (by omega), if_neg (by omega)]
      rfl

theorem encode_first {t : Text} {b : Nat} {bs : List Nat} (same : encode t = b :: bs) :
    ¬ IsTail b ∧ ∃ tail u, bs = tail ++ encode u ∧ (∀ x ∈ tail, IsTail x) ∧ tail.length = following b := by
  cases t with
  | nil => cases same
  | cons c u =>
    obtain ⟨lead, tail, parts, first, others, length⟩ := encode_char_parts c
    rw [encode_cons, parts] at same
    obtain ⟨rfl, rfl⟩ := List.cons.inj same
    exact ⟨first, tail, u, rfl, others, length⟩

theorem encode_after_ascii {t : Text} {b : Nat} {bs : List Nat} (same : encode t = b :: bs) (ascii : b < 0x80) :
    ∃ u, encode u = bs := by
  obtain ⟨-, tail, u, rfl, -, length⟩ := encode_first same
  have none : following b = 0 := if_pos (by omega)
  rw [none] at length
  exact ⟨u, by rw [List.eq_nil_of_length_eq_zero length, List.nil_append]⟩

end Utf8

/-! ### A choice of octets -/

namespace Percent

inductive Case where
  | lower
  | upper
deriving DecidableEq

def Case.digit : Case → Nat → Char
  | lower, d => digitChar d
  | upper, d => (digitChar d).toUpper

inductive Style where
  | kept
  | escaped (high low : Case)
deriving DecidableEq

def Style.write : Style → Nat → List Nat
  | kept, b => [b]
  | escaped high low, b => [0x25, (high.digit (b / 16)).toNat, (low.digit (b % 16)).toNat]

def escapeChosen (choice : Nat → Style) : List Nat → List Nat
  | [] => []
  | b :: bs => (choice 0).write b ++ escapeChosen (fun i => choice (i + 1)) bs

def EscapesSigns (choice : Nat → Style) (bs : List Nat) : Prop := ∀ i : Nat, bs[i]? = some 0x25 → choice i ≠ .kept

def Alike (choice : Nat → Style) (count : Nat) : Prop :=
  (∀ i < count, choice i = .kept) ∨ (∀ i < count, choice i ≠ .kept)

/-- No character is escaped in part. The octets of a character come after those of all characters before it. -/
def EscapesWhole (choice : Nat → Style) (t : Text) : Prop :=
  ∀ before c after, t = before ++ c :: after →
    Alike (fun i => choice (i + Utf8.size before)) (Utf8.encodeChar c).length

variable {choice : Nat → Style}

theorem digit_cased (style : Case) (d : Nat) : IsDigit d (style.digit d) := by
  cases style with
  | lower => exact Or.inl rfl
  | upper => exact Or.inr rfl

theorem digit_ascii {d : Nat} (small : d < 16) (style : Case) : (style.digit d).toNat < 0x80 := by
  have both : ∀ d < 16, (digitChar d).toNat < 0x80 ∧ (digitChar d).toUpper.toNat < 0x80 := by decide
  cases style with
  | lower => exact (both d small).1
  | upper => exact (both d small).2

theorem chosen_spells {bs : List Nat} (small : ∀ b ∈ bs, b < 256) (escapes : EscapesSigns choice bs) :
    Spells bs (escapeChosen choice bs) := by
  induction bs generalizing choice with
  | nil => exact .nil
  | cons b bs ih =>
    have later : Spells bs (escapeChosen (fun i => choice (i + 1)) bs) :=
      ih (fun x mem => small x (by simp [mem])) fun i => escapes (i + 1)
    rw [escapeChosen]
    cases style : choice 0 with
    | kept =>
      have other : b ≠ 0x25 := fun sign => escapes 0 (by simp [sign]) style
      exact .kept other later
    | escaped high low => exact .escaped (small b (by simp)) (digit_cased _ _) (digit_cased _ _) later

theorem chosen_append (bs cs : List Nat) :
    escapeChosen choice (bs ++ cs) = escapeChosen choice bs ++ escapeChosen (fun i => choice (i + bs.length)) cs := by
  induction bs generalizing choice with
  | nil => rfl
  | cons b bs ih =>
    rw [List.cons_append, escapeChosen, escapeChosen, ih, List.append_assoc]
    rfl

/-! ### Characters are kept or escaped as a whole -/

theorem escapes_whole_cons (c : Char) (t : Text) :
    EscapesWhole choice (c :: t) ↔ Alike choice (Utf8.encodeChar c).length ∧
      EscapesWhole (fun i => choice (i + (Utf8.encodeChar c).length)) t := by
  constructor
  · intro whole
    refine ⟨whole [] c t rfl, fun before d after parts => ?_⟩
    have later := whole (c :: before) d after (by rw [parts, List.cons_append])
    simp only [Utf8.size_cons, ← Nat.add_assoc] at later
    exact later
  · rintro ⟨first, later⟩ before d after parts
    cases before with
    | nil =>
      obtain ⟨rfl, rfl⟩ := List.cons.inj parts
      exact first
    | cons e before =>
      obtain ⟨rfl, rest⟩ := List.cons.inj parts
      simp only [Utf8.size_cons, ← Nat.add_assoc]
      exact later before d after rest

theorem chosen_kept {bs : List Nat} (kept : ∀ i < bs.length, choice i = .kept) : escapeChosen choice bs = bs := by
  induction bs generalizing choice with
  | nil => rfl
  | cons b bs ih =>
    rw [escapeChosen, kept 0 (by simp), ih fun i bound => kept (i + 1) (by simpa using bound)]
    rfl

theorem chosen_escaped {bs : List Nat} (small : ∀ b ∈ bs, b < 256) (escaped : ∀ i < bs.length, choice i ≠ .kept) :
    ∃ w, Utf8.encode w = escapeChosen choice bs := by
  induction bs generalizing choice with
  | nil => exact ⟨[], rfl⟩
  | cons b bs ih =>
    have bound := small b (by simp)
    obtain ⟨w, written⟩ : ∃ w, Utf8.encode w = escapeChosen (fun i => choice (i + 1)) bs :=
      ih (fun x mem => small x (by simp [mem])) fun i inside => escaped (i + 1) (by simpa using inside)
    cases style : choice 0 with
    | kept => exact absurd style (escaped 0 (by simp))
    | escaped high low =>
      refine ⟨'%' :: high.digit (b / 16) :: low.digit (b % 16) :: w, ?_⟩
      rw [escapeChosen, style, Utf8.encode_cons, Utf8.encode_cons, Utf8.encode_cons, written,
        Utf8.encode_ascii (digit_ascii (by omega) high), Utf8.encode_ascii (digit_ascii (by omega) low)]
      rfl

theorem after_escape {b : Nat} (small : b < 256) {high low : Case} {w : Text} {xs : List Nat}
    (same : Utf8.encode w = (Style.escaped high low).write b ++ xs) : ∃ u, Utf8.encode u = xs := by
  obtain ⟨u₁, sign⟩ := Utf8.encode_after_ascii same (by decide)
  obtain ⟨u₂, first⟩ := Utf8.encode_after_ascii sign (digit_ascii (by omega) high)
  exact Utf8.encode_after_ascii first (digit_ascii (by omega) low)

theorem kept_on {tail due xs ys : List Nat} (tails : ∀ x ∈ due, Utf8.IsTail x) (length : due.length = tail.length)
    (same : escapeChosen choice tail ++ xs = due ++ ys) : (∀ i < tail.length, choice i = .kept) ∧ xs = ys := by
  induction tail generalizing choice due with
  | nil =>
    rw [List.eq_nil_of_length_eq_zero length] at same
    exact ⟨by simp, same⟩
  | cons b tail ih =>
    cases due with
    | nil => cases length
    | cons x due =>
      obtain ⟨first, others⟩ := List.forall_mem_cons.mp tails
      rw [escapeChosen] at same
      cases style : choice 0 with
      | kept =>
        rw [style] at same
        obtain ⟨later, rest⟩ := ih others (Nat.succ.inj length) (List.cons.inj same).2
        exact ⟨Nat.forall_lt_succ_left.mpr ⟨style, later⟩, rest⟩
      | escaped high low =>
        rw [style] at same
        obtain ⟨rfl, -⟩ := List.cons.inj same
        exact absurd first.1 (by decide)

theorem escaped_on {tail xs : List Nat} {w : Text} (tails : ∀ b ∈ tail, Utf8.IsTail b)
    (same : Utf8.encode w = escapeChosen choice tail ++ xs) :
    (∀ i < tail.length, choice i ≠ .kept) ∧ ∃ u, Utf8.encode u = xs := by
  induction tail generalizing choice w with
  | nil => exact ⟨by simp, w, same⟩
  | cons b tail ih =>
    obtain ⟨first, others⟩ := List.forall_mem_cons.mp tails
    rw [escapeChosen] at same
    cases style : choice 0 with
    | kept =>
      rw [style] at same
      exact absurd first (Utf8.encode_first same).1
    | escaped high low =>
      rw [style] at same
      obtain ⟨u, written⟩ := after_escape (Nat.lt_trans first.2 (by decide)) same
      obtain ⟨later, rest⟩ := ih others written
      exact ⟨Nat.forall_lt_succ_left.mpr ⟨by simp [style], later⟩, rest⟩

theorem chosen_char_iff (c : Char) (xs : List Nat) :
    (∃ w, Utf8.encode w = escapeChosen choice (Utf8.encodeChar c) ++ xs) ↔
      Alike choice (Utf8.encodeChar c).length ∧ ∃ u, Utf8.encode u = xs := by
  have small : ∀ b ∈ Utf8.encodeChar c, b < 256 := fun b mem => Utf8.octet_bound mem
  constructor
  · rintro ⟨w, same⟩
    obtain ⟨lead, tail, parts, -, tails, length⟩ := Utf8.encode_char_parts c
    rw [parts] at same small ⊢
    rw [escapeChosen, List.append_assoc] at same
    cases style : choice 0 with
    | kept =>
      -- The octet that is kept tells how many tails are due, and these are as many as the character has.
      rw [style] at same
      obtain ⟨-, due, u, rest, dueTails, dueLength⟩ := Utf8.encode_first same
      obtain ⟨later, rfl⟩ := kept_on dueTails (dueLength.trans length.symm) rest
      exact ⟨Or.inl (Nat.forall_lt_succ_left.mpr ⟨style, later⟩), u, rfl⟩
    | escaped high low =>
      -- The escape ends a character, so that the next octet has to start one, which a tail does not.
      rw [style] at same
      obtain ⟨u, written⟩ := after_escape (small lead (by simp)) same
      obtain ⟨later, rest⟩ := escaped_on tails written
      exact ⟨Or.inr (Nat.forall_lt_succ_left.mpr ⟨by simp [style], later⟩), rest⟩
  · rintro ⟨kept | escaped, u, rfl⟩
    · exact ⟨c :: u, by rw [chosen_kept kept, Utf8.encode_cons]⟩
    · obtain ⟨w, written⟩ := chosen_escaped small escaped
      exact ⟨w ++ u, by rw [Utf8.encode_append, written]⟩

/-- Chosen octets of a text are escaped to a text exactly if no character is escaped in part. -/
theorem chosen_text_iff (t : Text) :
    (∃ w, Utf8.encode w = escapeChosen choice (Utf8.encode t)) ↔ EscapesWhole choice t := by
  induction t generalizing choice with
  | nil => exact ⟨fun _ before c after parts => by simp at parts, fun _ => ⟨[], rfl⟩⟩
  | cons c t ih => rw [Utf8.encode_cons, chosen_append, chosen_char_iff, escapes_whole_cons, ih]

end Percent

end Text

namespace Pointer

open Text Text.Percent

/-- The octets of a text as a segment: tildes and slashes are escaped first, and then the chosen octets. -/
def segmentOctets (choice : Nat → Style) (s : Text) : List Nat := escapeChosen choice (Utf8.encode (escapeTildes s))

/-- As long as every percent sign is escaped, whatever text has the octets of a segment is decoded to what they were made of.
There is such a text exactly if no character is escaped in part. -/
theorem decoding_undoes_encoding (s : Text) (choice : Nat → Style)
    (escapes : EscapesSigns choice (Utf8.encode (escapeTildes s))) :
    (∀ segment, Utf8.encode segment = segmentOctets choice s → decodeSegment segment = s) ∧
      ((∃ segment, Utf8.encode segment = segmentOctets choice s) ↔ EscapesWhole choice (escapeTildes s)) := by
  refine ⟨fun segment written => ?_, chosen_text_iff _⟩
  have writes : Writes (escapeTildes s) segment := by
    rw [Writes, written]
    exact chosen_spells (fun b mem => Utf8.encode_octet_bound mem) escapes
  exact decode_segment_written writes

def knottyChoice : Nat → Style
  | 0 => .escaped .lower .lower
  | 4 => .escaped .upper .lower
  | 5 => .escaped .upper .upper
  | 6 => .escaped .upper .upper
  | 7 => .escaped .lower .lower
  | _ => .kept

theorem knotty_segment_is_decoded :
    EscapesSigns knottyChoice (Utf8.encode (escapeTildes "~1/%é".toList)) ∧
      Utf8.encode "%7e01~%31%25%C3%a9".toList = segmentOctets knottyChoice "~1/%é".toList ∧
      decodeSegment "%7e01~%31%25%C3%a9".toList = "~1/%é".toList ∧
      EscapesWhole knottyChoice (escapeTildes "~1/%é".toList) := by
  have escapes : EscapesSigns knottyChoice (Utf8.encode (escapeTildes "~1/%é".toList)) := by
    intro i sign
    have fifth : ∀ i < 8, (Utf8.encode (escapeTildes "~1/%é".toList))[i]? = some 0x25 → knottyChoice i ≠ .kept := by
      decide
    exact fifth i (List.getElem?_eq_some_iff.mp sign).1 sign
  have written : Utf8.encode "%7e01~%31%25%C3%a9".toList = segmentOctets knottyChoice "~1/%é".toList := by decide
  obtain ⟨decoded, exists_iff⟩ := decoding_undoes_encoding "~1/%é".toList knottyChoice escapes
  exact ⟨escapes, written, decoded _ written, exists_iff.mp ⟨_, written⟩⟩

end Pointer

end ApiTypes
