import ApiTypes.Json.Reader
import ApiTypes.Proofs.Decimal.Written
import ApiTypes.Proofs.UntypedValues
/-!
Unions of literal values can be read back. A text in quotes may hold the bar between two values, quotes, backslashes and
control characters, but nothing in it ends it, so that the union falls apart into one piece for each value, and each piece
is read as its value. The text of a number is kept as it is, and tells the number.
-/
namespace ApiTypes

/-! ### Texts in quotes are read back -/

namespace Json

theorem string_body_escape (c : Char) (rest : Text) :
    stringBody? (escapeChar c ++ rest) = (stringBody? rest).map fun (s, r) => (c :: s, r) := by
  unfold escapeChar
  split
  · rename_i quote
    rw [beq_iff_eq.mp quote]
    simp [stringBody?, escape?]
  split
  · rename_i backslash
    rw [beq_iff_eq.mp backslash]
    simp [stringBody?, escape?]
  split
  · rename_i control
    have same : c = Char.ofNat c.toNat := (Char.ofNat_toNat c).symm
    split
    iterate 5
      rename_i code
      rw [same, code]
      simp [stringBody?, escape?]
    · have high := Script.hex_digit_read (c.toNat / 16) (by omega)
      have low := Script.hex_digit_read (c.toNat % 16) (by omega)
      have zero : Text.hexValue? '0' = some 0 := by decide
      have code : hexCode? '0' '0' (Text.digitChar (c.toNat / 16)) (Text.digitChar (c.toNat % 16)) = some c.toNat := by
        have value : c.toNat / 16 * 16 + c.toNat % 16 = c.toNat := by omega
        simp [hexCode?, zero, high, low, value]
      have lead : isLeadSurrogate c.toNat = false := by
        simp only [isLeadSurrogate, Bool.and_eq_false_iff, decide_eq_false_iff_not]
        omega
      have trail : isTrailSurrogate c.toNat = false := by
        simp only [isTrailSurrogate, Bool.and_eq_false_iff, decide_eq_false_iff_not]
        omega
      simp [stringBody?, code, lead, trail]
  · rename_i notQuote notSlash shown
    rw [List.singleton_append, stringBody?.eq_def]
    split <;> simp_all

theorem string_body_quoted (s rest : Text) : stringBody? (s.flatMap escapeChar ++ '"' :: rest) = some (s, rest) := by
  induction s with
  | nil => rfl
  | cons c s ih => rw [List.flatMap_cons, List.append_assoc, string_body_escape, ih, Option.map_some]

theorem quote_read (s : Text) : read? (quote s) = some (.str s) := by
  have value : ∀ fuel depth, valueWithin (fuel + 1) depth (quote s) = some (.str s, []) := by
    intro fuel depth
    have kept : skipBlanks (quote s) = '"' :: (s.flatMap escapeChar ++ ['"']) := rfl
    rw [valueWithin, kept]
    simp only [string_body_quoted, Option.map_some]
  rw [read?, value]
  rfl

end Json

/-! ### The pieces of a union -/

namespace TypeExpr

/-- Where a character stands: outside strings, in one, or after a backslash in one. -/
inductive Place where
  | outside
  | inside
  | escaped
deriving DecidableEq, Repr

def Place.next : Place → Char → Place
  | .outside, c => if c = '"' then .inside else .outside
  | .inside, c => if c = '"' then .outside else if c = '\\' then .escaped else .inside
  | .escaped, _ => .inside

def lead (t : Text) (ps : List Text) : List Text := ps.modifyHead (t ++ ·)

/- A bar counts only outside strings, and with its blanks. -/
def piecesFrom : Place → Text → List Text
  | _, [] => [[]]
  | .outside, ' ' :: '|' :: ' ' :: rest => [] :: piecesFrom .outside rest
  | p, c :: rest => lead [c] (piecesFrom (p.next c) rest)

def pieces (t : Text) : List Text := piecesFrom .outside t

theorem pieces_step {p : Place} {c : Char} (other : p = .outside → c ≠ ' ') (rest : Text) :
    piecesFrom p (c :: rest) = lead [c] (piecesFrom (p.next c) rest) := by
  rw [piecesFrom]
  rintro rest' rfl rfl
  exact absurd rfl (other rfl)

theorem lead_append (t u : Text) (ps : List Text) : lead (t ++ u) ps = lead t (lead u ps) := by
  cases ps <;> simp [lead]

/-- A text that no bar falls into, and after which the place is what it was before it. -/
def Keeps (p : Place) (t : Text) : Prop := ∀ rest, piecesFrom p (t ++ rest) = lead t (piecesFrom p rest)

theorem Keeps.append {p : Place} {t u : Text} (first : Keeps p t) (second : Keeps p u) : Keeps p (t ++ u) := by
  intro rest
  rw [List.append_assoc, first, second, lead_append]

theorem keeps_nothing {p : Place} : Keeps p [] := by
  intro rest
  cases ps : piecesFrom p rest <;> simp [lead, ps]

theorem keeps_plain {p : Place} {c : Char} (running : p ≠ .escaped) (blank : p = .outside → c ≠ ' ') (quote : c ≠ '"')
    (backslash : c ≠ '\\') : Keeps p [c] := by
  intro rest
  have same : p.next c = p := by
    cases p with
    | outside => simp [Place.next, quote]
    | inside => simp [Place.next, quote, backslash]
    | escaped => exact absurd rfl running
  rw [List.singleton_append, pieces_step blank, same]

theorem keeps_backslash {c : Char} : Keeps .inside ['\\', c] := by
  intro rest
  rw [List.cons_append, pieces_step (by simp), List.singleton_append]
  change lead ['\\'] (piecesFrom .escaped (c :: rest)) = _
  rw [pieces_step (by simp), ← lead_append]
  rfl

theorem keeps_escapes (s : Text) : Keeps .inside (s.flatMap Json.escapeChar) :=
  Layout.escaped_parts (motive := Keeps .inside) s keeps_nothing Keeps.append
    (fun quote backslash _ => keeps_plain (by simp) (by simp) quote backslash) fun _ => keeps_backslash

theorem keeps_quote (s : Text) : Keeps .outside (Json.quote s) := by
  intro rest
  rw [Json.quote, List.cons_append, pieces_step (by simp)]
  change lead ['"'] (piecesFrom .inside (s.flatMap Json.escapeChar ++ ['"'] ++ rest)) = _
  rw [List.append_assoc, keeps_escapes, List.singleton_append, pieces_step (by simp)]
  change lead ['"'] (lead _ (lead ['"'] (piecesFrom .outside rest))) = _
  rw [← lead_append, ← lead_append]
  rfl

def IsWord (t : Text) : Prop := ∀ c ∈ t, c ≠ ' ' ∧ c ≠ '"' ∧ c ≠ '\\'

theorem keeps_word {t : Text} (plain : IsWord t) : Keeps .outside t := by
  induction t with
  | nil => exact keeps_nothing
  | cons c t ih =>
    obtain ⟨⟨notBlank, notQuote, notSlash⟩, others⟩ := List.forall_mem_cons.mp plain
    exact (keeps_plain (by simp) (fun _ => notBlank) notQuote notSlash).append (ih others)

theorem pieces_join {xs : List Text} (some : xs ≠ []) (keeps : ∀ x ∈ xs, Keeps .outside x) :
    pieces (Text.joinWith " | ".toList xs) = xs := by
  induction xs with
  | nil => exact absurd rfl some
  | cons x xs ih =>
    have first := keeps x (by simp)
    cases xs with
    | nil =>
      have alone := first []
      rw [List.append_nil] at alone
      rw [Text.joinWith, pieces, alone]
      simp [piecesFrom, lead]
    | cons y ys =>
      have later := ih (by simp) fun z mem => keeps z (by simp [mem])
      have bar : piecesFrom .outside (" | ".toList ++ Text.joinWith " | ".toList (y :: ys)) =
          [] :: pieces (Text.joinWith " | ".toList (y :: ys)) := rfl
      rw [Text.joinWith, pieces, List.append_assoc, first, bar, later]
      simp [lead]

end TypeExpr

/-! ### Scalars -/

namespace Json

theorem numeral_plain {s s' : Script.Numeral} {c : Char} (step : s.next? c = some s') : c ≠ ' ' ∧ c ≠ '"' ∧ c ≠ '\\' := by
  refine ⟨?_, ?_, ?_⟩
  · rintro rfl
    cases s <;> cases step
  · rintro rfl
    cases s <;> cases step
  · rintro rfl
    cases s <;> cases step

theorem numeral_run_word {s s' : Script.Numeral} {t : Text} (reads : s.run? t = some s') : TypeExpr.IsWord t := by
  induction t generalizing s with
  | nil => simp [TypeExpr.IsWord]
  | cons c t ih =>
    simp only [Script.Numeral.run?, Option.bind_eq_some_iff] at reads
    obtain ⟨next, step, later⟩ := reads
    intro d mem
    rcases List.mem_cons.mp mem with rfl | mem
    · exact numeral_plain step
    · exact ih later d mem

theorem signed_word {t : Text} (unsigned : Script.IsUnsigned t) (negative : Bool) : TypeExpr.IsWord (signed negative t) := by
  obtain ⟨s, reads, -⟩ := unsigned
  intro c mem
  cases negative with
  | false => exact numeral_run_word reads c mem
  | true =>
    rcases List.mem_cons.mp mem with rfl | mem
    · decide
    · exact numeral_run_word reads c mem

theorem number_text_word (n : Number) : TypeExpr.IsWord n.text := by
  cases n with
  | int i =>
    change TypeExpr.IsWord (Text.ofInt i)
    rw [int_text_signed]
    exact signed_word (nat_text_unsigned _) _
  | real x =>
    change TypeExpr.IsWord (realStyle.text x)
    rw [real_text_signed]
    exact signed_word (magnitude_unsigned x) _

/-- A value that is no container. Of a number there is its text. -/
inductive Scalar where
  | null
  | bool (b : Bool)
  | text (s : Text)
  | number (t : Text)
deriving DecidableEq, Repr

def Scalar.of? : Json → Option Scalar
  | .null => some .null
  | .bool b => some (.bool b)
  | .str s => some (.text s)
  | .num n => some (.number n.text)
  | .arr _ | .obj _ => none

def Scalar.read? (t : Text) : Option Scalar :=
  if isNumeral t then some (.number t) else (Json.read? t).bind Scalar.of?

theorem own_text_read {v : Json} (scalar : (Scalar.of? v).isSome = true) : Scalar.read? (Schema.ownText v) = Scalar.of? v := by
  cases v with
  | null => rfl
  | bool b => cases b <;> rfl
  | str s =>
    have other : isNumeral (quote s) = false := rfl
    rw [Schema.ownText, Scalar.read?, other, quote_read]
    rfl
  | num n => rw [Schema.ownText, Scalar.read?, number_text_numeral, if_pos rfl, Scalar.of?]
  | arr _ | obj _ => cases scalar

theorem own_text_keeps {v : Json} (scalar : (Scalar.of? v).isSome = true) : TypeExpr.Keeps .outside (Schema.ownText v) := by
  cases v with
  | null => exact TypeExpr.keeps_word (by simp [TypeExpr.IsWord, Schema.ownText])
  | bool b => cases b <;> exact TypeExpr.keeps_word (by simp [TypeExpr.IsWord, Schema.ownText, boolText])
  | str s => exact TypeExpr.keeps_quote s
  | num n => exact TypeExpr.keeps_word (number_text_word n)
  | arr _ | obj _ => cases scalar

theorem scalar_injective {v w : Json} (scalar : (Scalar.of? v).isSome = true) (pv : v.Proper) (pw : w.Proper)
    (same : Scalar.of? v = Scalar.of? w) : v = w := by
  cases v <;> cases w <;> simp only [Scalar.of?, Option.some.injEq, reduceCtorEq, Scalar.bool.injEq, Scalar.text.injEq,
    Scalar.number.injEq, Option.isSome_none, Bool.false_eq_true] at same scalar
  · rfl
  · rw [same]
  · exact congrArg Json.num (number_text_injective pv pw same)
  · rw [same]

end Json

/-! ### Unions -/

namespace TypeExpr

open Json (Scalar)

structure Literals (kind : Primitive) (values : List Json) : Prop where
  scalar : ∀ v ∈ values, (Scalar.of? v).isSome = true
  texts : kind = .string → ∀ v ∈ values, Schema.isText v = true

variable {kind kind' : Primitive} {values values' : List Json}

theorem literals_read (literal : Literals kind values) (some : values ≠ []) :
    (pieces (literals kind values).text).map Scalar.read? = values.map Scalar.of? := by
  have own : pieces (literals kind values).text = values.map Schema.ownText := by
    rw [Schema.literals_own literal.texts, Schema.ownTexts, Script.alternatives_join (by simpa using some)]
    refine pieces_join (by simpa using some) fun x mem => ?_
    obtain ⟨v, listed, rfl⟩ := List.mem_map.mp mem
    exact Json.own_text_keeps (literal.scalar v listed)
  rw [own, List.map_map]
  exact List.map_congr_left fun v mem => Json.own_text_read (literal.scalar v mem)

theorem literals_never (literal : Literals kind values) : (literals kind values).text = "never".toList ↔ values = [] := by
  constructor
  · intro never
    by_contra some
    have read := literals_read literal some
    have nothing : (pieces "never".toList).map Scalar.read? = [none] := by rfl
    rw [never, nothing] at read
    obtain ⟨v, mem, fails⟩ := List.mem_map.mp (read ▸ List.mem_singleton_self none)
    have scalar := literal.scalar v mem
    rw [fails] at scalar
    cases scalar
  · rintro rfl
    rfl

theorem literals_text_injective (literal : Literals kind values) (literal' : Literals kind' values')
    (same : (literals kind' values').text = (literals kind values).text) :
    values'.map Scalar.of? = values.map Scalar.of? := by
  by_cases none : values = []
  · have never := (literals_never literal).mpr none
    rw [← same, literals_never literal'] at never
    rw [none, never]
  · have some' : values' ≠ [] := by
      intro none'
      have never := (literals_never literal').mpr none'
      rw [same, literals_never literal] at never
      exact none never
    rw [← literals_read literal none, ← same, literals_read literal' some']

theorem scalars_injective (scalar : ∀ v ∈ values, (Scalar.of? v).isSome = true) (proper : ∀ v ∈ values ++ values', v.Proper)
    (same : values'.map Scalar.of? = values.map Scalar.of?) : values' = values := by
  induction values generalizing values' with
  | nil => simpa using same
  | cons v rest ih =>
    cases values' with
    | nil => simp at same
    | cons w rest' =>
      simp only [List.map_cons, List.cons.injEq] at same
      have first := Json.scalar_injective (scalar v (by simp)) (proper v (by simp)) (proper w (by simp)) same.1.symm
      rw [first, ih (fun u mem => scalar u (by simp [mem])) (fun u mem => proper u ?_) same.2]
      rcases List.mem_append.mp mem with left | right <;> simp [*]

theorem literals_union_iff (kind : Primitive) (values : List Json) :
    (∃ t, literals kind values = .union t) ↔ 2 ≤ values.length := by
  match values with
  | [] => simp [literals, alternatives]
  | [v] => simp [literals, alternatives]
  | v :: w :: rest => simp [literals, alternatives]

/-- A union of literal values is read back. Its pieces between the bars outside strings are one for each value, in order, and
each is read as its value, the text of a number being kept as it is. The text is `never` exactly if there is no value. Two
lists of values with the same text have the same values, of numbers the same texts; and if the numbers are in their proper
form, as all that are read are, the lists are the same. It is a union exactly if there are at least two values. -/
theorem literal_union_reads_back (kind : Primitive) (values : List Json) (literal : Literals kind values) :
    (values ≠ [] → (pieces (literals kind values).text).map Scalar.read? = values.map Scalar.of?) ∧
      ((literals kind values).text = "never".toList ↔ values = []) ∧
      (∀ kind' values', Literals kind' values' → (literals kind' values').text = (literals kind values).text →
        values'.map Scalar.of? = values.map Scalar.of? ∧ ((∀ v ∈ values ++ values', v.Proper) → values' = values)) ∧
      ((∃ t, literals kind values = .union t) ↔ 2 ≤ values.length) := by
  refine ⟨literals_read literal, literals_never literal, ?_, literals_union_iff kind values⟩
  intro kind' values' literal' same
  have scalars := literals_text_injective literal literal' same
  exact ⟨scalars, fun proper => scalars_injective literal.scalar proper scalars⟩

def oddValues : List Json :=
  [.str "a | \"b\" \\ \n\x01".toList, .str "0.5".toList, .num (.real ⟨true, Nat.pow 2 52, -53⟩), .num (.int (-7)),
    .bool true, .null]

theorem odd_values_read_back :
    Literals .any oddValues ∧ (∀ v ∈ oddValues, v.Proper) ∧
      (literals .any oddValues).text = "\"a | \\\"b\\\" \\\\ \\n\\u0001\" | \"0.5\" | -0.5 | -7 | true | null".toList ∧
      (pieces (literals .any oddValues).text).map Scalar.read? =
        [some (.text "a | \"b\" \\ \n\x01".toList), some (.text "0.5".toList), some (.number "-0.5".toList),
          some (.number "-7".toList), some (.bool true), some .null] := by
  have literal : Literals .any oddValues := ⟨by decide, fun same => by cases same⟩
  refine ⟨literal, ?_, by decide +kernel, ?_⟩
  · simp only [oddValues, List.forall_mem_cons]
    exact ⟨trivial, trivial, ⟨by decide, by decide, Or.inl le_rfl⟩, trivial, trivial, trivial, by simp⟩
  · rw [(literal_union_reads_back .any oddValues literal).1 (by simp [oddValues])]
    decide +kernel

end TypeExpr

end ApiTypes
